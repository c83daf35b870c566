/-!
# Blanks

The white space inside a line.
-/

namespace DashboardGenerator.Text

/-- A space or a tab. -/
def isBlank (character : Char) : Bool :=
  character == ' ' || character == '\t'

end DashboardGenerator.Text
