import DashboardGenerator.Text.OsText

/-!
# Environments

The variables of a process. A variable whose name is no text is none of the program's concern, so names
are texts; a value need not be one.
-/

namespace DashboardGenerator

open Text

/-- The variables of a process. -/
abbrev Environment := List (String × OsText)

namespace Environment

/-- Variables whose values are texts. -/
def ofTexts (entries : List (String × String)) : Environment :=
  entries.map fun (name, value) => (name, .text value)

/-- The value of a variable, if it has one that is a text. -/
def text? (environment : Environment) (name : String) : Option String :=
  match environment.lookup name with
  | some (.text value) => some value
  | some (.bytes _) | none => none

end Environment

end DashboardGenerator
