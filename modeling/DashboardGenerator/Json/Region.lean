import DashboardGenerator.Json.Token

/-!
# Inside and outside of string literals

A JSON text is walked through from its first character on. A quote opens a literal and the next one
closes it, but behind a backslash a character belongs to the literal whatever it is. What is white
space outside of literals is layout; inside of them it is content.
-/

namespace DashboardGenerator.Json

/-- Where a character of a text stands: outside of string literals, inside of one, or inside of one
behind a backslash. -/
inductive Region where
  | outside
  | inside
  | escaped
deriving Repr, DecidableEq

/-- Where the next character stands. -/
def Region.next : Region → Char → Region
  | .outside, character => if character = '"' then .inside else .outside
  | .inside, character =>
    if character = '"' then .outside else if character = '\\' then .escaped else .inside
  | .escaped, _ => .inside

/-- Where the next character stands behind a text. -/
def Region.behind (region : Region) (text : List Char) : Region :=
  text.foldl Region.next region

/-- The characters of a text, each with the region where it stands. -/
def regions (region : Region) : List Char → List (Region × Char)
  | [] => []
  | character :: rest => (region, character) :: regions (region.next character) rest

/-- The character is white space between the tokens of a text. -/
def isLayout (entry : Region × Char) : Bool :=
  entry.1 = .outside && isWhite entry.2

/-- The text without the white space that stands outside of string literals. -/
def withoutLayout (text : List Char) : List Char :=
  ((regions .outside text).filter fun entry => !isLayout entry).map Prod.snd

end DashboardGenerator.Json
