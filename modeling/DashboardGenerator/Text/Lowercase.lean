import DashboardGenerator.Text.Cased
import DashboardGenerator.Text.LowerMap

/-!
# Lower case

Text is put into lower case character by character, with two exceptions: the dotted capital I
becomes two characters, and the capital sigma takes its final form at the end of a word. A word
ends where a cased letter precedes and none follows, characters that case ignores passed over.
-/

namespace DashboardGenerator.Text

/-- The first character that case does not ignore is cased. -/
def meetsCased (text : List Char) : Bool :=
  match text.find? fun character => !caseIgnorable.contains character with
  | some character => cased.contains character
  | none => false

/-- The lower-case form of a character between the text before it, nearest character first, and
the text after it. -/
def lowerBetween (before : List Char) (character : Char) (after : List Char) : List Char :=
  if character = 'Σ' then
    if meetsCased before && !meetsCased after then ['ς'] else ['σ']
  else if character = 'İ' then ['i', '\u0307']
  else [lowerMap character]

/-- The lower-case form of a text whose preceding text, nearest character first, is given. -/
def lowerAfter (before : List Char) : List Char → List Char
  | [] => []
  | character :: after =>
    lowerBetween before character after ++ lowerAfter (character :: before) after

/-- The text in lower case. -/
def lowercase (text : String) : String :=
  String.ofList (lowerAfter [] text.toList)

end DashboardGenerator.Text
