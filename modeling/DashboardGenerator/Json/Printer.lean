import DashboardGenerator.Json.Basic
import DashboardGenerator.Number.Digits

/-!
# Writing JSON

Two layouts of one document. The compact one has no white space outside strings; the indented one
puts every element and every field on a line of its own, two spaces deeper than what holds it, and
writes an empty array or object without a line break. Strings are written alike in both.
-/

namespace DashboardGenerator.Json

open Number

/-- How one character of a string is written: the quote, the backslash and the control characters
are escaped, the common ones by a letter, and all else stands for itself. -/
def escape (character : Char) : List Char :=
  if character = '"' then ['\\', '"']
  else if character = '\\' then ['\\', '\\']
  else if character = '\n' then ['\\', 'n']
  else if character = '\r' then ['\\', 'r']
  else if character = '\t' then ['\\', 't']
  else if character = '\x08' then ['\\', 'b']
  else if character = '\x0c' then ['\\', 'f']
  else if character.toNat < 0x20 then
    ['\\', 'u', '0', '0', hexDigit (character.toNat / 16), hexDigit (character.toNat % 16)]
  else [character]

/-- A string between quotes. -/
def quote (text : List Char) : List Char :=
  '"' :: text.flatMap escape ++ ['"']

/-- A value without parts. -/
def scalarText : Json → List Char
  | .bool true => ['t', 'r', 'u', 'e']
  | .bool false => ['f', 'a', 'l', 's', 'e']
  | .number value => Nat.toDigits 10 value
  | .string value => quote value.toList
  | .null | .array _ | .object _ => ['n', 'u', 'l', 'l']

mutual

/-- The compact layout. -/
def compact : Json → List Char
  | .array items => '[' :: compactItems items ++ [']']
  | .object fields => '\x7b' :: compactFields fields ++ ['\x7d']
  | .null => scalarText .null
  | .bool value => scalarText (.bool value)
  | .number value => scalarText (.number value)
  | .string value => scalarText (.string value)
termination_by structural value => value

/-- Elements separated by commas. -/
def compactItems : List Json → List Char
  | [] => []
  | [item] => item.compact
  | item :: rest => item.compact ++ ',' :: compactItems rest
termination_by structural items => items

/-- Fields separated by commas. -/
def compactFields : List (String × Json) → List Char
  | [] => []
  | [(key, value)] => quote key.toList ++ ':' :: value.compact
  | (key, value) :: rest =>
    quote key.toList ++ ':' :: value.compact ++ ',' :: compactFields rest
termination_by structural fields => fields

end

/-- A line break and the indentation of a nesting depth. -/
def lineBreak (depth : Nat) : List Char :=
  '\n' :: List.replicate (2 * depth) ' '

mutual

/-- The indented layout of a value that stands at a nesting depth. -/
def indented (depth : Nat) : Json → List Char
  | .array [] => ['[', ']']
  | .array items => '[' :: indentedItems (depth + 1) items ++ lineBreak depth ++ [']']
  | .object [] => ['\x7b', '\x7d']
  | .object fields =>
    '\x7b' :: indentedFields (depth + 1) fields ++ lineBreak depth ++ ['\x7d']
  | .null => scalarText .null
  | .bool value => scalarText (.bool value)
  | .number value => scalarText (.number value)
  | .string value => scalarText (.string value)
termination_by structural value => value

/-- Elements, each on a line of its own. -/
def indentedItems (depth : Nat) : List Json → List Char
  | [] => []
  | [item] => lineBreak depth ++ item.indented depth
  | item :: rest => lineBreak depth ++ item.indented depth ++ ',' :: indentedItems depth rest
termination_by structural items => items

/-- Fields, each on a line of its own. -/
def indentedFields (depth : Nat) : List (String × Json) → List Char
  | [] => []
  | [(key, value)] =>
    lineBreak depth ++ quote key.toList ++ ':' :: ' ' :: value.indented depth
  | (key, value) :: rest =>
    lineBreak depth ++ quote key.toList ++ ':' :: ' ' :: value.indented depth ++
      ',' :: indentedFields depth rest
termination_by structural fields => fields

end

/-- The text of a document, indented or compact. -/
def text (value : Json) (pretty : Bool) : String :=
  String.ofList (if pretty then value.indented 0 else value.compact)

end DashboardGenerator.Json
