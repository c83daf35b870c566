import DashboardGenerator.Text.Unprintable

/-!
# Quoted text in messages

A text is shown between double quotes so that every character can be told: quotes, backslashes and
the common controls by a short escape, other characters without a form of their own by their code
point in hexadecimal, and all else as itself.
-/

namespace DashboardGenerator.Text

/-- The code point of a character in lower-case hexadecimal between braces. -/
def codeEscape (character : Char) : List Char :=
  '\\' :: 'u' :: '\x7b' :: Nat.toDigits 16 character.toNat ++ ['\x7d']

/-- One character of a quoted text. -/
def quotedCharacter (character : Char) : List Char :=
  if character = '\x00' then ['\\', '0']
  else if character = '\t' then ['\\', 't']
  else if character = '\n' then ['\\', 'n']
  else if character = '\r' then ['\\', 'r']
  else if character = '"' then ['\\', '"']
  else if character = '\\' then ['\\', '\\']
  else if unprintable.contains character then codeEscape character
  else [character]

/-- The text between double quotes. -/
def quoted (text : String) : String :=
  String.ofList ('"' :: text.toList.flatMap quotedCharacter ++ ['"'])

end DashboardGenerator.Text
