import DashboardGenerator.Number.Numeral
import DashboardGenerator.Toml.Quoted

/-!
# Ways to write a string

A basic string may hold a character as itself, by a short escape, or by its code point in two, four
or eight hexadecimal digits. Each character is written in a way of its own, and nothing stands
between them, so a digit or a backslash may follow a code point directly.
-/

namespace DashboardGenerator.Toml

open Number

/-- The letters of the short escapes and what they stand for. -/
def shortEscapes : List (Char × Char) :=
  [('b', '\x08'), ('t', '\t'), ('n', '\n'), ('f', '\x0c'), ('r', '\r'), ('e', '\x1b'), ('"', '"'),
    ('\\', '\\')]

/-- The letters in front of a code point and how many digits follow them. -/
def codeMarks : List (Char × Nat) :=
  [('x', 2), ('u', 4), ('U', 8)]

/-- A way to write one character in a basic string. -/
inductive EncodesCharacter (character : Char) : List Char → Prop
  | raw (hquote : character ≠ '"') (hbackslash : character ≠ '\\')
      (hallowed : character = '\t' ∨ 0x20 ≤ character.toNat ∧ character.toNat ≠ 0x7F) :
      EncodesCharacter character [character]
  | short {letter : Char} (hletter : (letter, character) ∈ shortEscapes) :
      EncodesCharacter character ['\\', letter]
  | code {mark : Char} {digits : List Char} (hmark : (mark, digits.length) ∈ codeMarks)
      (hdigits : Spells 16 digits character.toNat) :
      EncodesCharacter character ('\\' :: mark :: digits)

/-- A way to write a text in a basic string: each of its characters in some way. -/
inductive Encodes : List Char → List Char → Prop
  | nil : Encodes [] []
  | cons {character : Char} {text encoding rest : List Char}
      (hcharacter : EncodesCharacter character encoding) (htext : Encodes text rest) :
      Encodes (character :: text) (encoding ++ rest)

end DashboardGenerator.Toml
