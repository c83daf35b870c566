import DashboardGenerator.Text.Quoted
import DashboardGenerator.Text.Utf8

/-!
# Texts of the operating system

The operating system hands over bytes. Those that spell a text are one, and in messages the others are
shown like a text, with two hexadecimal digits for each byte that belongs to no character.
-/

namespace DashboardGenerator.Text

/-- A text, or bytes that spell none. -/
inductive OsText where
  | text (value : String)
  | bytes (value : List UInt8)
deriving Repr, DecidableEq

/-- What the bytes are. -/
def OsText.ofBytes (given : List UInt8) : OsText :=
  match decodeUtf8? given with
  | some value => .text value
  | none => .bytes given

/-- A hexadecimal digit in upper case. -/
def upperDigit (digit : Nat) : Char := (Nat.digitChar digit).toUpper

/-- A byte that belongs to no character. -/
def byteEscape (byte : UInt8) : List Char :=
  ['\\', 'x', upperDigit (byte.toNat / 16), upperDigit (byte.toNat % 16)]

/-- One character between bytes. Other than in a text, both kinds of quotes are told apart. -/
def shownBetweenBytes (character : Char) : List Char :=
  if character = '\'' then ['\\', '\''] else quotedCharacter character

/-- The characters that the bytes spell, with an escape for each byte that belongs to none. -/
def shownBytes : List UInt8 → List Char
  | [] => []
  | lead :: bytes =>
    match (firstUnit lead bytes).1 with
    | some character => shownBetweenBytes character ++ shownBytes (firstUnit lead bytes).2
    | none => byteEscape lead ++ shownBytes bytes
termination_by bytes => bytes.length
decreasing_by
  · have := length_firstUnit_le lead bytes
    simp only [List.length_cons]
    omega
  · simp

/-- The bytes between double quotes. -/
def quotedBytes (value : List UInt8) : String :=
  String.ofList ('"' :: shownBytes value ++ ['"'])

end DashboardGenerator.Text
