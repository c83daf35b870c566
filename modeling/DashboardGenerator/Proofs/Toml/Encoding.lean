import DashboardGenerator.Toml.Encoding
import DashboardGenerator.Toml.Token
import Mathlib.Data.List.Basic

/-!
# Reading strings back

A string is read back from every way to write it, whatever follows it: `basic_of_encodes`. Code
points take just their own digits (`hex_digits_of_spells`), so it does not matter what comes behind
them. With its quotes a written string is one token, unless a quote follows it directly
(`basic_token_of_encodes`).
-/

namespace DashboardGenerator.Toml

open Number

/-- Reading digits in a row is reading the first of them and then the others. -/
theorem hex_digits_add (first second value : Nat) (text : List Char) :
    hexDigits? (first + second) value text =
      (hexDigits? first value text).bind fun (found, rest) => hexDigits? second found rest := by
  induction first generalizing value text with
  | zero => rw [Nat.zero_add]; rfl
  | succ first ih =>
      rw [Nat.succ_add]
      cases text with
      | nil => rfl
      | cons character text =>
          rw [hexDigits?, hexDigits?]
          cases hexValue? character with
          | none => rfl
          | some digit => exact ih _ text

/-- Hexadecimal digits are read as the number that they spell, and nothing behind them is. -/
theorem hex_digits_of_spells {digits : List Char} {number : Nat} (hspells : Spells 16 digits number)
    (rest : List Char) : hexDigits? digits.length 0 (digits ++ rest) = some (number, rest) := by
  -- A numeral grows at its end, and the reader comes there with the number of the digits in front.
  induction hspells generalizing rest with
  | nil => rfl
  | digit _ hvalue hcharacter ih =>
      rw [List.length_append, List.append_assoc, hex_digits_add, ih]
      show hexDigits? 1 _ (_ :: rest) = _
      rw [hexDigits?, hex_value_of_is_digit_for hvalue hcharacter]
      rfl

/-- The code point of a character stands for that character. -/
theorem character_of_toNat (character : Char) : character? character.toNat = some character := by
  rw [character?, if_pos (show character.toNat.isValidChar from character.valid), Char.ofNat_toNat]

/-- An escape behind its backslash is read as its character. -/
theorem basic_escape {rest after : List Char} {character : Char}
    (hescape : escape? rest = some (character, after)) :
    basic? ('\\' :: rest) =
      (basic? after).map fun (value, beyond) => (character :: value, beyond) := by
  rw [basic?]
  split
  · next heq => cases hescape.symm.trans heq; rfl
  · next heq => cases hescape.symm.trans heq

/-- A short escape is read as its character. -/
theorem escape_short {letter character : Char} (hletter : (letter, character) ∈ shortEscapes)
    (rest : List Char) : escape? (letter :: rest) = some (character, rest) := by
  simp only [shortEscapes, List.mem_cons, Prod.mk.injEq, List.not_mem_nil, or_false] at hletter
  rcases hletter with ⟨rfl, rfl⟩ | ⟨rfl, rfl⟩ | ⟨rfl, rfl⟩ | ⟨rfl, rfl⟩ | ⟨rfl, rfl⟩ | ⟨rfl, rfl⟩ |
    ⟨rfl, rfl⟩ | ⟨rfl, rfl⟩ <;> rfl

/-- A code point is read as its character, whatever follows its digits. -/
theorem escape_code {mark character : Char} {digits : List Char}
    (hmark : (mark, digits.length) ∈ codeMarks) (hdigits : Spells 16 digits character.toNat)
    (rest : List Char) : escape? (mark :: (digits ++ rest)) = some (character, rest) := by
  have hcode : codeEscape? digits.length (digits ++ rest) = some (character, rest) := by
    rw [codeEscape?, hex_digits_of_spells hdigits]
    show (character? character.toNat).map _ = _
    rw [character_of_toNat]
    rfl
  simp only [codeMarks, List.mem_cons, Prod.mk.injEq, List.not_mem_nil, or_false] at hmark
  rcases hmark with ⟨rfl, hlength⟩ | ⟨rfl, hlength⟩ | ⟨rfl, hlength⟩ <;>
    (rw [hlength] at hcode; exact hcode)

/-- A character is read back from every way to write it, whatever follows it. -/
theorem basic_of_encodes_character {character : Char} {encoding : List Char}
    (hencodes : EncodesCharacter character encoding) (rest : List Char) :
    basic? (encoding ++ rest) =
      (basic? rest).map fun (value, beyond) => (character :: value, beyond) := by
  cases hencodes with
  | raw hquote hbackslash hallowed =>
      have hprintable : isPrintable character = true := by
        rcases hallowed with rfl | ⟨hcontrol, hdelete⟩
        · rfl
        · simp [isPrintable, hcontrol, hdelete]
      rw [List.singleton_append, basic?, if_pos hprintable]
      · exact hquote
      · exact hbackslash
  | short hletter => exact basic_escape (escape_short hletter rest)
  | code hmark hdigits => exact basic_escape (escape_code hmark hdigits rest)

/-- A text is read back from every way to write it, up to the closing quote. -/
theorem basic_of_encodes {text encoding : List Char} (hencodes : Encodes text encoding)
    (rest : List Char) : basic? (encoding ++ '"' :: rest) = some (text, rest) := by
  induction hencodes with
  | nil => rw [List.nil_append, basic?]
  | cons hcharacter _ ih =>
      rw [List.append_assoc, basic_of_encodes_character hcharacter, ih]
      rfl

/-- No character is written with a quote in front. -/
theorem EncodesCharacter.head_ne_quote {character : Char} {encoding : List Char}
    (hencodes : EncodesCharacter character encoding) (rest after : List Char) :
    encoding ++ rest ≠ '"' :: after := by
  intro heq
  cases hencodes with
  | raw hquote => exact hquote (List.cons.inj heq).1
  | short | code => cases heq

/-- A written string is read as one if no quote follows it; after the empty string a quote would
open one of several lines. -/
theorem basic_token_of_encodes {text encoding : List Char} (hencodes : Encodes text encoding)
    {rest : List Char} (hrest : '"' ∉ rest.head?) :
    basicToken? (encoding ++ '"' :: rest) = some (.string false text, rest) := by
  have hline : ∀ after, encoding ++ '"' :: rest ≠ '"' :: '"' :: after := by
    intro after heq
    cases hencodes with
    | nil =>
        rw [List.nil_append, List.cons.injEq] at heq
        exact hrest (by rw [heq.2]; rfl)
    | cons hcharacter =>
        rw [List.append_assoc] at heq
        exact hcharacter.head_ne_quote _ _ heq
  unfold basicToken?
  split
  · next heq => exact absurd heq (hline _)
  · rw [basic_of_encodes hencodes]
    rfl

end DashboardGenerator.Toml
