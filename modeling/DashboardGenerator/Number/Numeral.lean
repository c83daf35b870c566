import DashboardGenerator.Number.Digits
import Mathlib.Data.List.Forall2

/-!
# Numerals

A numeral of a base is a row of digits, the highest place first. The digits from ten on are letters,
of either case.
-/

namespace DashboardGenerator.Number

/-- The character is the digit of a value below sixteen. -/
def IsDigitFor (character : Char) (value : Nat) : Prop :=
  character = Nat.digitChar value ∨ character = (Nat.digitChar value).toUpper

instance (character : Char) (value : Nat) : Decidable (IsDigitFor character value) :=
  inferInstanceAs (Decidable (_ ∨ _))

/-- The digits spell the number in the base: each further digit moves the others one place up. -/
inductive Spells (base : Nat) : List Char → Nat → Prop
  | nil : Spells base [] 0
  | digit {digits : List Char} {number : Nat} {character : Char} {value : Nat}
      (hdigits : Spells base digits number) (hvalue : value < base)
      (hcharacter : IsDigitFor character value) :
      Spells base (digits ++ [character]) (base * number + value)

/-- A digit of either case is read as its value. -/
theorem hex_value_of_is_digit_for {character : Char} {value : Nat} (hvalue : value < 16)
    (hcharacter : IsDigitFor character value) : hexValue? character = some value := by
  have hall : ∀ value < 16, hexValue? (Nat.digitChar value) = some value ∧
      hexValue? (Nat.digitChar value).toUpper = some value := by decide
  obtain ⟨hlower, hupper⟩ := hall value hvalue
  rcases hcharacter with rfl | rfl
  · exact hlower
  · exact hupper

/-- What holds of the digits of a base holds of all digits of a numeral. -/
theorem Spells.forall_mem {base : Nat} {digits : List Char} {number : Nat} {p : Char → Prop}
    (hspells : Spells base digits number)
    (hdigit : ∀ value < base, ∀ character, IsDigitFor character value → p character) :
    ∀ character ∈ digits, p character := by
  induction hspells with
  | nil => nofun
  | digit _ hvalue hcharacter ih =>
      intro character hmem
      rcases List.mem_append.mp hmem with hfront | hlast
      · exact ih character hfront
      · rw [List.mem_singleton.mp hlast]
        exact hdigit _ hvalue _ hcharacter

/-- Digits of known values are put behind a numeral one by one. -/
theorem Spells.append {base : Nat} {front : List Char} {number : Nat}
    (hfront : Spells base front number) {digits : List Char} {values : List Nat}
    (hdigits : List.Forall₂ (fun character value => value < base ∧ IsDigitFor character value)
      digits values) :
    Spells base (front ++ digits)
      (values.foldl (fun number value => base * number + value) number) := by
  induction hdigits generalizing front number with
  | nil => simpa using hfront
  | cons hdigit _ ih => simpa using ih (hfront.digit hdigit.1 hdigit.2)

end DashboardGenerator.Number
