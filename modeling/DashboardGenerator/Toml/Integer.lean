import DashboardGenerator.Number.Numeral
import DashboardGenerator.Toml.Scalar
import Mathlib.Algebra.Group.Int.Defs

/-!
# Ways to write an integer

An integer is written in decimal, with a sign or without one and without zeros in front, or behind
the mark of another base, without a sign and with zeros in front at will. Single underscores may
stand between the digits.
-/

namespace DashboardGenerator.Toml

open Number

/-- The digits with single underscores between some of them. -/
inductive Underscored : List Char → List Char → Prop
  | single (digit : Char) : Underscored [digit] [digit]
  | next (digit : Char) {digits spelled : List Char} (hrest : Underscored digits spelled) :
      Underscored (digit :: digits) (digit :: spelled)
  | separated (digit : Char) {digits spelled : List Char} (hrest : Underscored digits spelled) :
      Underscored (digit :: digits) (digit :: '_' :: spelled)

/-- Digits may stand without underscores. -/
theorem underscored_self {digits : List Char} (hdigits : digits ≠ []) :
    Underscored digits digits := by
  induction digits with
  | nil => exact absurd rfl hdigits
  | cons digit digits ih =>
      cases digits with
      | nil => exact .single digit
      | cons next digits => exact .next digit (ih nofun)

/-- The letters of the other bases behind a zero. -/
def baseMarks : List (Char × Nat) := [('x', 16), ('o', 8), ('b', 2)]

/-- The sign in front of a number. -/
def Sign.text : Sign → List Char
  | .unsigned => []
  | .plus => ['+']
  | .minus => ['-']

/-- The number with the sign. -/
def Sign.apply (sign : Sign) (number : Nat) : Int :=
  if sign = .minus then -number else number

/-- A way to write an integer, whatever its size. -/
inductive SpellsInteger : List Char → Int → Prop
  | decimal (sign : Sign) {digits spelled : List Char} {number : Nat}
      (hdigits : Spells 10 digits number) (hspelled : Underscored digits spelled)
      (hleading : digits.head? = some '0' → digits = ['0']) :
      SpellsInteger (sign.text ++ spelled) (sign.apply number)
  | marked {mark : Char} {base : Nat} {digits spelled : List Char} {number : Nat}
      (hmark : (mark, base) ∈ baseMarks) (hdigits : Spells base digits number)
      (hspelled : Underscored digits spelled) :
      SpellsInteger ('0' :: mark :: spelled) number

/-- The integer fits into sixty-four bits with a sign. -/
def FitsWord (number : Int) : Prop :=
  -2 ^ 63 ≤ number ∧ number < 2 ^ 63

instance (number : Int) : Decidable (FitsWord number) :=
  inferInstanceAs (Decidable (_ ∧ _))

end DashboardGenerator.Toml
