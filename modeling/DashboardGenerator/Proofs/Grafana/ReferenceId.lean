import DashboardGenerator.Grafana.ReferenceId
import Mathlib.Data.List.Nodup

/-!
# Reference identifiers are numerals

`letterValue` reads letters as a bijective numeral of base twenty-six. It gives the position of a
reference identifier back, counted from one, so different positions have different identifiers.
-/

namespace DashboardGenerator.Grafana

/-- The number that capital letters spell, `A` being one. -/
def letterValue (letters : List Char) : Nat :=
  letters.foldl (fun value letter => 26 * value + (letter.toNat - 64)) 0

/-- A letter behind others counts as their value times twenty-six and its own. -/
theorem letter_value_append (letters : List Char) (letter : Char) :
    letterValue (letters ++ [letter]) = 26 * letterValue letters + (letter.toNat - 64) := by
  simp [letterValue]

/-- The letter of a digit stands for one more than the digit. -/
theorem toNat_reference_letter {digit : Nat} (hdigit : digit < 26) :
    (referenceLetter digit).toNat - 64 = digit + 1 := by
  have hall : ∀ digit < 26, (referenceLetter digit).toNat - 64 = digit + 1 := by decide
  exact hall digit hdigit

/-- The letters of a position spell one more than the position. -/
theorem letter_value_reference_letters (position : Nat) :
    letterValue (referenceLetters position) = position + 1 := by
  fun_induction referenceLetters position with
  | case1 position hsmall =>
      rw [← List.nil_append [referenceLetter position], letter_value_append,
        toNat_reference_letter hsmall]
      simp [letterValue]
  | case2 position hlarge ih =>
      -- The last letter is the remainder, and the letters in front of it spell the quotient.
      rw [letter_value_append, ih, toNat_reference_letter (Nat.mod_lt _ (by decide))]
      omega

/-- Different positions have different identifiers. -/
theorem reference_id_injective : Function.Injective referenceId := by
  intro position other heq
  have hletters : referenceLetters position = referenceLetters other :=
    String.ofList_injective heq
  have hvalue := congrArg letterValue hletters
  rw [letter_value_reference_letters, letter_value_reference_letters] at hvalue
  exact Nat.succ.inj hvalue

end DashboardGenerator.Grafana
