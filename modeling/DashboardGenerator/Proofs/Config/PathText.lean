import DashboardGenerator.Config.PathText
import DashboardGenerator.Proofs.Json.Lexing
import DashboardGenerator.Proofs.Toml.Lexing

/-!
# Paths and their text

A path whose steps are words and indexes is read back from the key that stands for it:
`path_of_text`. Each step ends where the next one begins, with a point or an opening bracket.
-/

namespace DashboardGenerator.Config

open Number

/-- The text ends a key in front of it. -/
def EndsKey (text : List Char) : Prop :=
  ∀ next ∈ text.head?, isPathCharacter next = false

/-- The text of further steps ends a key. -/
theorem ends_key_spelled (steps : List Step) : EndsKey (steps.flatMap Step.spelled) := by
  intro next hnext
  cases steps with
  | nil => cases hnext
  | cons step steps => cases step <;> (cases hnext; rfl)

/-- A word is read as a key up to what ends it. -/
theorem path_key_append {name : String} (hname : Toml.IsBareKey name) {rest : List Char}
    (hrest : EndsKey rest) : pathKey? (name.toList ++ rest) = some (name, rest) := by
  obtain ⟨hne, hkey, -⟩ := Toml.bare_key_eq_some_iff.mp hname
  have hall : ∀ character ∈ name.toList, isPathCharacter character = true := hkey
  have htake : (name.toList ++ rest).takeWhile isPathCharacter = name.toList := by
    rw [List.takeWhile_append_of_pos hall]
    cases rest with
    | nil => simp
    | cons next rest => simp [hrest next rfl]
  have hdrop : (name.toList ++ rest).dropWhile isPathCharacter = rest := by
    rw [List.dropWhile_append_of_pos hall]
    cases rest with
    | nil => simp
    | cons next rest => simp [hrest next rfl]
  simp only [pathKey?, htake, hdrop, String.ofList_toList]
  exact if_neg (by simpa using hne)

/-- The digits of a number are read as an index up to the closing bracket. -/
theorem path_index_append {position : Nat} (hposition : position < indexLimit) (rest : List Char) :
    pathIndex? (Nat.toDigits 10 position ++ ']' :: rest) = some (↑position, rest) := by
  have hdigits : ∀ digit ∈ Nat.toDigits 10 position, digit.isDigit = true :=
    fun digit hmem => Nat.isDigit_of_mem_toDigits (by decide) (by decide) hmem
  have htake : (Nat.toDigits 10 position ++ ']' :: rest).takeWhile Char.isDigit =
      Nat.toDigits 10 position := by
    rw [List.takeWhile_append_of_pos hdigits]
    simp
  have hdrop : (Nat.toDigits 10 position ++ ']' :: rest).dropWhile Char.isDigit =
      ']' :: rest := by
    rw [List.dropWhile_append_of_pos hdigits]
    simp
  -- The first digit is neither a blank nor a hyphen.
  obtain ⟨first, digits, hshape⟩ := List.exists_cons_of_ne_nil (Nat.toDigits_ne_nil (n := position))
  have hfirst : first.isDigit = true := hdigits first (by rw [hshape]; exact List.mem_cons_self)
  have hblank : Text.isBlank first = false := by
    simp only [Text.isBlank, Bool.or_eq_false_iff, beq_eq_false_iff_ne]
    refine ⟨?_, ?_⟩ <;> (rintro rfl; exact absurd hfirst (by decide))
  have hsplit : splitHyphen ((Nat.toDigits 10 position ++ ']' :: rest).dropWhile Text.isBlank) =
      (false, Nat.toDigits 10 position ++ ']' :: rest) := by
    rw [hshape, List.cons_append, List.dropWhile_cons_of_neg (by simp [hblank])]
    unfold splitHyphen
    split
    · next heq =>
        cases heq
        exact absurd hfirst (by decide)
    · rfl
  have hindex : indexOf? false (Nat.toDigits 10 position) = some ↑position := by
    have hsome : ¬(Nat.toDigits 10 position).isEmpty = true := by simp [hshape]
    rw [indexOf?, Json.decimal_value_to_digits, if_neg hsome, if_neg Bool.false_ne_true]
    exact if_pos hposition
  rw [pathIndex?, hsplit]
  dsimp only
  rw [htake, hdrop, hindex]
  rfl

/-- Steps are read back from their text. -/
theorem steps_of_spelled {steps : List Step} (hsteps : ∀ step ∈ steps, step.IsSpelled) :
    steps? (steps.flatMap Step.spelled) = some steps := by
  induction steps with
  | nil => rw [List.flatMap_nil, steps?]
  | cons step steps ih =>
      obtain ⟨hstep, hothers⟩ := List.forall_mem_cons.mp hsteps
      cases step with
      | key name =>
          have hread := path_key_append hstep (ends_key_spelled steps)
          rw [List.flatMap_cons, Step.spelled, List.cons_append, steps?]
          split
          · next heq =>
              cases hread.symm.trans heq
              rw [ih hothers]
              rfl
          · next heq => cases hread.symm.trans heq
      | index position =>
          obtain ⟨position, rfl⟩ := Int.eq_ofNat_of_zero_le hstep.1
          have hread := path_index_append (Int.ofNat_lt.mp hstep.2)
            (steps.flatMap Step.spelled)
          have htext : (Step.index position).spelled ++ steps.flatMap Step.spelled =
              '[' :: (Nat.toDigits 10 position ++ ']' :: steps.flatMap Step.spelled) := by
            have hnumber : (integerText ↑position).toList = Nat.toDigits 10 position := by
              rw [integerText, if_neg (Int.not_lt.mpr hstep.1), String.toList_ofList,
                Int.natAbs_natCast]
            simp only [Step.spelled, hnumber, List.cons_append, List.append_assoc, List.nil_append]
          rw [List.flatMap_cons, htext, steps?]
          split
          · next heq =>
              cases hread.symm.trans heq
              rw [ih hothers]
              rfl
          · next heq => cases hread.symm.trans heq

/-- A path whose steps are spelled is read back from its text. -/
theorem path_of_text {path : Path} (hpath : ∀ step ∈ path.allSteps, step.IsSpelled) :
    Path.ofKey path.text = path := by
  obtain ⟨hroot, hsteps⟩ := List.forall_mem_cons.mp hpath
  rw [Path.ofKey, Path.ofText?, Path.text, String.toList_ofList,
    path_key_append hroot (ends_key_spelled path.steps)]
  show ((steps? (path.steps.flatMap Step.spelled)).bind fun steps =>
    some (Path.mk path.root steps)).getD _ = _
  rw [steps_of_spelled hsteps]
  rfl

end DashboardGenerator.Config
