import DashboardGenerator.Text.Lowercase
import Mathlib.Data.List.Basic

/-!
# Lower case of ASCII

On ASCII, lower case is the map of single letters (`lowercase_of_ascii`). Outside of ASCII some
characters become ASCII letters all the same: the dotted capital I starts with an `i`, and the Kelvin
sign becomes a `k`. A text that starts with other letters in lower case starts with letters of ASCII
(`split_of_prefix_lower`), and one that becomes a word of such letters is of ASCII as a whole
(`lowercase_eq_iff`).
-/

namespace DashboardGenerator.Text

/-- The character is one of ASCII. -/
def IsAscii (character : Char) : Prop := character.toNat < 0x80

instance (character : Char) : Decidable (IsAscii character) :=
  inferInstanceAs (Decidable (_ < _))

/-- A character of ASCII that none outside of ASCII becomes in lower case. The character zero is left
out, since code points that are not valid stand for it. -/
def IsPlainLower (character : Char) : Prop :=
  IsAscii character ∧ character ≠ 'i' ∧ character ≠ 'k' ∧ character ≠ '\x00'

instance (character : Char) : Decidable (IsPlainLower character) :=
  inferInstanceAs (Decidable (_ ∧ _))

/-- All characters of the text are such. -/
def AllPlainLower (text : List Char) : Prop := ∀ character ∈ text, IsPlainLower character

instance (text : List Char) : Decidable (AllPlainLower text) :=
  List.decidableBAll IsPlainLower text

/-- A character is that of its code point, if this is one of a character. -/
theorem toNat_of_nat (code : Nat) :
    (Char.ofNat code).toNat = code ∨ (Char.ofNat code).toNat = 0 := by
  by_cases hvalid : code.isValidChar
  · exact .inl (congrArg Char.toNat (dif_pos hvalid))
  · exact .inr (congrArg Char.toNat (dif_neg hvalid))

/-- Within ASCII a text is put into lower case character by character. -/
theorem toList_toLower (text : String) : text.toLower.toList = text.toList.map Char.toLower :=
  String.toList_map

/-- Putting a letter of ASCII into lower case leaves ASCII alone. -/
theorem is_ascii_of_toLower {character : Char} (hascii : IsAscii character.toLower) :
    IsAscii character := by
  unfold Char.toLower at hascii
  split at hascii
  next hupper =>
      have hle : character.val.toNat ≤ 'Z'.val.toNat := hupper.2
      exact Nat.lt_of_le_of_lt hle (by decide)
  · exact hascii

/-- The capitals of ASCII are the first run, and all other runs lie outside of ASCII. -/
theorem lower_runs_ascii :
    ∃ others, lowerRuns = ⟨0x41, 0x5A, 1, 32⟩ :: others ∧ ∀ run ∈ others, 0x80 ≤ run.first :=
  ⟨_, rfl, by decide +kernel⟩

/-- The lower-case counterpart of a character of ASCII is the one within ASCII. -/
theorem lower_map_of_is_ascii {character : Char} (hascii : IsAscii character) :
    lowerMap character = character.toLower := by
  obtain ⟨others, htable, hothers⟩ := lower_runs_ascii
  have hnone : others.find? (fun run => run.covers character.toNat) = none := by
    rw [List.find?_eq_none]
    intro run hmem hcovers
    have hfirst := hothers run hmem
    have hlt : character.toNat < 0x80 := hascii
    simp only [CaseRun.covers, Bool.and_eq_true, decide_eq_true_eq] at hcovers
    omega
  have hcovers : CaseRun.covers ⟨0x41, 0x5A, 1, 32⟩ character.toNat =
      decide (0x41 ≤ character.toNat ∧ character.toNat ≤ 0x5A) := by
    simp [CaseRun.covers, Nat.mod_one]
  have hletters : ∀ code < 0x80, (if 0x41 ≤ code ∧ code ≤ 0x5A then Char.ofNat (code + 32)
      else Char.ofNat code) = (Char.ofNat code).toLower := by decide +kernel
  have hletter := hletters character.toNat hascii
  rw [Char.ofNat_toNat] at hletter
  rw [← hletter, lowerMap, htable, List.find?_cons, hnone, hcovers]
  by_cases hcapital : 0x41 ≤ character.toNat ∧ character.toNat ≤ 0x5A
  · rw [if_pos hcapital, decide_eq_true hcapital]
    rfl
  · rw [if_neg hcapital, decide_eq_false hcapital]

/-- The runs of capitals lie in ASCII, or lead out of it, or hold the Kelvin sign alone. -/
theorem lower_runs_leave_ascii : ∀ run ∈ lowerRuns, run.last < 0x80 ∨
    (run.first = 0x212A ∧ run.last = 0x212A ∧ run.offset = -8383) ∨
    0x80 ≤ (run.first : Int) + run.offset := by
  decide +kernel

/-- Only characters of ASCII have such a lower-case counterpart. -/
theorem is_ascii_of_lower_map {character lower : Char} (hlower : IsPlainLower lower)
    (hmap : lowerMap character = lower) : IsAscii character := by
  obtain ⟨hascii, -, hkelvin, hzero⟩ := hlower
  unfold lowerMap at hmap
  cases hrun : lowerRuns.find? fun run => run.covers character.toNat with
  | none =>
      rw [hrun] at hmap
      obtain rfl : character = lower := hmap
      exact hascii
  | some run =>
      rw [hrun] at hmap
      dsimp only at hmap
      have hcovers := List.find?_some hrun
      simp only [CaseRun.covers, Bool.and_eq_true, decide_eq_true_eq] at hcovers
      obtain ⟨⟨hfirst, hlast⟩, -⟩ := hcovers
      rcases lower_runs_leave_ascii run (List.mem_of_find?_eq_some hrun) with
        hrange | ⟨hsign, hend, hoffset⟩ | hrange
      · exact Nat.lt_of_le_of_lt hlast hrange
      · -- The Kelvin sign becomes a letter that is excluded.
        have hcode : character.toNat = 0x212A := by omega
        rw [hcode, hoffset] at hmap
        exact absurd hmap.symm hkelvin
      · -- Such a code point is none of ASCII, and no code point gives the character zero.
        have hcode : 0x80 ≤ ((character.toNat : Int) + run.offset).toNat := by omega
        have hlt : lower.toNat < 0x80 := hascii
        rcases toNat_of_nat ((character.toNat : Int) + run.offset).toNat with heq | heq
        · rw [hmap] at heq
          omega
        · rw [hmap] at heq
          exact absurd (Char.toNat_inj.mp heq) hzero

/-- Between any texts, a character of ASCII becomes the one letter. -/
theorem lower_between_of_is_ascii {character : Char} (hascii : IsAscii character)
    (before after : List Char) : lowerBetween before character after = [character.toLower] := by
  have hsigma : character ≠ 'Σ' := by
    rintro rfl
    exact absurd hascii (by decide)
  have hdotted : character ≠ 'İ' := by
    rintro rfl
    exact absurd hascii (by decide)
  rw [lowerBetween, if_neg hsigma, if_neg hdotted, lower_map_of_is_ascii hascii]

theorem lower_after_of_is_ascii {text : List Char} (hascii : ∀ character ∈ text, IsAscii character)
    (before : List Char) : lowerAfter before text = text.map Char.toLower := by
  induction text generalizing before with
  | nil => rfl
  | cons character text ih =>
      obtain ⟨hcharacter, htext⟩ := List.forall_mem_cons.mp hascii
      rw [lowerAfter, lower_between_of_is_ascii hcharacter, ih htext]
      rfl

/-- A text of ASCII is put into lower case letter by letter. -/
theorem lowercase_of_ascii {text : String}
    (hascii : ∀ character ∈ text.toList, IsAscii character) : lowercase text = text.toLower := by
  rw [lowercase, lower_after_of_is_ascii hascii, ← toList_toLower, String.ofList_toList]

/-- A character that becomes such a one first is none with a rule of its own. -/
theorem lower_between_of_is_plain_lower {before after more : List Char} {character lower : Char}
    (hlower : IsPlainLower lower)
    (hhead : (lowerBetween before character after ++ more).head? = some lower) :
    lowerBetween before character after = [lowerMap character] := by
  rw [lowerBetween] at hhead ⊢
  by_cases hsigma : character = 'Σ'
  · rw [if_pos hsigma] at hhead
    split at hhead <;> (cases hhead; exact absurd hlower (by decide))
  by_cases hdotted : character = 'İ'
  · rw [if_neg hsigma, if_pos hdotted] at hhead
    cases hhead
    exact absurd hlower (by decide)
  rw [if_neg hsigma, if_neg hdotted]

/-- What starts with such characters in lower case starts with as many characters of ASCII, each of
which becomes one of them. -/
theorem split_of_prefix_lower {start text before : List Char}
    (hstart : AllPlainLower start) (hstarts : start <+: lowerAfter before text) :
    ∃ first rest passed, text = first ++ rest ∧ first.map Char.toLower = start ∧
      lowerAfter before text = start ++ lowerAfter passed rest := by
  induction start generalizing text before with
  | nil => exact ⟨[], text, before, rfl, rfl, rfl⟩
  | cons lower start ih =>
      obtain ⟨hlower, hothers⟩ := List.forall_mem_cons.mp hstart
      cases text with
      | nil => exact absurd (List.prefix_nil.mp hstarts) (List.cons_ne_nil _ _)
      | cons character text =>
          have hhead : (lowerAfter before (character :: text)).head? = some lower := by
            obtain ⟨rest, hrest⟩ := hstarts
            rw [← hrest]
            rfl
          rw [lowerAfter, lower_between_of_is_plain_lower hlower hhead, List.singleton_append]
            at hstarts ⊢
          obtain ⟨rfl, hrest⟩ := List.cons_prefix_cons.mp hstarts
          obtain ⟨first, rest, passed, rfl, rfl, hafter⟩ := ih hothers hrest
          refine ⟨character :: first, rest, passed, rfl, ?_, congrArg (_ :: ·) hafter⟩
          rw [List.map_cons, lower_map_of_is_ascii (is_ascii_of_lower_map hlower rfl)]

/-- No character disappears in lower case. -/
theorem lower_between_ne_nil (before : List Char) (character : Char) (after : List Char) :
    lowerBetween before character after ≠ [] := by
  unfold lowerBetween
  repeat' split
  all_goals exact List.cons_ne_nil _ _

/-- Characters that put ASCII text into lower case are of ASCII themselves. -/
theorem is_ascii_of_map_toLower {text lower : List Char} (htext : text.map Char.toLower = lower)
    (hlower : ∀ character ∈ lower, IsAscii character) : ∀ character ∈ text, IsAscii character := by
  intro character hmem
  subst htext
  exact is_ascii_of_toLower (hlower _ (List.mem_map_of_mem hmem))

/-- The texts that become a word of such characters are those that become it within ASCII. -/
theorem lowercase_eq_iff {text word : String} (hword : AllPlainLower word.toList) :
    lowercase text = word ↔ text.toLower = word := by
  constructor
  · intro hlower
    have hchars : lowerAfter [] text.toList = word.toList := by
      rw [← hlower, lowercase, String.toList_ofList]
    obtain ⟨first, rest, passed, htext, hfirst, hafter⟩ :=
      split_of_prefix_lower hword ⟨[], by rw [List.append_nil, hchars]⟩
    obtain rfl : rest = [] := by
      cases rest with
      | nil => rfl
      | cons character rest =>
          have hnone : lowerAfter passed (character :: rest) = [] :=
            List.append_right_eq_self.mp (hafter.symm.trans hchars)
          exact absurd (List.append_eq_nil_iff.mp hnone).1 (lower_between_ne_nil _ _ _)
    rw [← String.toList_inj, toList_toLower, htext, List.append_nil, hfirst]
  · rintro rfl
    refine lowercase_of_ascii (is_ascii_of_map_toLower (toList_toLower text).symm ?_)
    exact fun character hmem => (hword character hmem).1

end DashboardGenerator.Text
