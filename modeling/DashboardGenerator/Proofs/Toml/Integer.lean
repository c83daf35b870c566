import DashboardGenerator.Proofs.Toml.Lexing
import DashboardGenerator.Toml.Integer

/-!
# Reading integers

Every way to write an integer is read as that integer if it fits into sixty-four bits, and else as a
number without a value, never as another one: `scalar_of_spells_integer`. Digits are summed up place
by place (`numeral_of_spells`), and underscores that stand between digits are no more than left out
(`Underscored.without`).
-/

namespace DashboardGenerator.Toml

open Number

/-! ## Digits -/

/-- The digits of a base up to sixteen are digits of it and none of the other characters of a word.
-/
structure IsFigureOf (base : Nat) (character : Char) : Prop where
  value : ∃ value < base, hexValue? character = some value
  ne_underscore : character ≠ '_'

theorem is_figure_of_is_digit_for {base : Nat} (hbase : base ≤ 16) {character : Char} {value : Nat}
    (hvalue : value < base) (hcharacter : IsDigitFor character value) :
    IsFigureOf base character := by
  have hall : ∀ value < 16, Nat.digitChar value ≠ '_' ∧ (Nat.digitChar value).toUpper ≠ '_' := by
    decide
  have hsmall : value < 16 := Nat.lt_of_lt_of_le hvalue hbase
  refine ⟨⟨value, hvalue, hex_value_of_is_digit_for hsmall hcharacter⟩, ?_⟩
  obtain ⟨hlower, hupper⟩ := hall value hsmall
  rcases hcharacter with rfl | rfl
  · exact hlower
  · exact hupper

/-- All digits of a numeral are digits of its base. -/
theorem figures_of_spells {base : Nat} (hbase : base ≤ 16) {digits : List Char} {number : Nat}
    (hspells : Spells base digits number) : ∀ character ∈ digits, IsFigureOf base character :=
  hspells.forall_mem fun _ hvalue _ => is_figure_of_is_digit_for hbase hvalue

/-- A numeral is read as the number that it spells. -/
theorem numeral_of_spells {base : Nat} (hbase : base ≤ 16) {digits : List Char} {number : Nat}
    (hspells : Spells base digits number) : numeral? base digits = some number := by
  induction hspells with
  | nil => rfl
  | digit _ hvalue hcharacter ih =>
      have hdigit := hex_value_of_is_digit_for (Nat.lt_of_lt_of_le hvalue hbase) hcharacter
      rw [numeral?] at ih
      rw [numeral?, List.foldlM_append, ih]
      simp [hdigit, hvalue]

theorem IsFigureOf.is_digit {base : Nat} {character : Char} (hfigure : IsFigureOf base character)
    {other : Nat} (hother : base ≤ other) : isDigitOf other character = true := by
  obtain ⟨value, hvalue, hread⟩ := hfigure.value
  rw [isDigitOf, hread]
  exact decide_eq_true (Nat.lt_of_lt_of_le hvalue hother)

/-! ## Underscores -/

namespace Underscored

variable {digits spelled : List Char}

/-- The first digit comes first. -/
theorem head_eq (hspelled : Underscored digits spelled) : spelled.head? = digits.head? := by
  cases hspelled <;> rfl

/-- All characters are digits or underscores. -/
theorem mem_or_eq (hspelled : Underscored digits spelled) :
    ∀ character ∈ spelled, character ∈ digits ∨ character = '_' := by
  induction hspelled with
  | single digit => exact fun character hmem => .inl hmem
  | next digit _ ih =>
      intro character hmem
      rcases List.mem_cons.mp hmem with rfl | hmem
      · exact .inl List.mem_cons_self
      · exact (ih character hmem).imp_left (List.mem_cons_of_mem _)
  | separated digit _ ih =>
      intro character hmem
      rcases List.mem_cons.mp hmem with rfl | hmem
      · exact .inl List.mem_cons_self
      rcases List.mem_cons.mp hmem with rfl | hmem
      · exact .inr rfl
      · exact (ih character hmem).imp_left (List.mem_cons_of_mem _)

/-- Without the underscores the digits are left. -/
theorem without_underscores (hspelled : Underscored digits spelled)
    (hdigits : ∀ digit ∈ digits, digit ≠ '_') : withoutUnderscores spelled = digits := by
  induction hspelled with
  | single digit =>
      have hdigit := hdigits digit List.mem_cons_self
      simp [withoutUnderscores, hdigit]
  | next digit _ ih =>
      obtain ⟨hdigit, hdigits⟩ := List.forall_mem_cons.mp hdigits
      simpa [withoutUnderscores, hdigit] using ih hdigits
  | separated digit _ ih =>
      obtain ⟨hdigit, hdigits⟩ := List.forall_mem_cons.mp hdigits
      simpa [withoutUnderscores, hdigit] using ih hdigits

/-- The underscores stand between digits. -/
theorem underscores_fit (hspelled : Underscored digits spelled) {isDigit : Char → Bool}
    (hdigits : ∀ digit ∈ digits, digit ≠ '_' ∧ isDigit digit = true) (before : Bool) :
    underscoresFit isDigit before spelled = true := by
  have hfirst : ∀ {digit : Char} {rest : List Char} {before : Bool}, digit ≠ '_' →
      isDigit digit = true → underscoresFit isDigit before (digit :: rest) =
        underscoresFit isDigit true rest := by
    intro digit rest before hne hdigit
    rw [underscoresFit, hdigit]
    exact hne
  induction hspelled generalizing before with
  | single digit =>
      obtain ⟨hne, hdigit⟩ := hdigits digit List.mem_cons_self
      exact hfirst hne hdigit
  | next digit _ ih =>
      obtain ⟨⟨hne, hdigit⟩, hdigits⟩ := List.forall_mem_cons.mp hdigits
      rw [hfirst hne hdigit]
      exact ih hdigits true
  | @separated digit digits spelled hrest ih =>
      obtain ⟨⟨hne, hdigit⟩, hdigits⟩ := List.forall_mem_cons.mp hdigits
      obtain ⟨next, rest, rfl, hnext⟩ : ∃ next rest, spelled = next :: rest ∧
          isDigit next = true := by
        cases hrest <;> exact ⟨_, _, rfl, (hdigits _ List.mem_cons_self).2⟩
      rw [hfirst hne hdigit]
      show (true && isDigit next && underscoresFit isDigit false (next :: rest)) = true
      rw [hnext, ih hdigits false]
      rfl

end Underscored

/-! ## Integers -/

/-- The value of an integer that fits, and else the reason why it has none. -/
def integerScalar (number : Int) : Scalar :=
  if FitsWord number then .integer number
  else .unfit (if number < 0 then .tooSmall else .tooLarge)

/-- The digits of a numeral have its value with the sign, if it fits. -/
theorem integer_of_spells {base : Nat} (hbase : base ≤ 16) {digits : List Char} {number : Nat}
    (hspells : Spells base digits number) (hdigits : digits ≠ []) (sign : Sign) :
    integerOf base (sign == .minus) digits = integerScalar (sign.apply number) := by
  have hlimit : Nat.pow 2 63 = 9223372036854775808 := by decide
  rw [integerOf, numeral_of_spells hbase hspells, if_neg (by simpa using hdigits)]
  simp only [hlimit, integerScalar, FitsWord]
  cases sign with
  | unsigned | plus =>
      show (if number < 9223372036854775808 then Scalar.integer number else .unfit .tooLarge) =
        if -2 ^ 63 ≤ (number : Int) ∧ (number : Int) < 2 ^ 63 then .integer number
        else .unfit (if (number : Int) < 0 then .tooSmall else .tooLarge)
      rw [if_neg (show ¬(number : Int) < 0 by omega)]
      exact if_congr (by omega) rfl rfl
  | minus =>
      show (if number ≤ 9223372036854775808 then Scalar.integer (-number) else .unfit .tooSmall) =
        if -2 ^ 63 ≤ (-number : Int) ∧ (-number : Int) < 2 ^ 63 then .integer (-number)
        else .unfit (if (-number : Int) < 0 then .tooSmall else .tooLarge)
      split
      · rw [if_pos (by omega)]
      · rw [if_neg (by omega), if_pos (by omega)]

/-- An integer behind the mark of its base. -/
theorem scalar_of_marked {mark : Char} {base : Nat} {digits spelled : List Char} {number : Nat}
    (hmark : (mark, base) ∈ baseMarks) (hdigits : Spells base digits number)
    (hspelled : Underscored digits spelled) :
    scalar? ('0' :: mark :: spelled) = some (integerScalar number) := by
  have hbase : base ≤ 16 := by
    simp only [baseMarks, List.mem_cons, Prod.mk.injEq, List.not_mem_nil, or_false] at hmark
    omega
  have hfigures := figures_of_spells hbase hdigits
  have hradix : radixInteger? base .unsigned spelled = some (integerScalar number) := by
    have hall : (spelled.all fun character =>
        isDigitOf base character || character == '_') = true := by
      rw [List.all_eq_true]
      intro character hmem
      rcases hspelled.mem_or_eq character hmem with hdigit | rfl
      · simp [(hfigures character hdigit).is_digit (Nat.le_refl base)]
      · simp
    have hfit : underscoresFit (isDigitOf 16) false spelled = true :=
      hspelled.underscores_fit (fun digit hmem =>
        ⟨(hfigures digit hmem).ne_underscore, (hfigures digit hmem).is_digit hbase⟩) false
    have hne : digits ≠ [] := by
      rintro rfl
      cases hspelled
    rw [radixInteger?, if_pos ⟨rfl, hall, hfit⟩, hspelled.without_underscores fun digit hmem =>
      (hfigures digit hmem).ne_underscore]
    exact congrArg some (integer_of_spells hbase hdigits hne .unsigned)
  simp only [baseMarks, List.mem_cons, Prod.mk.injEq, List.not_mem_nil, or_false] at hmark
  rcases hmark with ⟨rfl, rfl⟩ | ⟨rfl, rfl⟩ | ⟨rfl, rfl⟩ <;> exact hradix

/-! ## Decimal integers -/

/-- All digits of a decimal numeral are decimal digits. -/
theorem is_digit_of_spells {digits : List Char} {number : Nat} (hspells : Spells 10 digits number) :
    ∀ character ∈ digits, character.isDigit = true := by
  have hall : ∀ value < 10, (Nat.digitChar value).isDigit = true ∧
      (Nat.digitChar value).toUpper.isDigit = true := by decide
  refine hspells.forall_mem fun value hvalue character hcharacter => ?_
  rcases hcharacter with rfl | rfl
  · exact (hall value hvalue).1
  · exact (hall value hvalue).2

/-- A spelled decimal numeral without needless zeros. -/
structure IsDecimal (digits spelled : List Char) (number : Nat) : Prop where
  spells : Spells 10 digits number
  underscored : Underscored digits spelled
  leading : digits.head? = some '0' → digits = ['0']

namespace IsDecimal

variable {digits spelled : List Char} {number : Nat}

/-- A zero comes first only if there is nothing else. -/
theorem eq_of_head (hdecimal : IsDecimal digits spelled number) (hhead : spelled.head? = some '0') :
    spelled = ['0'] := by
  obtain rfl : digits = ['0'] :=
    hdecimal.leading (hdecimal.underscored.head_eq ▸ hhead)
  cases hdecimal.underscored with
  | single => rfl
  | next _ hrest => cases hrest
  | separated _ hrest => cases hrest

/-- The first character is a digit. -/
theorem exists_first (hdecimal : IsDecimal digits spelled number) :
    ∃ first rest, spelled = first :: rest ∧ first.isDigit = true := by
  have hdigits := is_digit_of_spells hdecimal.spells
  cases hdecimal.underscored <;> exact ⟨_, _, rfl, hdigits _ List.mem_cons_self⟩

/-- The digits behind a sign are read with it. -/
theorem decimal_integer (hdecimal : IsDecimal digits spelled number) (sign : Sign) :
    decimalInteger? sign spelled = some (integerScalar (sign.apply number)) := by
  have hfigures := figures_of_spells (by decide) hdecimal.spells
  have hzero : ¬(spelled.head? = some '0' ∧ spelled ≠ ['0']) :=
    fun ⟨hhead, hne⟩ => hne (hdecimal.eq_of_head hhead)
  have hfit : underscoresFit (isDigitOf 16) (sign != .unsigned) spelled = true :=
    hdecimal.underscored.underscores_fit (fun digit hmem =>
      ⟨(hfigures digit hmem).ne_underscore, (hfigures digit hmem).is_digit (by decide)⟩) _
  have hne : digits ≠ [] := by
    rintro rfl
    cases hdecimal.underscored
  rw [decimalInteger?, if_neg hzero, if_pos hfit, hdecimal.underscored.without_underscores
    fun digit hmem => (hfigures digit hmem).ne_underscore]
  exact congrArg some (integer_of_spells (by decide) hdecimal.spells hne sign)

/-- Digits and underscores are neither a date nor a number with a fraction or an exponent. -/
theorem number_or_date (hdecimal : IsDecimal digits spelled number) (word : List Char)
    (sign : Sign) :
    numberOrDate? word sign spelled = some (integerScalar (sign.apply number)) := by
  have hdigits := is_digit_of_spells hdecimal.spells
  have hcharacters : ∀ character ∈ spelled, character.isDigit = true ∨ character = '_' :=
    fun character hmem => (hdecimal.underscored.mem_or_eq character hmem).imp_left (hdigits _)
  -- A zero is followed by nothing, so no base is marked, and digits end at an underscore if at all.
  have hmarked : ∀ mark rest, spelled ≠ '0' :: mark :: rest := by
    rintro mark rest rfl
    cases hdecimal.eq_of_head rfl
  obtain ⟨first, rest, rfl, hfirst⟩ := hdecimal.exists_first
  unfold numberOrDate?
  split
  · contradiction
  · exact absurd ‹_› (hmarked _ _)
  · exact absurd ‹_› (hmarked _ _)
  · exact absurd ‹_› (hmarked _ _)
  next heq =>
    cases heq
    rw [if_pos (by simp [isFigure, hfirst])]
    split
    · exact hdecimal.decimal_integer sign
    next following further hdrop =>
      have hmem : ∀ character ∈ following :: further, character.isDigit = true ∨ character = '_' :=
        fun character hmem => hcharacters character
          ((List.dropWhile_sublist Char.isDigit).subset (hdrop ▸ hmem))
      have hunderscore : following = '_' := by
        have hstop := List.head?_dropWhile_not Char.isDigit (first :: rest)
        rw [hdrop] at hstop
        exact (hmem following List.mem_cons_self).resolve_left (by simpa using hstop)
      have hwhole : ((following :: further).any fun character =>
          ['.', 'e', 'E'].contains character) = false := by
        rw [List.any_eq_false]
        intro character hcharacter hpart
        simp only [List.contains_iff_mem, List.mem_cons, List.not_mem_nil, or_false] at hpart
        rcases hmem character hcharacter with hdigit | rfl
        · rcases hpart with rfl | rfl | rfl <;> exact absurd hdigit (by decide)
        · exact absurd hpart (by decide)
      subst hunderscore
      rw [if_neg (by decide), hwhole, if_neg (by decide), if_pos rfl]
      exact hdecimal.decimal_integer sign

/-- The sign is split off the digits. -/
theorem split_sign (hdecimal : IsDecimal digits spelled number) (sign : Sign) :
    Sign.split (sign.text ++ spelled) = (sign, spelled) := by
  obtain ⟨first, rest, rfl, hfirst⟩ := hdecimal.exists_first
  cases sign with
  | plus | minus => rfl
  | unsigned =>
      show Sign.split (first :: rest) = _
      unfold Sign.split
      split
      next heq => cases heq; exact absurd hfirst (by decide)
      next heq => cases heq; exact absurd hfirst (by decide)
      · rfl

/-- A decimal integer with its sign. -/
theorem scalar (hdecimal : IsDecimal digits spelled number) (sign : Sign) :
    scalar? (sign.text ++ spelled) = some (integerScalar (sign.apply number)) := by
  obtain ⟨first, rest, hshape, hfirst⟩ := hdecimal.exists_first
  have hletter : ∀ {letter : Char}, letter.isDigit = false → letter ≠ first :=
    fun hletter heq => Bool.false_ne_true (hletter.symm.trans (heq ▸ hfirst))
  have hword : ∀ letter more, letter.isDigit = false → letter ≠ '+' → letter ≠ '-' →
      sign.text ++ spelled ≠ letter :: more := by
    intro letter more hdigit hplus hminus heq
    rw [hshape] at heq
    cases sign with
    | unsigned => exact hletter hdigit (List.cons.inj heq).1.symm
    | plus => exact hplus (List.cons.inj heq).1.symm
    | minus => exact hminus (List.cons.inj heq).1.symm
  have hspelled : ∀ letter more, letter.isDigit = false → spelled ≠ letter :: more := by
    intro letter more hdigit heq
    exact hletter hdigit (List.cons.inj (heq.symm.trans hshape)).1
  rw [scalar?, if_neg (hword _ _ (by decide) (by decide) (by decide)),
    if_neg (hword _ _ (by decide) (by decide) (by decide)), hdecimal.split_sign]
  dsimp only
  rw [if_neg (hspelled _ _ (by decide)), if_neg (hspelled _ _ (by decide))]
  exact hdecimal.number_or_date _ sign

end IsDecimal

/-- An integer is read as itself from every way to write it, unless it does not fit. -/
theorem scalar_of_spells_integer {word : List Char} {number : Int}
    (hspells : SpellsInteger word number) : scalar? word = some (integerScalar number) := by
  cases hspells with
  | decimal sign hdigits hspelled hleading =>
      exact IsDecimal.scalar ⟨hdigits, hspelled, hleading⟩ sign
  | marked hmark hdigits hspelled => exact scalar_of_marked hmark hdigits hspelled

/-! ## Words -/

/-- A character that neither ends a word nor is a quote or a byte order mark. -/
def IsInner (character : Char) : Prop :=
  endsWord character = false ∧ character ∉ ['"', '\'', '\uFEFF']

instance (character : Char) : Decidable (IsInner character) :=
  inferInstanceAs (Decidable (_ ∧ _))

/-- An integer is written in characters that may be part of a word. -/
theorem inner_of_spells_integer {word : List Char} {number : Int}
    (hspells : SpellsInteger word number) : ∀ character ∈ word, IsInner character := by
  have hdigit : ∀ value < 16, IsInner (Nat.digitChar value) ∧
      IsInner (Nat.digitChar value).toUpper := by decide
  have hspelled : ∀ {base : Nat} {digits spelled : List Char} {number : Nat}, base ≤ 16 →
      Spells base digits number → Underscored digits spelled →
      ∀ character ∈ spelled, IsInner character := by
    intro base digits spelled number hbase hdigits hunderscored character hmem
    rcases hunderscored.mem_or_eq character hmem with hmem | rfl
    · refine hdigits.forall_mem (fun value hvalue character hcharacter => ?_) character hmem
      obtain ⟨hlower, hupper⟩ := hdigit value (Nat.lt_of_lt_of_le hvalue hbase)
      rcases hcharacter with rfl | rfl
      · exact hlower
      · exact hupper
    · decide
  cases hspells with
  | decimal sign hdigits hunderscored _ =>
      have hsign : ∀ character ∈ sign.text, IsInner character := by
        cases sign with
        | unsigned => nofun
        | plus | minus => exact List.forall_mem_singleton.mpr (by decide)
      intro character hmem
      rcases List.mem_append.mp hmem with hmem | hmem
      · exact hsign character hmem
      · exact hspelled (by decide) hdigits hunderscored character hmem
  | @marked mark base _ _ _ hmark hdigits hunderscored =>
      have hmarks : ∀ entry ∈ baseMarks, IsInner entry.1 ∧ entry.2 ≤ 16 := by decide
      obtain ⟨hinner, hbase⟩ := hmarks _ hmark
      simp only [List.forall_mem_cons]
      exact ⟨by decide, hinner, hspelled hbase hdigits hunderscored⟩

/-- A written integer is a word. -/
theorem is_word_of_spells_integer {word : List Char} {number : Int}
    (hspells : SpellsInteger word number) : IsWord word := by
  have hinner := inner_of_spells_integer hspells
  refine ⟨?_, fun character hmem => (hinner character hmem).1, ?_, ?_⟩
  · rintro rfl
    obtain ⟨scalar, hscalar⟩ : ∃ scalar, scalar? [] = some scalar :=
      ⟨_, scalar_of_spells_integer hspells⟩
    cases hscalar
  · exact fun hmem => (hinner _ (List.mem_of_mem_head? hmem)).2 (by decide)
  · exact fun hmem => (hinner _ (List.mem_of_mem_head? hmem)).2 (by decide)

end DashboardGenerator.Toml
