import DashboardGenerator.Proofs.Generator.Emission
import Mathlib.Data.Char
import Mathlib.Data.List.Induction
import Mathlib.Data.List.Shortlex

/-!
# The order of reference identifiers

Reference identifiers are the words of capital letters, a shorter word before a longer one and words
of one length in alphabetical order (`ComesBefore`). The value of letters grows along this order
(`letter_value_lt_of_shortlex`). Of two words one comes first, so no value is taken twice, and
`reference_id_order_isomorphism` follows: positions and words correspond, in order, and the queries
of a panel are named in that order.
-/

namespace DashboardGenerator.Grafana

/-- A letter from `A` to `Z`. -/
def IsCapital (letter : Char) : Prop := 'A' ≤ letter ∧ letter ≤ 'Z'

instance (letter : Char) : Decidable (IsCapital letter) :=
  inferInstanceAs (Decidable (_ ∧ _))

/-- At least one letter, and none but capitals. -/
def IsCapitalWord (text : String) : Prop :=
  text ≠ "" ∧ ∀ letter ∈ text.toList, IsCapital letter

/-- The first text is shorter than the second one, or as long and alphabetically before it. -/
def ComesBefore (first second : String) : Prop :=
  List.Shortlex (· < ·) first.toList second.toList

/-- The letters of a number, the last one first: as long as the number is not zero it is counted down
by one, its remainder by twenty-six gives a letter, and its quotient is the next number. -/
def lettersFromLast : Nat → List Char
  | 0 => []
  | count + 1 => referenceLetter (count % 26) :: lettersFromLast (count / 26)
decreasing_by exact Nat.lt_succ_of_le (Nat.div_le_self count 26)

/-! ## Words in order -/

/-- Letters that are in order, each list as long as the other, are so without the last ones, or
only the last ones make the order. -/
theorem lex_of_lex_append {first second : List Char} {letter other : Char}
    (hlength : first.length = second.length)
    (hlex : List.Lex (· < ·) (first ++ [letter]) (second ++ [other])) :
    List.Lex (· < ·) first second ∨ first = second ∧ letter < other := by
  induction first generalizing second with
  | nil =>
      obtain rfl := List.eq_nil_of_length_eq_zero hlength.symm
      exact .inr ⟨rfl, List.lex_singleton_iff letter other |>.mp hlex⟩
  | cons head first ih =>
      cases second with
      | nil => cases hlength
      | cons otherHead second =>
          cases hlex with
          | rel hlt => exact .inl (.rel hlt)
          | cons hlex =>
              rcases ih (Nat.succ.inj hlength) hlex with hbefore | ⟨rfl, hlt⟩
              · exact .inl (.cons hbefore)
              · exact .inr ⟨rfl, hlt⟩

/-- The same of letters that are ordered by their number first. -/
theorem shortlex_of_shortlex_append {first second : List Char} {letter other : Char}
    (hbefore : List.Shortlex (· < ·) (first ++ [letter]) (second ++ [other])) :
    List.Shortlex (· < ·) first second ∨ first = second ∧ letter < other := by
  rw [List.shortlex_def, List.length_append, List.length_append] at hbefore
  rcases hbefore with hshorter | ⟨hlength, hlex⟩
  · exact .inl (.of_length_lt (Nat.lt_of_add_lt_add_right hshorter))
  · have hsame : first.length = second.length := Nat.add_right_cancel hlength
    exact (lex_of_lex_append hsame hlex).imp_left (.of_lex hsame)

/-- Capital letters count from one to twenty-six. -/
theorem digit_of_is_capital {letter : Char} (hcapital : IsCapital letter) :
    65 ≤ letter.toNat ∧ letter.toNat ≤ 90 := hcapital

/-- The value of capital letters grows along their order. -/
theorem letter_value_lt_of_shortlex {first second : List Char}
    (hfirst : ∀ letter ∈ first, IsCapital letter) (hsecond : ∀ letter ∈ second, IsCapital letter)
    (hbefore : List.Shortlex (· < ·) first second) : letterValue first < letterValue second := by
  -- The last letter weighs least, so the induction takes the letters from behind.
  induction first using List.reverseRecOn generalizing second with
  | nil =>
      rcases List.eq_nil_or_concat' second with rfl | ⟨second, other, rfl⟩
      · exact absurd hbefore List.not_shortlex_nil_right
      · have hdigit := digit_of_is_capital (hsecond other (by simp))
        have hnil : letterValue [] = 0 := rfl
        rw [letter_value_append, hnil]
        omega
  | append_singleton first letter ih =>
      rcases List.eq_nil_or_concat' second with rfl | ⟨second, other, rfl⟩
      · exact absurd hbefore List.not_shortlex_nil_right
      · have hletter := digit_of_is_capital (hfirst letter (by simp))
        have hother := digit_of_is_capital (hsecond other (by simp))
        rw [letter_value_append, letter_value_append]
        rcases shortlex_of_shortlex_append hbefore with hstart | ⟨rfl, hlt⟩
        · have hvalue := ih (fun letter hmem => hfirst letter (List.mem_append_left _ hmem))
            (fun letter hmem => hsecond letter (List.mem_append_left _ hmem)) hstart
          omega
        · have hdigits : letter.toNat < other.toNat := hlt
          omega

/-- Capital letters with a smaller value come first. -/
theorem shortlex_iff_letter_value_lt {first second : List Char}
    (hfirst : ∀ letter ∈ first, IsCapital letter)
    (hsecond : ∀ letter ∈ second, IsCapital letter) :
    List.Shortlex (· < ·) first second ↔ letterValue first < letterValue second := by
  refine ⟨letter_value_lt_of_shortlex hfirst hsecond, fun hvalue => ?_⟩
  rcases trichotomous_of (List.Shortlex (· < ·)) first second with hbefore | rfl | hafter
  · exact hbefore
  · exact absurd hvalue (Nat.lt_irrefl _)
  · exact absurd (letter_value_lt_of_shortlex hsecond hfirst hafter) (Nat.lt_asymm hvalue)

/-- Capital letters with one value are the same. -/
theorem eq_of_letter_value_eq {first second : List Char}
    (hfirst : ∀ letter ∈ first, IsCapital letter) (hsecond : ∀ letter ∈ second, IsCapital letter)
    (hvalue : letterValue first = letterValue second) : first = second := by
  rcases trichotomous_of (List.Shortlex (· < ·)) first second with hbefore | heq | hafter
  · exact absurd hvalue (Nat.ne_of_lt (letter_value_lt_of_shortlex hfirst hsecond hbefore))
  · exact heq
  · exact absurd hvalue (Nat.ne_of_gt (letter_value_lt_of_shortlex hsecond hfirst hafter))

/-! ## Reference identifiers as words -/

/-- The letters of digits are capitals. -/
theorem is_capital_reference_letter {digit : Nat} (hdigit : digit < 26) :
    IsCapital (referenceLetter digit) := by
  have hall : ∀ digit < 26, IsCapital (referenceLetter digit) := by decide
  exact hall digit hdigit

/-- The letters of a position are capitals. -/
theorem is_capital_of_mem_reference_letters (position : Nat) :
    ∀ letter ∈ referenceLetters position, IsCapital letter := by
  fun_induction referenceLetters position with
  | case1 position hsmall =>
      intro letter hmem
      rw [List.mem_singleton.mp hmem]
      exact is_capital_reference_letter hsmall
  | case2 position hlarge ih =>
      intro letter hmem
      rcases List.mem_append.mp hmem with hmem | hmem
      · exact ih letter hmem
      · rw [List.mem_singleton.mp hmem]
        exact is_capital_reference_letter (Nat.mod_lt _ (by decide))

/-- A reference identifier is a word of capitals. -/
theorem is_capital_word_reference_id (position : Nat) : IsCapitalWord (referenceId position) := by
  constructor
  · intro hempty
    have hletters : referenceLetters position = [] := String.ofList_eq_empty_iff.mp hempty
    have hvalue := letter_value_reference_letters position
    rw [hletters] at hvalue
    cases hvalue
  · rw [referenceId, String.toList_ofList]
    exact is_capital_of_mem_reference_letters position

/-- A reference identifier spells one more than its position. -/
theorem letter_value_reference_id (position : Nat) :
    letterValue (referenceId position).toList = position + 1 := by
  rw [referenceId, String.toList_ofList, letter_value_reference_letters]

/-- A word of capitals is the reference identifier of the position that it spells. -/
theorem exists_reference_id_eq {text : String} (hword : IsCapitalWord text) :
    ∃ position, letterValue text.toList = position + 1 ∧ referenceId position = text := by
  obtain ⟨hne, hcapital⟩ := hword
  have hpositive : letterValue [] < letterValue text.toList := by
    refine letter_value_lt_of_shortlex (by simp) hcapital ?_
    exact (List.shortlex_nil_or_eq_nil _).resolve_right fun h => hne (String.toList_eq_nil_iff.mp h)
  obtain ⟨position, hposition⟩ := Nat.exists_eq_add_one_of_ne_zero (Nat.ne_zero_of_lt hpositive)
  refine ⟨position, hposition, String.toList_inj.mp ?_⟩
  refine eq_of_letter_value_eq (is_capital_word_reference_id position).2 hcapital ?_
  rw [letter_value_reference_id, hposition]

/-- Positions are in order as their reference identifiers are. -/
theorem comes_before_reference_id_iff (position other : Nat) :
    ComesBefore (referenceId position) (referenceId other) ↔ position < other := by
  rw [ComesBefore, shortlex_iff_letter_value_lt (is_capital_word_reference_id position).2
    (is_capital_word_reference_id other).2, letter_value_reference_id, letter_value_reference_id,
    Nat.add_lt_add_iff_right]

/-- Counting down and dividing gives the letters of a position from the last one on. -/
theorem reverse_letters_from_last (position : Nat) :
    (lettersFromLast (position + 1)).reverse = referenceLetters position := by
  fun_induction referenceLetters position with
  | case1 position hsmall =>
      rw [lettersFromLast, Nat.mod_eq_of_lt hsmall, Nat.div_eq_of_lt hsmall, lettersFromLast]
      rfl
  | case2 position hlarge ih =>
      have hquotient : position / 26 - 1 + 1 = position / 26 := by omega
      rw [hquotient] at ih
      rw [lettersFromLast, List.reverse_cons, ih]

/-- The reference identifiers that a rendered dashboard shows are for each panel the first ones, as
many as it has queries. -/
theorem reference_ids_of_page (dashboard : Dashboard) :
    (Page.ofDashboard dashboard).panels.map (fun panel => panel.queries.map PageQuery.referenceId) =
      dashboard.panels.map fun panel => (List.range panel.targets.length).map referenceId := by
  rw [panels_of_dashboard, List.map_map]
  exact List.map_congr_left fun panel _ => reference_ids_of_targets panel.targets

/-- The first reference identifiers come one after the other. -/
theorem pairwise_reference_ids (count : Nat) :
    ((List.range count).map referenceId).Pairwise ComesBefore := by
  rw [List.pairwise_map]
  exact List.pairwise_lt_range.imp fun hlt => (comes_before_reference_id_iff _ _).mpr hlt

/-- Reference identifiers are an isomorphism from the order of the natural numbers onto that of the
words of capital letters, by length and then by the alphabet. Each of them is such a word and spells
its position, counted from one, as a numeral of base twenty-six without a zero; each such word is the
identifier of the position that it spells; and positions are in order exactly if their identifiers
are. Counting down and dividing, last letter first, gives the same words. So in a rendered dashboard
the queries of a panel, however many, are named differently and in increasing order. -/
theorem reference_id_order_isomorphism :
    (∀ position, IsCapitalWord (referenceId position)) ∧
    (∀ position, letterValue (referenceId position).toList = position + 1) ∧
    (∀ text, IsCapitalWord text →
      ∃ position, letterValue text.toList = position + 1 ∧ referenceId position = text) ∧
    (∀ position other, position < other ↔
      ComesBefore (referenceId position) (referenceId other)) ∧
    (∀ position, (lettersFromLast (position + 1)).reverse = (referenceId position).toList) ∧
    ∀ (dashboard : Dashboard) (pretty : Bool), ∃ document page,
      Json.parse? (render dashboard pretty) = some document ∧
      Page.ofJson? document = some page ∧
      page.panels.map (fun panel => panel.queries.map PageQuery.referenceId) =
        dashboard.panels.map (fun panel => (List.range panel.targets.length).map referenceId) ∧
      ∀ panel ∈ page.panels, (panel.queries.map PageQuery.referenceId).Nodup ∧
        (panel.queries.map PageQuery.referenceId).Pairwise ComesBefore := by
  refine ⟨is_capital_word_reference_id, letter_value_reference_id,
    fun text => exists_reference_id_eq,
    fun position other => (comes_before_reference_id_iff position other).symm,
    fun position => ?_, fun dashboard pretty => ?_⟩
  · rw [referenceId, String.toList_ofList, reverse_letters_from_last]
  · refine ⟨_, _, Json.parse_text _ pretty, page_of_dashboard_json dashboard,
      reference_ids_of_page dashboard, fun panel hpanel => ?_⟩
    rw [panels_of_dashboard] at hpanel
    obtain ⟨source, -, rfl⟩ := List.mem_map.mp hpanel
    refine ⟨nodup_reference_ids source.targets, ?_⟩
    show ((source.targets.mapIdx PageQuery.ofTarget).map PageQuery.referenceId).Pairwise _
    rw [reference_ids_of_targets]
    exact pairwise_reference_ids source.targets.length

/-- A carry through all letters makes the word longer. -/
example : referenceId 25 = "Z" ∧ referenceId 26 = "AA" ∧ referenceId 701 = "ZZ" ∧
    referenceId 702 = "AAA" := by decide +kernel

end DashboardGenerator.Grafana
