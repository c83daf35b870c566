import DashboardGenerator.Proofs.Config.Host
import DashboardGenerator.Proofs.Config.Kinds
import DashboardGenerator.Proofs.Toml.StandsFor

/-!
# Integers in place of texts in a configuration

A configuration stands for another one that has the decimal text where it has an integer. Setting
values keeps this, with the same crashes (`stands_for_set`), and what is read from the other one is
read from it as well: texts are the same, and so are the two texts of integers that are truth values.
-/

namespace DashboardGenerator.Config

variable {α : Type}

/-- The scalars are the same, or an integer and its decimal text. -/
inductive Scalar.StandsFor : Scalar → Scalar → Prop
  | same (scalar : Scalar) : StandsFor scalar scalar
  | integer (number : Int) : StandsFor (.integer number) (.string (integerText number))

/-- The values are the same but for integers in place of their decimal texts. -/
inductive Value.StandsFor : Value → Value → Prop
  | nil : StandsFor .nil .nil
  | scalar (origin : Origin) {scalar other : Scalar} (hscalar : scalar.StandsFor other) :
      StandsFor (.scalar origin scalar) (.scalar origin other)
  | array (origin : Origin) {items others : List Value}
      (hitems : List.Forall₂ StandsFor items others) :
      StandsFor (.array origin items) (.array origin others)
  | table {entries others : List (String × Value)}
      (hentries : List.Forall₂ (Keyed StandsFor) entries others) :
      StandsFor (.table entries) (.table others)

/-! ## Setting values -/

section Setting

variable {value other : Value}

theorem Value.StandsFor.entries (hvalue : value.StandsFor other) :
    List.Forall₂ (Keyed StandsFor) value.entries other.entries := by
  cases hvalue with
  | nil | scalar | array => exact .nil
  | table hentries => exact hentries

theorem Value.StandsFor.items (hvalue : value.StandsFor other) :
    List.Forall₂ StandsFor value.items other.items := by
  cases hvalue with
  | nil | scalar | table => exact .nil
  | array _ hitems => exact hitems

theorem Value.StandsFor.array_origin (hvalue : value.StandsFor other) :
    value.arrayOrigin = other.arrayOrigin := by
  cases hvalue <;> rfl

/-- The changes do the same to values that stand for others. -/
def ChangeAlike (change otherChange : Value → Value) : Prop :=
  ∀ value other, value.StandsFor other → (change value).StandsFor (otherChange other)

variable {change otherChange : Value → Value}

theorem stands_for_change_entry (hchange : ChangeAlike change otherChange) (key : String)
    {entries others : List (String × Value)}
    (hentries : List.Forall₂ (Keyed Value.StandsFor) entries others) :
    List.Forall₂ (Keyed Value.StandsFor) (changeEntry change key entries)
      (changeEntry otherChange key others) := by
  induction hentries with
  | nil => exact .cons (.mk key (hchange .nil .nil .nil)) .nil
  | cons hentry hrest ih =>
      cases hentry with
      | mk name hvalue =>
          rw [changeEntry, changeEntry]
          split
          · exact .cons (.mk name (hchange _ _ hvalue)) hrest
          · exact .cons (.mk name hvalue) ih

theorem stands_for_modify (hchange : ChangeAlike change otherChange) {items others : List Value}
    (hitems : List.Forall₂ Value.StandsFor items others) (position : Nat) :
    List.Forall₂ Value.StandsFor (items.modify position change)
      (others.modify position otherChange) := by
  induction hitems generalizing position with
  | nil => simp
  | cons hitem hrest ih =>
      cases position with
      | zero => simpa using ⟨hchange _ _ hitem, hrest⟩
      | succ position => simpa using ⟨hitem, ih position⟩

/-- Lists of the same length get the same room. -/
theorem stands_for_make_room {items others : List Value}
    (hitems : List.Forall₂ Value.StandsFor items others) (index : Int) :
    List.Forall₂ Value.StandsFor (makeRoom items index).1 (makeRoom others index).1 ∧
      (makeRoom items index).2 = (makeRoom others index).2 := by
  have hgaps : ∀ count, List.Forall₂ Value.StandsFor (List.replicate count .nil)
      (List.replicate count .nil) := by
    intro count
    refine List.forall₂_same.mpr fun gap hmem => ?_
    rw [List.eq_of_mem_replicate hmem]
    exact .nil
  rw [makeRoom, makeRoom, hitems.length_eq]
  split
  · exact ⟨List.rel_append hitems (hgaps _), rfl⟩
  · split
    · exact ⟨hitems, rfl⟩
    · exact ⟨List.rel_append (hgaps _) hitems, rfl⟩

mutual

/-- Values that stand for others do so after they were set. -/
theorem stands_for_merge : ∀ new otherNew old otherOld : Value, new.StandsFor otherNew →
    old.StandsFor otherOld → (old.merge new).StandsFor (otherOld.merge otherNew)
  | .nil, _, _, _, hnew, _ => by cases hnew; exact .nil
  | .scalar origin _, _, _, _, hnew, _ => by
      cases hnew with
      | scalar _ hscalar => exact .scalar origin hscalar
  | .array origin _, _, _, _, hnew, _ => by
      cases hnew with
      | array _ hitems => exact .array origin hitems
  | .table entries, _, _, _, hnew, hold => by
      cases hnew with
      | table hentries =>
          exact .table (stands_for_merge_entries entries _ _ _ hentries hold.entries)
termination_by structural new => new

theorem stands_for_merge_entries : ∀ entries others base otherBase : List (String × Value),
    List.Forall₂ (Keyed Value.StandsFor) entries others →
    List.Forall₂ (Keyed Value.StandsFor) base otherBase →
    List.Forall₂ (Keyed Value.StandsFor) (mergeEntries base entries) (mergeEntries otherBase others)
  | [], _, _, _, hentries, hbase => by cases hentries; exact hbase
  | (key, new) :: rest, _, _, _, hentries, hbase => by
      cases hentries with
      | cons hentry hrest =>
          cases hentry with
          | mk _ hnew =>
              have hchanged := stands_for_change_entry
                (fun old otherOld hold => stands_for_merge new _ old otherOld hnew hold) key hbase
              have hothers := stands_for_merge_entries rest _ _ _ hrest hchanged
              exact hothers
termination_by structural entries => entries

end

/-- Setting a value at the end of some steps. -/
theorem stands_for_assign {new otherNew : Value} (hnew : new.StandsFor otherNew)
    (steps : List Step) : ChangeAlike (Value.assign new steps) (Value.assign otherNew steps) := by
  induction steps with
  | nil => exact fun old otherOld hold => stands_for_merge new otherNew old otherOld hnew hold
  | cons step steps ih =>
      intro old otherOld hold
      cases step with
      | key name => exact .table (stands_for_change_entry ih name hold.entries)
      | index index =>
          obtain ⟨hitems, hposition⟩ := stands_for_make_room hold.items index
          show (Value.array old.arrayOrigin
            ((makeRoom old.items index).1.modify (makeRoom old.items index).2 _)).StandsFor
            (.array otherOld.arrayOrigin
              ((makeRoom otherOld.items index).1.modify (makeRoom otherOld.items index).2 _))
          rw [hposition, hold.array_origin]
          exact .array _ (stands_for_modify ih hitems _)

/-- Setting one value after another. -/
theorem stands_for_source {source otherSource : List (String × Value)}
    (hsource : List.Forall₂ (Keyed Value.StandsFor) source otherSource)
    (hvalue : value.StandsFor other) :
    (applySource value source).StandsFor (applySource other otherSource) := by
  refine List.rel_foldl ?_ hvalue hsource
  rintro tree otherTree htree _ _ ⟨key, hnew⟩
  exact stands_for_assign hnew _ _ _ htree

/-- Where nothing is found on either side there is a gap on both. -/
theorem stands_for_found {found otherFound : Option Value}
    (hfound : Option.Rel Value.StandsFor found otherFound) :
    (found.getD .nil).StandsFor (otherFound.getD .nil) := by
  cases hfound with
  | none => exact .nil
  | some hstands => exact hstands

/-- Arrays have elements that stand for the others' at the same indexes. -/
theorem rel_item_at {items others : List Value}
    (hitems : List.Forall₂ Value.StandsFor items others) (index : Int) :
    Option.Rel Value.StandsFor (itemAt? items index) (itemAt? others index) := by
  rw [itemAt?, itemAt?, hitems.length_eq]
  split
  · exact rel_getElem hitems _
  · split
    · exact rel_getElem hitems _
    · exact .none

/-- Arrays grow alike. -/
theorem growths_of_stands_for (steps : List Step) (hvalue : value.StandsFor other) :
    value.growths steps = other.growths steps := by
  induction steps generalizing value other with
  | nil => rfl
  | cons step steps ih =>
      cases step with
      | key name =>
          exact ih (stands_for_found (lookup_keyed hvalue.entries name))
      | index index =>
          rw [Value.growths, Value.growths, hvalue.items.length_eq,
            ih (stands_for_found (rel_item_at hvalue.items index))]

/-- A host ends in the same crash. -/
theorem first_crash_of_stands_for (host : Host) {source otherSource : List (String × Value)}
    (hsource : List.Forall₂ (Keyed Value.StandsFor) source otherSource)
    (hvalue : value.StandsFor other) :
    host.firstCrash? value source = host.firstCrash? other otherSource := by
  induction hsource generalizing value other with
  | nil => rfl
  | cons hentry _ ih =>
      cases hentry with
      | mk key hnew =>
          rw [Host.firstCrash?, Host.firstCrash?, Host.crashAt?, Host.crashAt?,
            growths_of_stands_for _ hvalue, ih (stands_for_source (.cons (.mk key hnew) .nil) hvalue)]

/-- Setting a source on a host. -/
theorem stands_for_set {host : Host} {origin : Origin} {source otherSource : List (String × Value)}
    (hsource : List.Forall₂ (Keyed Value.StandsFor) source otherSource)
    (hvalue : value.StandsFor other) {otherConfig : Value}
    (hset : host.set origin other otherSource = .ok otherConfig) :
    ∃ config, host.set origin value source = .ok config ∧ config.StandsFor otherConfig := by
  have hvisited := arrange_rel (host.sourceRank origin) (by rintro _ _ ⟨key, -⟩; rfl) hsource
  obtain ⟨hroom, rfl⟩ := Host.set_eq_ok_iff.mp hset
  refine ⟨_, Host.set_eq_ok_iff.mpr ⟨?_, rfl⟩, stands_for_source hvisited hvalue⟩
  rw [first_crash_of_stands_for host hvisited hvalue, hroom]

end Setting

/-! ## Reading -/

/-- The text of an integer is made up of digits and a hyphen. -/
theorem integer_text_characters (number : Int) :
    ∀ character ∈ (integerText number).toList, character.isDigit = true ∨ character = '-' := by
  have hdigits : ∀ digit ∈ Nat.toDigits 10 number.natAbs, digit.isDigit = true :=
    fun digit hmem => Nat.isDigit_of_mem_toDigits (by decide) (by decide) hmem
  intro character hmem
  rw [integerText, String.toList_ofList] at hmem
  split at hmem
  · exact (List.mem_cons.mp hmem).symm.imp_left (hdigits character)
  · exact .inl (hdigits character hmem)

/-- The text of an integer has no letters. -/
theorem toLower_integer_text (number : Int) :
    (integerText number).toLower = integerText number := by
  have hlower : ∀ character : Char, character.isDigit = true ∨ character = '-' →
      character.toLower = character := by
    rintro character (hdigit | rfl)
    · refine dif_neg ?_
      rintro ⟨hletter, -⟩
      simp only [Char.isDigit, Bool.and_eq_true, decide_eq_true_eq] at hdigit
      exact absurd (UInt32.le_trans hletter hdigit.2) (by decide)
    · rfl
  apply String.toList_inj.mp
  rw [Text.toList_toLower]
  have hmap : (integerText number).toList.map Char.toLower =
      (integerText number).toList.map id :=
    List.map_congr_left fun character hmem =>
      hlower character (integer_text_characters number character hmem)
  rw [hmap, List.map_id]

/-- An integer with the text of zero is zero. -/
theorem eq_zero_of_integer_text {number : Int} (htext : integerText number = "0") : number = 0 := by
  have hlist : (integerText number).toList = ['0'] := by rw [htext]; rfl
  rw [integerText, String.toList_ofList] at hlist
  split at hlist
  · cases hlist
  · have hvalue := Nat.ofDigitChars_ten_toDigits (n := number.natAbs)
    rw [hlist] at hvalue
    exact Int.natAbs_eq_zero.mp hvalue.symm

/-- What the other value gives, the value gives as well. -/
def Carries (gives : Value → α → Prop) : Prop :=
  ∀ (value other : Value) (result : α), value.StandsFor other → gives other result →
    gives value result

theorem carries_text : Carries GivesText := by
  intro value other result hvalue hgives
  cases hgives with
  | scalar origin otherScalar =>
      cases hvalue with
      | scalar _ hscalar =>
          cases hscalar with
          | same => exact .scalar origin otherScalar
          | integer number => exact .scalar origin (.integer number)

/-- One and zero are the truth values that they are as texts. -/
theorem carries_truth : Carries GivesTruth := by
  have hword : ∀ number : Int, ∀ word ∈ ["false", "off", "no"], integerText number ≠ word := by
    intro number word hmem hnumber
    have hfirst : ∀ word ∈ ["false", "off", "no"],
        word.toList.any (fun first => !(first.isDigit || first == '-')) = true := by decide
    obtain ⟨first, hletter, hother⟩ := List.any_eq_true.mp (hfirst word hmem)
    rcases integer_text_characters number first (hnumber ▸ hletter) with hdigit | hsign
    · simp [hdigit] at hother
    · simp [hsign] at hother
  intro value other result hvalue hgives
  cases hvalue with
  | nil | array | table => cases hgives
  | scalar origin hscalar =>
      cases hscalar with
      | same => exact hgives
      | integer number =>
          -- Among the words with a truth value only one and zero are texts of integers.
          have hinteger := GivesTruth.integer origin number
          cases hgives with
          | yes _ hone =>
              rw [toLower_integer_text] at hone
              have hne : number ≠ 0 := by
                rintro rfl
                exact absurd hone (by decide)
              rwa [show (number != 0) = true by simpa using hne] at hinteger
          | no _ hzero =>
              rw [toLower_integer_text] at hzero
              rcases List.mem_cons.mp hzero with hzero | hother
              · obtain rfl := eq_zero_of_integer_text hzero
                exact hinteger
              · exact absurd rfl (hword number _ hother)

theorem carries_optional {gives : Value → α → Prop} (hgives : Carries gives) :
    Carries (GivesOptional gives) := by
  intro value other result hvalue hoptional
  cases hoptional with
  | gap =>
      cases hvalue
      exact .gap
  | present hother hresult =>
      refine .present ?_ (hgives _ _ _ hvalue hresult)
      rintro rfl
      cases hvalue
      exact hother rfl

theorem carries_list {gives : Value → α → Prop} (hgives : Carries gives) :
    Carries (GivesList gives) := by
  intro value other results hvalue hlist
  cases hlist with
  | array origin hresults =>
      cases hvalue with
      | array _ hitems =>
          refine .array origin ?_
          induction hitems generalizing results with
          | nil =>
              cases hresults
              exact .nil
          | cons hitem _ ih =>
              cases hresults with
              | cons hresult hresults => exact .cons (hgives _ _ _ hitem hresult) (ih _ hresults)

/-- The values are records alike. -/
theorem Value.StandsFor.is_record {value other : Value} (hvalue : value.StandsFor other)
    (hother : other.IsRecord) : value.IsRecord := by
  cases hvalue with
  | nil | scalar => exact hother
  | array | table => trivial

/-- The values have the same parts but for integers in place of their decimal texts. -/
theorem Value.StandsFor.part {value other : Value} (hvalue : value.StandsFor other)
    (names : List String) (name : String) :
    Option.Rel StandsFor (value.part? names name) (other.part? names name) := by
  cases hvalue with
  | nil | scalar => exact .none
  | table hentries => exact lookup_keyed hentries name
  | array _ hitems => exact rel_getElem hitems _

section Fields

variable {gives : Value → α → Prop} (hgives : Carries gives) {value other : Value}
  (hvalue : value.StandsFor other) {shape : Shape} {name : String} {result : α}

include hgives hvalue

theorem Shape.HasField.carried (hother : shape.HasField other name gives result) :
    shape.HasField value name gives result := by
  obtain ⟨part, hpart, hresult⟩ := hother
  have hparts := hvalue.part shape.fields name
  rw [hpart] at hparts
  generalize hfound : value.part? shape.fields name = found at hparts
  cases hparts with
  | some hstands => exact ⟨_, hfound, hgives _ _ _ hstands hresult⟩

theorem Shape.HasDefault.carried {default : α}
    (hother : shape.HasDefault other name gives default result) :
    shape.HasDefault value name gives default result := by
  obtain ⟨found, hfound, hresult⟩ := hother
  refine ⟨found, ?_, hresult⟩
  have hparts := hvalue.part shape.fields name
  generalize value.part? shape.fields name = part at hparts
  generalize other.part? shape.fields name = otherPart at hparts hfound
  cases hparts with
  | none => exact hfound
  | some hstands =>
      cases hfound with
      | some hfound => exact .some (hgives _ _ _ hstands hfound)

end Fields

end DashboardGenerator.Config
