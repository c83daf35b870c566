import DashboardGenerator.Config.Read
import DashboardGenerator.Proofs.Config.Fields
import DashboardGenerator.Proofs.Config.Scalars
import Mathlib.Data.List.Forall2

/-!
# Kinds of values

A `Kind` says what a value is read as, with the fields of records spelled out. A value of the right
form `Fits` a kind, and two values are `Alike` for a kind if they differ at most in keys that are no
fields, at any depth. Next to them stand the relations that say what a value gives: `GivesOptional`,
`GivesList`, and for the fields of a record `HasField` and `HasDefault`. The readers compute these
relations whatever the order in which keys are visited (`Reader.Computes`, `Shape.field_eq_ok_iff`),
and alike records have the same fields (`Kind.Alike.read_record`).
-/

namespace DashboardGenerator.Config

variable {α β : Type}

/-! ## Records -/

/-- The value of a field: in a table what stands under its name, in an array what stands at the
position of its name. -/
def Value.part? (names : List String) (name : String) : Value → Option Value
  | .table entries => entries.lookup name
  | .array _ items => items[names.idxOf name]?
  | .nil | .scalar .. => none

/-- The value may stand for a record: it is a table or an array. -/
def Value.IsRecord : Value → Prop
  | .table _ | .array .. => True
  | .nil | .scalar .. => False

/-- The values have the same outer form, arrays with the same number of elements. -/
def Value.SameForm : Value → Value → Prop
  | .table _, .table _ => True
  | .array _ items, .array _ others => items.length = others.length
  | _, _ => False

/-- The record has the field, and its value gives the result. -/
def Shape.HasField (shape : Shape) (value : Value) (name : String) (gives : Value → α → Prop)
    (result : α) : Prop :=
  ∃ part, value.part? shape.fields name = some part ∧ gives part result

/-- The record has the field and its value gives the result, or it has not and the result is the
default. -/
def Shape.HasDefault (shape : Shape) (value : Value) (name : String) (gives : Value → α → Prop)
    (default result : α) : Prop :=
  ∃ found, Option.Rel gives (value.part? shape.fields name) found ∧ found.getD default = result

/-- A gap gives nothing, and any other value what it gives on its own. -/
inductive GivesOptional (gives : Value → α → Prop) : Value → Option α → Prop
  | gap : GivesOptional gives .nil none
  | present {value : Value} {result : α} (hvalue : value ≠ .nil) (hgives : gives value result) :
      GivesOptional gives value (some result)

/-- An array gives what its elements give, in their order. -/
inductive GivesList (gives : Value → α → Prop) : Value → List α → Prop
  | array (origin : Origin) {items : List Value} {results : List α}
      (hitems : List.Forall₂ gives items results) : GivesList gives (.array origin items) results

/-! ## Kinds -/

/-- What a value is read as. An optional text counts as missing where a gap stands. The fields of a
record have a name each and may be required. -/
inductive Kind where
  | text
  | optionalText
  | truth
  | list (element : Kind)
  | record (fields : List (String × Bool × Kind))

namespace Kind

/-- The value has the form that the kind asks for. A text needs a scalar, a truth value one that gives
a truth value, and a list an array of fitting elements. A record needs a table, or an array of its
fields in order, with all required fields; those that are there have to fit, and nothing else
matters. -/
inductive Fits : Kind → Value → Prop
  | text (origin : Origin) (value : Scalar) : Fits .text (.scalar origin value)
  | gap : Fits .optionalText .nil
  | present (origin : Origin) (value : Scalar) : Fits .optionalText (.scalar origin value)
  | truth {value : Value} {truth : Bool} (hgives : GivesTruth value truth) : Fits .truth value
  | list {kind : Kind} (origin : Origin) {items : List Value}
      (hitems : ∀ item ∈ items, Fits kind item) : Fits (.list kind) (.array origin items)
  | record {fields : List (String × Bool × Kind)} {value : Value} (hrecord : value.IsRecord)
      (hpresent : ∀ field ∈ fields, field.2.1 = true →
        value.part? (fields.map Prod.fst) field.1 ≠ none)
      (hparts : ∀ field ∈ fields, ∀ part,
        value.part? (fields.map Prod.fst) field.1 = some part → Fits field.2.2 part) :
      Fits (.record fields) value

/-- The values are the same, but for keys of records that are no fields, at any depth. -/
inductive Alike : Kind → Value → Value → Prop
  | same (kind : Kind) (value : Value) : Alike kind value value
  | list {kind : Kind} (origin : Origin) {items others : List Value}
      (hlength : items.length = others.length)
      (hitems : ∀ (position : Nat) item other, items[position]? = some item →
        others[position]? = some other → Alike kind item other) :
      Alike (.list kind) (.array origin items) (.array origin others)
  | record {fields : List (String × Bool × Kind)} {value other : Value}
      (hform : value.SameForm other)
      (hpresent : ∀ field ∈ fields, (value.part? (fields.map Prod.fst) field.1).isSome =
        (other.part? (fields.map Prod.fst) field.1).isSome)
      (hparts : ∀ field ∈ fields, ∀ part otherPart,
        value.part? (fields.map Prod.fst) field.1 = some part →
        other.part? (fields.map Prod.fst) field.1 = some otherPart →
        Alike field.2.2 part otherPart) :
      Alike (.record fields) value other

end Kind

/-! ## What readers compute -/

/-- The reader gives for each value what the relation says, whatever the order. -/
def Reader.Computes (read : Reader α) (gives : Value → α → Prop) : Prop :=
  ∀ order value result, read order value = .ok result ↔ gives value result

/-- Texts are read from what gives one. -/
theorem computes_string : Reader.Computes readString GivesText :=
  fun _ _ _ => read_string_eq_ok_iff

/-- Truth values are read from what gives one. -/
theorem computes_boolean : Reader.Computes readBoolean GivesTruth :=
  fun _ _ _ => read_boolean_eq_ok_iff

/-- An optional value is read as what it gives. -/
theorem Reader.Computes.optional {read : Reader α} {gives : Value → α → Prop}
    (hread : read.Computes gives) :
    Reader.Computes (readOptional read) (GivesOptional gives) := by
  intro order value result
  unfold readOptional
  split
  · constructor
    · rintro ⟨⟩
      exact .gap
    · intro hgives
      cases hgives with
      | gap => rfl
      | present hvalue _ => exact absurd rfl hvalue
  next hvalue =>
      rw [map_eq_ok_iff]
      constructor
      · rintro ⟨found, hfound, rfl⟩
        exact .present hvalue ((hread ..).mp hfound)
      · intro hgives
        cases hgives with
        | gap => exact absurd rfl hvalue
        | present _ hgives => exact ⟨_, (hread ..).mpr hgives, rfl⟩

/-- The elements of an array are read one by one. -/
theorem read_items_eq_ok_iff {read : Reader α} {gives : Value → α → Prop}
    (hread : read.Computes gives) {order : Order} {position : Nat} {items : List Value}
    {results : List α} :
    readItems read order position items = .ok results ↔ List.Forall₂ gives items results := by
  induction items generalizing position results with
  | nil =>
      rw [readItems]
      constructor
      · rintro ⟨⟩
        exact .nil
      · rintro ⟨⟩
        rfl
  | cons item items ih =>
      simp only [readItems, bind_eq_ok_iff, behind, mapError_eq_ok_iff, ih, hread _ _ _]
      constructor
      · rintro ⟨first, hfirst, others, hothers, ⟨⟩⟩
        exact .cons hfirst hothers
      · rintro (_ | ⟨hfirst, hothers⟩)
        exact ⟨_, hfirst, _, hothers, rfl⟩

/-- A list is read as what its array gives. -/
theorem Reader.Computes.list {read : Reader α} {gives : Value → α → Prop}
    (hread : read.Computes gives) : Reader.Computes (readList read) (GivesList gives) := by
  intro order value results
  constructor
  · intro hlist
    cases value with
    | nil | scalar | table => cases hlist
    | array origin items => exact .array origin ((read_items_eq_ok_iff hread).mp hlist)
  · rintro ⟨origin, hitems⟩
    exact (read_items_eq_ok_iff hread).mpr hitems

/-- A table or an array is read as a record, and nothing else is. -/
theorem exists_record_iff {shape : Shape} {value : Value} :
    (∃ record, shape.record value = .ok record) ↔ value.IsRecord := by
  cases value with
  | nil | scalar =>
      constructor
      · rintro ⟨record, hrecord⟩
        cases hrecord
      · exact False.elim
  | array | table => exact ⟨fun _ => trivial, fun _ => ⟨_, rfl⟩⟩

/-- A field of a record is read from its value, or is missing. -/
theorem Shape.field_eq_ok_iff {shape : Shape} {value : Value} {record : Record}
    (hrecord : shape.record value = .ok record) {read : Reader α} {gives : Value → α → Prop}
    (hread : read.Computes gives) {order : Order} {name : String} {found : Option α} :
    record.field? order name read = .ok found ↔
      Option.Rel gives (value.part? shape.fields name) found := by
  have hbehind : ∀ step part, behind step ((read (order.below step) part).map some) = .ok found ↔
      Option.Rel gives (some part) found := by
    intro step part
    rw [behind, mapError_eq_ok_iff, map_eq_ok_iff]
    cases found <;> simp [hread _ part _]
  have hmissing : (Except.ok none : Reading (Option α)) = .ok found ↔ Option.Rel gives none found := by
    cases found <;> simp
  cases value with
  | nil | scalar => cases hrecord
  | table entries =>
      cases hrecord
      rw [Record.field?, Value.part?]
      cases entries.lookup name with
      | none => exact hmissing
      | some part => exact hbehind _ part
  | array origin items =>
      cases hrecord
      rw [Record.field?, Value.part?]
      cases items[shape.fields.idxOf name]? with
      | none => exact hmissing
      | some part => exact hbehind _ part

/-- A record has a field exactly if it is read. -/
theorem Shape.has_field_iff {shape : Shape} {value : Value} {record : Record}
    (hrecord : shape.record value = .ok record) {read : Reader α} {gives : Value → α → Prop}
    (hread : read.Computes gives) (order : Order) {name : String} {result : α} :
    shape.HasField value name gives result ↔ record.field? order name read = .ok (some result) := by
  rw [field_eq_ok_iff hrecord hread]
  constructor
  · rintro ⟨part, hpart, hgives⟩
    rw [hpart]
    exact .some hgives
  · generalize hpart : value.part? shape.fields name = part
    rintro ⟨hgives⟩
    exact ⟨_, hpart, hgives⟩

/-- A field with a default is read, and the default stands in for a missing one. -/
theorem Shape.has_default_iff {shape : Shape} {value : Value} {record : Record}
    (hrecord : shape.record value = .ok record) {read : Reader α} {gives : Value → α → Prop}
    (hread : read.Computes gives) (order : Order) {name : String} {default result : α} :
    shape.HasDefault value name gives default result ↔
      ∃ found, record.field? order name read = .ok found ∧ found.getD default = result := by
  simp only [HasDefault, field_eq_ok_iff hrecord hread]

/-- Insisting on a field gives it if it is there. -/
theorem require_eq_ok_iff {record : Record} {name : String} {found : Option α} {result : α} :
    record.require name found = .ok result ↔ found = some result := by
  cases found with
  | some value => simp [Record.require]
  | none => cases record <;> simp [Record.require]

/-! ## Values that fit -/

/-- Items give results together exactly if each of them gives one. -/
theorem exists_forall₂_iff {gives : Value → α → Prop} {items : List Value} :
    (∃ results, List.Forall₂ gives items results) ↔ ∀ item ∈ items, ∃ result, gives item result := by
  induction items with
  | nil => exact ⟨fun _ => nofun, fun _ => ⟨[], .nil⟩⟩
  | cons item items ih =>
      rw [List.forall_mem_cons, ← ih]
      constructor
      · rintro ⟨_, _ | ⟨hresult, hresults⟩⟩
        exact ⟨⟨_, hresult⟩, ⟨_, hresults⟩⟩
      · rintro ⟨⟨_, hresult⟩, ⟨_, hresults⟩⟩
        exact ⟨_, .cons hresult hresults⟩

namespace Kind

/-- A text fits exactly if it gives one. -/
theorem fits_text_iff {value : Value} : text.Fits value ↔ ∃ text, GivesText value text := by
  constructor
  · rintro ⟨origin, value⟩
    exact ⟨_, .scalar origin value⟩
  · rintro ⟨_, ⟨origin, value⟩⟩
    exact .text origin value

/-- An optional text fits exactly if it gives one or is a gap. -/
theorem fits_optional_text_iff {value : Value} :
    optionalText.Fits value ↔ ∃ result, GivesOptional GivesText value result := by
  constructor
  · intro hfits
    cases hfits with
    | gap => exact ⟨none, .gap⟩
    | present origin value => exact ⟨_, .present nofun (.scalar origin value)⟩
  · rintro ⟨_, hgives⟩
    cases hgives with
    | gap => exact .gap
    | present _ hgives =>
        cases hgives with
        | scalar origin value => exact .present origin value

/-- A truth value fits exactly if it gives one. -/
theorem fits_truth_iff {value : Value} : truth.Fits value ↔ ∃ truth, GivesTruth value truth := by
  constructor
  · intro hfits
    cases hfits with
    | truth hgives => exact ⟨_, hgives⟩
  · rintro ⟨_, hgives⟩
    exact .truth hgives

/-- A list fits exactly if its array gives one, provided that this holds of its elements. -/
theorem fits_list_iff {kind : Kind} {gives : Value → α → Prop}
    (hkind : ∀ {value}, kind.Fits value ↔ ∃ result, gives value result) {value : Value} :
    (list kind).Fits value ↔ ∃ results, GivesList gives value results := by
  constructor
  · intro hfits
    cases hfits with
    | list origin hitems =>
        obtain ⟨results, hresults⟩ :=
          exists_forall₂_iff.mpr fun item hmem => hkind.mp (hitems item hmem)
        exact ⟨results, .array origin hresults⟩
  · rintro ⟨results, ⟨origin, hresults⟩⟩
    exact .list origin fun item hmem => hkind.mpr (exists_forall₂_iff.mp ⟨results, hresults⟩ item hmem)

/-- The field is there if it is required, and its value fits if it is there. -/
def FieldFits (names : List String) (value : Value) (field : String × Bool × Kind) : Prop :=
  (field.2.1 = true → value.part? names field.1 ≠ none) ∧
    ∀ part, value.part? names field.1 = some part → field.2.2.Fits part

/-- A record fits exactly if each of its fields does. -/
theorem fits_record_iff {fields : List (String × Bool × Kind)} {value : Value} :
    (record fields).Fits value ↔
      value.IsRecord ∧ ∀ field ∈ fields, FieldFits (fields.map Prod.fst) value field := by
  constructor
  · intro hfits
    cases hfits with
    | record hrecord hpresent hparts =>
        exact ⟨hrecord, fun field hmem => ⟨hpresent field hmem, hparts field hmem⟩⟩
  · rintro ⟨hrecord, hfields⟩
    exact .record hrecord (fun field hmem => (hfields field hmem).1)
      fun field hmem => (hfields field hmem).2

end Kind

namespace Shape

variable {shape : Shape} {value : Value} {name : String} {kind : Kind} {gives : Value → α → Prop}

/-- A required field gives something exactly if it fits. -/
theorem exists_has_field_iff (hkind : ∀ {value}, kind.Fits value ↔ ∃ result, gives value result) :
    (∃ result, shape.HasField value name gives result) ↔
      Kind.FieldFits shape.fields value (name, true, kind) := by
  constructor
  · rintro ⟨result, part, hpart, hgives⟩
    rw [Kind.FieldFits, hpart]
    refine ⟨fun _ => nofun, ?_⟩
    rintro found ⟨⟩
    exact hkind.mpr ⟨result, hgives⟩
  · rintro ⟨hpresent, hfits⟩
    obtain ⟨part, hpart⟩ := Option.ne_none_iff_exists'.mp (hpresent rfl)
    obtain ⟨result, hgives⟩ := hkind.mp (hfits part hpart)
    exact ⟨result, part, hpart, hgives⟩

/-- A field with a default gives something exactly if it fits. -/
theorem exists_has_default_iff (hkind : ∀ {value}, kind.Fits value ↔ ∃ result, gives value result)
    {default : α} :
    (∃ result, shape.HasDefault value name gives default result) ↔
      Kind.FieldFits shape.fields value (name, false, kind) := by
  have hfound : (∃ result, shape.HasDefault value name gives default result) ↔
      ∃ found, Option.Rel gives (value.part? shape.fields name) found :=
    ⟨fun ⟨_, found, hfound, _⟩ => ⟨found, hfound⟩, fun ⟨found, hfound⟩ => ⟨_, found, hfound, rfl⟩⟩
  rw [hfound, exists_rel_iff]
  constructor
  · exact fun hparts => ⟨nofun, fun part hpart => hkind.mpr (hparts part hpart)⟩
  · exact fun hfits part hpart => hkind.mp (hfits.2 part hpart)

end Shape

/-! ## Values that are alike -/

namespace Kind

/-- Alike texts are read alike. -/
theorem read_text_congr (read : Reader α) :
    ∀ order value other, text.Alike value other → read order value = read order other := by
  rintro _ _ _ ⟨⟩
  rfl

/-- Alike optional texts are read alike. -/
theorem read_optional_text_congr (read : Reader α) :
    ∀ order value other, optionalText.Alike value other → read order value = read order other := by
  rintro _ _ _ ⟨⟩
  rfl

/-- Alike truth values are read alike. -/
theorem read_truth_congr (read : Reader α) :
    ∀ order value other, truth.Alike value other → read order value = read order other := by
  rintro _ _ _ ⟨⟩
  rfl

/-- Alike lists are read alike if alike elements are. -/
theorem Alike.read_list {kind : Kind} {read : Reader α}
    (hread : ∀ order value other, kind.Alike value other → read order value = read order other)
    (order : Order) {value other : Value} (halike : (Kind.list kind).Alike value other) :
    readList read order value = readList read order other := by
  cases halike with
  | same => rfl
  | @list _ _ items others hlength hitems =>
      have hall : ∀ start, readItems read order start items = readItems read order start others := by
        induction items generalizing others with
        | nil =>
            intro start
            rw [List.length_eq_zero_iff.mp hlength.symm]
        | cons item items ih =>
            obtain _ | ⟨other, others⟩ := others
            · cases hlength
            intro start
            have hfirst := hread (order.below (.index start)) _ _ (hitems 0 item other rfl rfl)
            have hothers := ih (Nat.succ.inj hlength)
              fun position => hitems (position + 1)
            rw [readItems, readItems, hfirst, hothers]
      exact hall 0

end Kind

/-- The records have the same fields for every reader that cannot tell alike values apart. -/
structure Record.Alike (fields : List (String × Bool × Kind)) (record other : Record) : Prop where
  field_eq : ∀ field ∈ fields, ∀ {α : Type} (read : Reader α),
    (∀ order value other, field.2.2.Alike value other → read order value = read order other) →
    ∀ order, record.field? order field.1 read = other.field? order field.1 read
  visit_eq : ∀ order faults, record.visit order faults = other.visit order faults
  require_eq : ∀ {α : Type} (name : String) (found : Option α),
    record.require name found = other.require name found

/-- Read the value of a field behind its step, if the field is there. -/
def readPart? (order : Order) (step : Step) (read : Reader α) :
    Option Value → Reading (Option α)
  | some part => behind step ((read (order.below step) part).map some)
  | none => .ok none

/-- Alike values are the same or are both read as records, with the same fields. -/
theorem Kind.Alike.exists_records {fields : List (String × Bool × Kind)} {shape : Shape}
    (hshape : shape.fields = fields.map Prod.fst) {value other : Value}
    (halike : (Kind.record fields).Alike value other) :
    value = other ∨ ∃ record otherRecord, shape.record value = .ok record ∧
      shape.record other = .ok otherRecord ∧ record.Alike fields otherRecord := by
  cases halike with
  | same => exact .inl rfl
  | record hform hpresent hparts =>
      rw [← hshape] at hpresent hparts
      -- A field is missing in both, or its values are read alike.
      have hfield : ∀ field ∈ fields, ∀ {α : Type} (read : Reader α),
          (∀ order value other, field.2.2.Alike value other → read order value = read order other) →
          ∀ order step, readPart? order step read (value.part? shape.fields field.1) =
            readPart? order step read (other.part? shape.fields field.1) := by
        intro field hmem α read hread order step
        have hsome := hpresent field hmem
        have halike := hparts field hmem
        cases hpart : value.part? shape.fields field.1 with
        | none =>
            rw [hpart] at hsome
            rw [Option.isNone_iff_eq_none.mp (Option.isSome_eq_false_iff.mp hsome.symm)]
        | some part =>
            rw [hpart] at hsome
            obtain ⟨otherPart, hother⟩ := Option.isSome_iff_exists.mp hsome.symm
            rw [hother, readPart?, readPart?, hread _ _ _ (halike _ _ hpart hother)]
      -- Both values are tables, or both are arrays with as many elements.
      cases value with
      | nil | scalar => exact hform.elim
      | table entries =>
          cases other with
          | nil | scalar | array => exact hform.elim
          | table others =>
              refine .inr ⟨.keyed entries, .keyed others, rfl, rfl,
                fun field hmem α read hread order => ?_, fun _ _ => rfl, ?_⟩
              · exact hfield field hmem read hread order (.key field.1)
              · intro α name found
                cases found <;> rfl
      | array origin items =>
          cases other with
          | nil | scalar | table => exact hform.elim
          | array otherOrigin others =>
              refine .inr ⟨.positional shape items, .positional shape others, rfl, rfl,
                fun field hmem α read hread order => ?_, fun _ _ => rfl, ?_⟩
              · exact hfield field hmem read hread order (.index (shape.fields.idxOf field.1))
              · intro α name found
                have hlength : items.length = others.length := hform
                cases found with
                | some => rfl
                | none => simp only [Record.require, hlength]

/-- Reading goes on alike from alike records. -/
theorem Kind.Alike.read_record {fields : List (String × Bool × Kind)} {shape : Shape}
    (hshape : shape.fields = fields.map Prod.fst) {next : Record → Reading β}
    (hnext : ∀ record other : Record, record.Alike fields other → next record = next other)
    {value other : Value} (halike : (Kind.record fields).Alike value other) :
    (shape.record value >>= next) = (shape.record other >>= next) := by
  obtain rfl | ⟨record, otherRecord, hrecord, hother, hsame⟩ := halike.exists_records hshape
  · rfl
  · rw [hrecord, hother]
    exact hnext record otherRecord hsame

end DashboardGenerator.Config
