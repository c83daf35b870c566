import DashboardGenerator.Proofs.Config.Kinds
import DashboardGenerator.Proofs.Config.Order

/-!
# The fault that is reported

`Kind.Reports` says what is known of the fault that a value has for a kind, with the steps that lead
to it. In an array the first element that does not fit counts. In a table a value of the wrong form
counts before a missing field, and of several missing fields the one that the kind names first. A
reader belongs to a kind (`Kind.IsReadBy`) if it reads just what fits and fails with a fault as it
is reported, whatever the order in which keys are visited. The readers of texts, truth values and
lists belong to theirs. For the reader of a record it is enough to know what is wrong with each field
(`FieldFault`): a single fault is found whatever the order (`visit_fails`), and where all values fit,
the fields are gone through one by one (`read_fitting_field`, `require_field`).
-/

namespace DashboardGenerator.Config

variable {α β : Type}

/-- The fault as it is seen from a value that the steps lead away from. -/
def ReadError.below (error : ReadError) (steps : List Step) : ReadError :=
  { error with path := steps ++ error.path }

/-- The fault is an expected one, seen from a value that the steps lead away from. -/
def IsBelow (steps : List Step) (expected : ReadError → Prop) (error : ReadError) : Prop :=
  ∃ inner, expected inner ∧ inner.below steps = error

/-- Reading fails with a fault that is expected. -/
def FailsWith (expected : ReadError → Prop) (reading : Reading α) : Prop :=
  ∃ error, expected error ∧ reading = .error error

/-- The words that are truth values. -/
def truthWords : List String := ["1", "true", "on", "yes", "0", "false", "off", "no"]

/-- The first required field that the table has not. -/
def missingField? (fields : List (String × Bool × Kind)) (entries : List (String × Value)) :
    Option String :=
  (fields.find? fun field => field.2.1 && (entries.lookup field.1).isNone).map Prod.fst

/-- Reading the value as the kind fails, and the fault is as expected. Of a value that does not fit,
nothing need be known but that. -/
inductive Kind.Reports : Kind → Value → (ReadError → Prop) → Prop
  | unfit {kind : Kind} {value : Value} (hunfit : ¬ Fits kind value) :
      Reports kind value fun _ => True
  | text {value : Value} (hcomposite : value.IsRecord) :
      Reports .text value (Eq ⟨.wrongType value.found .string, [], value.origin⟩)
  | optionalText {value : Value} (hcomposite : value.IsRecord) :
      Reports .optionalText value (Eq ⟨.wrongType value.found .string, [], value.origin⟩)
  | truth {value : Value} (hcomposite : value.IsRecord) :
      Reports .truth value (Eq ⟨.wrongType value.found .boolean, [], value.origin⟩)
  | word (origin : Origin) {text : String} (hword : text.toLower ∉ truthWords) :
      Reports .truth (.scalar origin (.string text))
        (Eq ⟨.wrongType (.scalar (.string (Text.lowercase text))) .boolean, [], origin⟩)
  | list {kind : Kind} {value : Value} (hother : ∀ origin items, value ≠ .array origin items) :
      Reports (.list kind) value (Eq ⟨.wrongShape value.found .sequence, [], .memory⟩)
  | element {kind : Kind} {origin : Origin} {items : List Value} {position : Nat} {item : Value}
      {expected : ReadError → Prop} (hbefore : ∀ other ∈ items.take position, Fits kind other)
      (hitem : items[position]? = some item) (hreports : Reports kind item expected) :
      Reports (.list kind) (.array origin items) (IsBelow [.index position] expected)
  | field {fields : List (String × Bool × Kind)} {entries : List (String × Value)} {name : String}
      {required : Bool} {kind : Kind} {part : Value} {expected : ReadError → Prop}
      (hfield : fields.lookup name = some (required, kind))
      (hpart : entries.lookup name = some part) (hreports : Reports kind part expected)
      (hothers : ∀ field ∈ fields, field.1 ≠ name → ∀ other,
        entries.lookup field.1 = some other → Fits field.2.2 other) :
      Reports (.record fields) (.table entries) (IsBelow [.key name] expected)
  | missing {fields : List (String × Bool × Kind)} {entries : List (String × Value)} {name : String}
      (hparts : ∀ field ∈ fields, ∀ part, entries.lookup field.1 = some part → Fits field.2.2 part)
      (hmissing : missingField? fields entries = some name) :
      Reports (.record fields) (.table entries) (Eq ⟨.missing, [.key name], .memory⟩)

/-- The reader gives something for just the values that fit, and fails as it is reported. -/
structure Kind.IsReadBy (kind : Kind) (read : Reader α) : Prop where
  fits_iff : ∀ {value} order, kind.Fits value ↔ ∃ result, read order value = .ok result
  reports : ∀ {value expected} order, kind.Reports value expected →
    FailsWith expected (read order value)

/-- A value that does not fit is not read. -/
theorem fails_of_unfit {kind : Kind} {value : Value} {reading : Reading α}
    (hread : kind.Fits value ↔ ∃ result, reading = .ok result) (hunfit : ¬ kind.Fits value) :
    FailsWith (fun _ => True) reading := by
  cases reading with
  | ok result => exact absurd (hread.mpr ⟨result, rfl⟩) hunfit
  | error error => exact ⟨error, trivial, rfl⟩

/-! ## Texts, truth values and lists -/

/-- Texts are read as texts. -/
theorem is_read_by_string : Kind.text.IsReadBy readString := by
  have hfits {value} order :
      Kind.text.Fits value ↔ ∃ result, readString order value = .ok result := by
    simp only [Kind.fits_text_iff, computes_string order value _]
  refine ⟨hfits, fun {value expected} order hreports => ?_⟩
  cases hreports with
  | unfit hunfit => exact fails_of_unfit (hfits order) hunfit
  | text hcomposite =>
      cases value with
      | nil | scalar => exact hcomposite.elim
      | array | table => exact ⟨_, rfl, rfl⟩

/-- Texts that may be absent are read as such. -/
theorem is_read_by_optional_string : Kind.optionalText.IsReadBy (readOptional readString) := by
  have hfits {value} order :
      Kind.optionalText.Fits value ↔ ∃ result, readOptional readString order value = .ok result := by
    simp only [Kind.fits_optional_text_iff, computes_string.optional order value _]
  refine ⟨hfits, fun {value expected} order hreports => ?_⟩
  cases hreports with
  | unfit hunfit => exact fails_of_unfit (hfits order) hunfit
  | optionalText hcomposite =>
      cases value with
      | nil | scalar => exact hcomposite.elim
      | array | table => exact ⟨_, rfl, rfl⟩

/-- Truth values are read as truth values. -/
theorem is_read_by_boolean : Kind.truth.IsReadBy readBoolean := by
  have hfits {value} order :
      Kind.truth.Fits value ↔ ∃ result, readBoolean order value = .ok result := by
    simp only [Kind.fits_truth_iff, computes_boolean order value _]
  refine ⟨hfits, fun {value expected} order hreports => ?_⟩
  cases hreports with
  | unfit hunfit => exact fails_of_unfit (hfits order) hunfit
  | truth hcomposite =>
      cases value with
      | nil | scalar => exact hcomposite.elim
      | array | table => exact ⟨_, rfl, rfl⟩
  | @word origin text hword =>
      have hnone : wordTruth? (Text.lowercase text) = none := by
        rw [word_truth_lowercase, wordTruth?, if_neg, if_neg]
        · intro hno
          exact hword (List.mem_append_right ["1", "true", "on", "yes"] hno)
        · intro hyes
          exact hword (List.mem_append_left ["0", "false", "off", "no"] hyes)
      rw [readBoolean, hnone]
      exact ⟨_, rfl, rfl⟩

/-- Reading an array fails at its first element with a fault. -/
theorem read_items_fails {kind : Kind} {read : Reader α} (hread : kind.IsReadBy read)
    {items : List Value} {position : Nat} {item : Value} {expected : ReadError → Prop}
    (hbefore : ∀ other ∈ items.take position, kind.Fits other)
    (hitem : items[position]? = some item) (hreports : kind.Reports item expected) (order : Order)
    (start : Nat) :
    FailsWith (IsBelow [.index (start + position : Nat)] expected)
      (readItems read order start items) := by
  induction items generalizing position start with
  | nil => cases hitem
  | cons first items ih =>
      rw [readItems]
      cases position with
      | zero =>
          cases hitem
          obtain ⟨error, hexpected, hfails⟩ := hread.reports (order.below (.index start)) hreports
          rw [hfails]
          exact ⟨_, ⟨error, hexpected, rfl⟩, rfl⟩
      | succ position =>
          rw [List.take_succ_cons, List.forall_mem_cons] at hbefore
          obtain ⟨result, hresult⟩ := (hread.fits_iff (order.below (.index start))).mp hbefore.1
          obtain ⟨error, hexpected, hfails⟩ := ih hbefore.2 hitem (start + 1)
          rw [hresult]
          show FailsWith _ (readItems read order (start + 1) items >>= _)
          rw [hfails]
          rw [Nat.add_right_comm] at hexpected
          exact ⟨error, hexpected, rfl⟩

/-- An array is read if all its elements fit. -/
theorem exists_read_items_iff {kind : Kind} {read : Reader α} (hread : kind.IsReadBy read)
    {items : List Value} {order : Order} {start : Nat} :
    (∃ results, readItems read order start items = .ok results) ↔
      ∀ item ∈ items, kind.Fits item := by
  induction items generalizing start with
  | nil => exact ⟨fun _ => nofun, fun _ => ⟨[], rfl⟩⟩
  | cons item items ih =>
      rw [List.forall_mem_cons, ← ih, hread.fits_iff (order.below (.index start))]
      simp only [readItems, bind_eq_ok_iff, behind, mapError_eq_ok_iff]
      constructor
      · rintro ⟨_, first, hfirst, others, hothers, -⟩
        exact ⟨⟨first, hfirst⟩, others, hothers⟩
      · rintro ⟨⟨first, hfirst⟩, others, hothers⟩
        exact ⟨first :: others, first, hfirst, others, hothers, rfl⟩

/-- Lists are read element by element. -/
theorem is_read_by_list {kind : Kind} {read : Reader α} (hread : kind.IsReadBy read) :
    (Kind.list kind).IsReadBy (readList read) := by
  have hfits {value} order :
      (Kind.list kind).Fits value ↔ ∃ results, readList read order value = .ok results := by
    constructor
    · intro hlist
      cases hlist with
      | list origin hitems => exact (exists_read_items_iff hread).mpr hitems
    · rintro ⟨results, hresults⟩
      cases value with
      | nil | scalar | table => cases hresults
      | array origin items =>
          exact .list origin ((exists_read_items_iff hread).mp ⟨results, hresults⟩)
  refine ⟨hfits, fun {value expected} order hreports => ?_⟩
  cases hreports with
  | unfit hunfit => exact fails_of_unfit (hfits order) hunfit
  | list hother =>
      cases value with
      | nil | scalar | table => exact ⟨_, rfl, rfl⟩
      | array origin items => exact absurd rfl (hother origin items)
  | element hbefore hitem hreports =>
      have hfails := read_items_fails hread hbefore hitem hreports order 0
      rw [Nat.zero_add] at hfails
      exact hfails

/-! ## Records -/

variable {entries : List (String × Value)} {name : String} {required : Bool} {kind : Kind}
  {fields : List (String × Bool × Kind)} {expected : ReadError → Prop} {order : Order}

/-- What fails first fails with what comes behind it. -/
theorem FailsWith.bind {reading : Reading α} (hfails : FailsWith expected reading)
    (next : α → Reading β) : FailsWith expected (reading >>= next) := by
  obtain ⟨error, hexpected, rfl⟩ := hfails
  exact ⟨error, hexpected, rfl⟩

/-- A field fails with the fault of its value, one step further up. -/
theorem field_fails {read : Reader α} {part : Value} (hread : kind.IsReadBy read)
    (hpart : entries.lookup name = some part) (hreports : kind.Reports part expected)
    (order : Order) :
    FailsWith (IsBelow [.key name] expected) ((Record.keyed entries).field? order name read) := by
  obtain ⟨error, hexpected, hfails⟩ := hread.reports (order.below (.key name)) hreports
  simp only [Record.field?, hpart, hfails]
  exact ⟨_, ⟨error, hexpected, rfl⟩, rfl⟩

/-- A field is read if it is missing or its value fits. -/
theorem field_fits {read : Reader α} (hread : kind.IsReadBy read)
    (hfits : ∀ part, entries.lookup name = some part → kind.Fits part) (order : Order) :
    ∃ found, (Record.keyed entries).field? order name read = .ok found ∧
      found.isNone = (entries.lookup name).isNone := by
  cases hlookup : entries.lookup name with
  | none => exact ⟨none, by simp only [Record.field?, hlookup], rfl⟩
  | some part =>
      obtain ⟨result, hresult⟩ :=
        (hread.fits_iff (order.below (.key name))).mp (hfits part hlookup)
      exact ⟨some result, by simp only [Record.field?, hlookup, hresult]; rfl, rfl⟩

/-- The fault of a field is the one that its kind reports, and it has none if its value fits. -/
structure FieldFault (entries : List (String × Value)) (field : String × Bool × Kind)
    (fault : String × Option ReadError) : Prop where
  of_fits : (∀ part, entries.lookup field.1 = some part → field.2.2.Fits part) → fault.2 = none
  of_reports : ∀ {part expected}, entries.lookup field.1 = some part →
    field.2.2.Reports part expected →
    ∃ error, IsBelow [.key field.1] expected error ∧ fault.2 = some error

/-- What is wrong with a field is known from its reader. -/
theorem field_fault (name : String) (required : Bool) {read : Reader α} (hread : kind.IsReadBy read)
    (order : Order) : FieldFault entries (name, required, kind)
      (name, fault? ((Record.keyed entries).field? order name read)) where
  of_fits hfits := by
    obtain ⟨found, hfound, -⟩ := field_fits hread hfits order
    exact fault_eq_none_iff.mpr ⟨found, hfound⟩
  of_reports hpart hreports := by
    obtain ⟨error, hexpected, hfails⟩ := field_fails hread hpart hreports order
    exact ⟨error, hexpected, by rw [hfails]; rfl⟩

/-- No field has a fault if all values fit. -/
theorem faults_eq_none {faults : List (String × Option ReadError)}
    (hfaults : List.Forall₂ (FieldFault entries) fields faults)
    (hparts : ∀ field ∈ fields, ∀ part, entries.lookup field.1 = some part → field.2.2.Fits part) :
    ∀ fault ∈ faults, fault.2 = none := by
  induction hfaults with
  | nil => exact nofun
  | cons hfault _ ih =>
      obtain ⟨hfits, hparts⟩ := List.forall_mem_cons.mp hparts
      exact List.forall_mem_cons.mpr ⟨hfault.of_fits hfits, ih hparts⟩

/-- Visiting the fields of a table goes on if all their values fit. -/
theorem visit_fits {faults : List (String × Option ReadError)} {next : Unit → Reading β}
    (hfaults : List.Forall₂ (FieldFault entries) fields faults)
    (hparts : ∀ field ∈ fields, ∀ part, entries.lookup field.1 = some part → field.2.2.Fits part)
    (hnext : FailsWith expected (next ())) :
    FailsWith expected ((Record.keyed entries).visit order faults >>= next) := by
  rw [visit_eq_ok_iff.mpr (faults_eq_none hfaults hparts)]
  exact hnext

/-- Visiting the fields of a table, in whatever order, fails at the only one with a fault. -/
theorem visit_fails {faults : List (String × Option ReadError)}
    (hfaults : List.Forall₂ (FieldFault entries) fields faults)
    (hnames : (fields.map Prod.fst).Nodup) (hfield : fields.lookup name = some (required, kind))
    {part : Value} (hpart : entries.lookup name = some part) (hreports : kind.Reports part expected)
    (hothers : ∀ field ∈ fields, field.1 ≠ name → ∀ other,
      entries.lookup field.1 = some other → field.2.2.Fits other) :
    FailsWith (IsBelow [.key name] expected) ((Record.keyed entries).visit order faults) := by
  have hsingle : ∃ error, IsBelow [.key name] expected error ∧
      (∃ fault ∈ faults, fault.2 = some error) ∧
      ∀ fault ∈ faults, fault.2 = none ∨ fault.2 = some error := by
    induction hfaults with
    | nil => cases hfield
    | @cons field fault fields faults hfault hrest ih =>
        obtain ⟨first, firstRequired, firstKind⟩ := field
        obtain ⟨hfirst, hrestFit⟩ := List.forall_mem_cons.mp hothers
        obtain ⟨hnew, hnames⟩ := List.nodup_cons.mp hnames
        rw [List.lookup_cons] at hfield
        by_cases hname : name = first
        · subst hname
          rw [beq_self_eq_true] at hfield
          cases hfield
          obtain ⟨error, hexpected, hsome⟩ := hfault.of_reports hpart hreports
          have hnone := faults_eq_none hrest fun other hother =>
            hrestFit other hother fun hsame => hnew (List.mem_map.mpr ⟨other, hother, hsame⟩)
          exact ⟨error, hexpected, ⟨fault, List.mem_cons_self, hsome⟩,
            List.forall_mem_cons.mpr ⟨.inr hsome, fun other hother => .inl (hnone other hother)⟩⟩
        · rw [beq_eq_false_iff_ne.mpr hname] at hfield
          obtain ⟨error, hexpected, ⟨found, hfound, hsome⟩, hall⟩ := ih hnames hfield hrestFit
          exact ⟨error, hexpected, ⟨found, List.mem_cons_of_mem _ hfound, hsome⟩,
            List.forall_mem_cons.mpr ⟨.inl (hfault.of_fits (hfirst (Ne.symm hname))), hall⟩⟩
  obtain ⟨error, hexpected, ⟨fault, hmem, hsome⟩, hall⟩ := hsingle
  exact ⟨error, hexpected, visit_eq_error hmem hsome hall⟩

/-- A field without a fault is read if it is there, and reading goes on. -/
theorem read_fitting_field {read : Reader α} {next : Option α → Reading β}
    (hfits : ∀ part, entries.lookup name = some part → kind.Fits part) (hread : kind.IsReadBy read)
    (hnext : ∀ found, found.isNone = (entries.lookup name).isNone →
      FailsWith expected (next found)) :
    FailsWith expected ((Record.keyed entries).field? order name read >>= next) := by
  obtain ⟨found, hfound, hthere⟩ := field_fits hread hfits order
  rw [hfound]
  exact hnext found hthere

/-- Insisting on a field fails if it is the first that is missing, and otherwise reading goes on. -/
theorem require_field {missing : String} {found : Option α} {next : α → Reading β}
    (hmissing : missingField? ((name, true, kind) :: fields) entries = some missing)
    (hfound : found.isNone = (entries.lookup name).isNone)
    (hnext : missingField? fields entries = some missing → ∀ result,
      FailsWith (Eq ⟨.missing, [.key missing], .memory⟩) (next result)) :
    FailsWith (Eq ⟨.missing, [.key missing], .memory⟩)
      ((Record.keyed entries).require name found >>= next) := by
  rw [missingField?, List.find?_cons, ← hfound, Bool.true_and] at hmissing
  cases found with
  | none =>
      cases hmissing
      exact ⟨_, rfl, rfl⟩
  | some result => exact hnext hmissing result

end DashboardGenerator.Config
