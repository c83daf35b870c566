import DashboardGenerator.Proofs.Config.Faults
import DashboardGenerator.Proofs.Config.Layers
import Mathlib.Data.List.Find

/-!
# Damage at a place

`Kind.Place` says that steps lead through the tables and arrays of a value to one of its parts,
and what that part is read as. Where a value fits and one part of it is changed
(`Value.changeAt`), the value has the fault of the changed part, seen from further up:
`Place.reports`. So a fault is reported with the steps to the place where it is, whatever the
depth. Taking fields away (`Value.without`) leaves the first required one of them missing, unless
something else in the table is wrong (`reports_without`, `reports_changed_without`).
-/

namespace DashboardGenerator.Config

/-- The value with the part at the end of the steps changed. Keys lead into tables, and indexes
count from the start of an array. -/
def Value.changeAt (change : Value → Value) : List Step → Value → Value
  | [], value => change value
  | .key name :: steps, .table entries => .table (changeEntry (changeAt change steps) name entries)
  | .index position :: steps, .array origin items =>
    .array origin (items.modify position.toNat (changeAt change steps))
  | _ :: _, value => value

/-- The value with another one at the end of the steps. -/
def Value.replaceAt (value replacement : Value) (steps : List Step) : Value :=
  value.changeAt (fun _ => replacement) steps

/-- The table without the fields of the names; any other value stays as it is. -/
def Value.without (names : List String) : Value → Value
  | .table entries => .table (entries.filter fun entry => entry.1 ∉ names)
  | value => value

/-- The steps lead from a value of a kind to a part of it, and that part has the other kind. All
records on the way are tables. -/
inductive Kind.Place : Kind → Value → List Step → Kind → Value → Prop
  | here (kind : Kind) (value : Value) : Place kind value [] kind value
  | element {kind : Kind} {origin : Origin} {items : List Value} {position : Nat} {item : Value}
      {steps : List Step} {inner : Kind} {part : Value} (hitem : items[position]? = some item)
      (hplace : Place kind item steps inner part) :
      Place (.list kind) (.array origin items) (.index position :: steps) inner part
  | field {fields : List (String × Bool × Kind)} {entries : List (String × Value)} {name : String}
      {required : Bool} {kind : Kind} {value : Value} {steps : List Step} {inner : Kind}
      {part : Value} (hfield : fields.lookup name = some (required, kind))
      (hvalue : entries.lookup name = some value) (hplace : Place kind value steps inner part) :
      Place (.record fields) (.table entries) (.key name :: steps) inner part

/-- Among the fields of these names that are required, the first has the name. -/
def FirstRequired (fields : List (String × Bool × Kind)) (names : List String) (name : String) :
    Prop :=
  ∃ before kind after, fields = before ++ (name, true, kind) :: after ∧ name ∈ names ∧
    ∀ field ∈ before, field.2.1 = true → field.1 ∉ names

/-! ## What fits -/

/-- A field that is found under its name is one of the fields. -/
theorem mem_of_lookup {γ : Type} {fields : List (String × γ)} {name : String} {found : γ}
    (hfield : fields.lookup name = some found) : (name, found) ∈ fields := by
  obtain ⟨before, after, rfl, -⟩ := List.lookup_eq_some_iff.mp hfield
  exact List.mem_append_right before List.mem_cons_self

/-- The fields of a table that fits do. -/
theorem Kind.Fits.parts {fields : List (String × Bool × Kind)} {entries : List (String × Value)}
    (hfits : (Kind.record fields).Fits (.table entries)) :
    ∀ field ∈ fields, (field.2.1 = true → entries.lookup field.1 ≠ none) ∧
      ∀ part, entries.lookup field.1 = some part → field.2.2.Fits part :=
  (Kind.fits_record_iff.mp hfits).2

variable {kind inner : Kind} {value part : Value} {steps : List Step}

/-- Every part of a value that fits does. -/
theorem Kind.Place.fits (hplace : kind.Place value steps inner part) (hfits : kind.Fits value) :
    inner.Fits part := by
  induction hplace with
  | here => exact hfits
  | element hitem _ ih =>
      cases hfits with
      | list _ hitems => exact ih (hitems _ (List.mem_of_getElem? hitem))
  | field hfield hvalue _ ih => exact ih ((hfits.parts _ (mem_of_lookup hfield)).2 _ hvalue)

/-! ## What is reported -/

/-- No steps lead to the value itself. -/
theorem is_below_nil (expected : ReadError → Prop) : IsBelow [] expected = expected := by
  funext error
  simp [IsBelow, ReadError.below]

/-- A fault that is known is known behind steps. -/
theorem is_below_eq (steps : List Step) (error : ReadError) :
    IsBelow steps (Eq error) = Eq (error.below steps) := by
  funext found
  simp [IsBelow]

/-- Steps are put together. -/
theorem is_below_append (steps rest : List Step) (expected : ReadError → Prop) :
    IsBelow steps (IsBelow rest expected) = IsBelow (steps ++ rest) expected := by
  funext error
  simp [IsBelow, ReadError.below]

/-- If a part of a value that fits is changed and has a fault then, the value has that fault behind
the steps to the part. -/
theorem Kind.Place.reports {change : Value → Value} {expected : ReadError → Prop}
    (hplace : kind.Place value steps inner part) (hfits : kind.Fits value)
    (hreports : inner.Reports (change part) expected) :
    kind.Reports (value.changeAt change steps) (IsBelow steps expected) := by
  induction hplace with
  | here =>
      rw [is_below_nil]
      exact hreports
  | @element kind origin items position item steps inner part hitem _ ih =>
      cases hfits with
      | list _ hitems =>
          have hchanged := ih (hitems _ (List.mem_of_getElem? hitem)) hreports
          have hbefore : ∀ other ∈
              (items.modify position (Value.changeAt change steps)).take position,
              kind.Fits other := by
            intro other hmem
            rw [List.take_modify, List.modify_eq_self (List.length_take_le _ _)] at hmem
            exact hitems other (List.mem_of_mem_take hmem)
          have hthere : (items.modify position (Value.changeAt change steps))[position]? =
              some (item.changeAt change steps) := by
            rw [List.getElem?_modify_eq, hitem]
            rfl
          rw [← List.singleton_append, ← is_below_append]
          exact .element hbefore hthere hchanged
  | @field fields entries name required kind value steps inner part hfield hvalue _ ih =>
      have hparts := hfits.parts
      have hchanged := ih ((hparts _ (mem_of_lookup hfield)).2 _ hvalue) hreports
      rw [← List.singleton_append, ← is_below_append]
      refine .field hfield ?_ hchanged ?_
      · rw [lookup_change_entry, if_pos rfl, hvalue]
        rfl
      · intro field hmem hne other hother
        rw [lookup_change_entry, if_neg hne] at hother
        exact (hparts field hmem).2 other hother

/-! ## Missing fields -/

/-- A table without some fields has the others. -/
theorem lookup_without (gone : List String) (entries : List (String × Value)) (name : String) :
    (entries.filter fun entry => entry.1 ∉ gone).lookup name =
      if name ∈ gone then none else entries.lookup name := by
  induction entries with
  | nil => simp
  | cons entry entries ih =>
      obtain ⟨first, value⟩ := entry
      by_cases hfirst : first ∈ gone
      · rw [List.filter_cons_of_neg (by simpa using hfirst), ih, List.lookup_cons]
        by_cases hname : name = first
        · subst hname
          rw [if_pos hfirst, if_pos hfirst]
        · rw [beq_eq_false_iff_ne.mpr hname]
      · rw [List.filter_cons_of_pos (by simpa using hfirst), List.lookup_cons, List.lookup_cons, ih]
        by_cases hname : name = first
        · subst hname
          simp [hfirst]
        · rw [beq_eq_false_iff_ne.mpr hname]

variable {fields : List (String × Bool × Kind)} {entries : List (String × Value)}
  {gone : List String} {name : String}

/-- The first required field is found by going through them all. -/
theorem FirstRequired.find_eq (hfirst : FirstRequired fields gone name) :
    (fields.find? fun field => field.2.1 && decide (field.1 ∈ gone)).map Prod.fst = some name := by
  obtain ⟨before, kind, after, rfl, hname, hbefore⟩ := hfirst
  have hnone : before.find? (fun field => field.2.1 && decide (field.1 ∈ gone)) = none := by
    rw [List.find?_eq_none]
    intro field hmem
    simpa using hbefore field hmem
  rw [List.find?_append, hnone, Option.none_or, List.find?_cons_of_pos (by simpa using hname)]
  rfl

/-- If fields are taken away from a table that fits, the first of them that is required is
missing. -/
theorem reports_without (hfits : (Kind.record fields).Fits (.table entries))
    (hfirst : FirstRequired fields gone name) :
    (Kind.record fields).Reports ((Value.table entries).without gone)
      (Eq ⟨.missing, [.key name], .memory⟩) := by
  have hparts := hfits.parts
  refine .missing ?_ ?_
  · intro field hmem part hpart
    rw [lookup_without] at hpart
    by_cases hname : field.1 ∈ gone
    · rw [if_pos hname] at hpart
      cases hpart
    · rw [if_neg hname] at hpart
      exact (hparts field hmem).2 part hpart
  · rw [missingField?, ← hfirst.find_eq]
    refine congrArg (Option.map Prod.fst) (List.find?_congr fun field hmem => ?_)
    rw [lookup_without]
    -- A required field was there, so it is missing exactly if it was taken away.
    by_cases hrequired : field.2.1 = true
    · by_cases hname : field.1 ∈ gone
      · simp [hname]
      · have hthere := (hparts field hmem).1 hrequired
        simpa [hrequired, hname, Option.isNone_iff_eq_none] using hthere
    · simp [hrequired]

/-- If fields are taken away and the value of another field has a fault, that fault is reported. -/
theorem reports_changed_without {record old bad : Value} {expected : ReadError → Prop}
    (hfits : (Kind.record fields).Fits record)
    (hplace : (Kind.record fields).Place record [.key name] kind old) (hkept : name ∉ gone)
    (hreports : kind.Reports bad expected) :
    (Kind.record fields).Reports ((record.replaceAt bad [.key name]).without gone)
      (IsBelow [.key name] expected) := by
  cases hplace with
  | @field _ entries _ required _ value _ _ _ hfield hvalue hrest =>
      cases hrest
      have hparts := hfits.parts
      refine .field hfield ?_ hreports ?_
      · rw [lookup_without, if_neg hkept, lookup_change_entry, if_pos rfl]
        rfl
      · intro field hmem hne other hother
        rw [lookup_without, lookup_change_entry, if_neg hne] at hother
        by_cases hname : field.1 ∈ gone
        · rw [if_pos hname] at hother
          cases hother
        · rw [if_neg hname] at hother
          exact (hparts field hmem).2 other hother

end DashboardGenerator.Config
