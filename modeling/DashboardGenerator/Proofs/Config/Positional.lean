import DashboardGenerator.Proofs.Config.Damage

/-!
# Records written as arrays

A table that holds just the first fields of a record may be written as the array of their values
(`HoldsFirst`). `Kind.Recast` is this rewriting at any number of places, one inside the other or
not, and the part that stands at a place may be rewritten on its own (`Kind.Place.recast`).
Rewritten records have the same fields (`Kind.Recast.part_rel`): a table that ends early lacks
just the fields that the array is too short for, and elements behind the last field belong to
none. So whatever is read field by field is read alike from both (`Kind.Respects`).
-/

namespace DashboardGenerator.Config

variable {α : Type}

/-- The table holds exactly the first of the named fields, with these values in their order. -/
structure HoldsFirst (names : List String) (entries : List (String × Value)) (values : List Value) :
    Prop where
  length_le : values.length ≤ names.length
  lookup_eq : ∀ name, entries.lookup name = (names.zip values).lookup name

namespace Kind

/-- The values are the same, but for records that are tables in the first and arrays in the
second, at any depth. Behind an array of all fields there may be more elements. -/
inductive Recast : Kind → Value → Value → Prop
  | same (kind : Kind) (value : Value) : Recast kind value value
  | list {kind : Kind} (origin : Origin) {items others : List Value}
      (hlength : items.length = others.length)
      (hitems : ∀ (position : Nat) item other, items[position]? = some item →
        others[position]? = some other → Recast kind item other) :
      Recast (.list kind) (.array origin items) (.array origin others)
  | record {fields : List (String × Bool × Kind)} {value other : Value}
      (hform : value.SameForm other)
      (hpresent : ∀ name ∈ fields.map Prod.fst,
        (value.part? (fields.map Prod.fst) name).isSome =
          (other.part? (fields.map Prod.fst) name).isSome)
      (hparts : ∀ name required kind, fields.lookup name = some (required, kind) →
        ∀ part otherPart, value.part? (fields.map Prod.fst) name = some part →
        other.part? (fields.map Prod.fst) name = some otherPart → Recast kind part otherPart) :
      Recast (.record fields) value other
  | positional {fields : List (String × Bool × Kind)} {entries : List (String × Value)}
      {values items surplus : List Value} (origin : Origin)
      (hentries : HoldsFirst (fields.map Prod.fst) entries values)
      (hlength : values.length = items.length)
      (hitems : ∀ (position : Nat) field value item, fields[position]? = some field →
        values[position]? = some value → items[position]? = some item →
        Recast field.2.2 value item)
      (hsurplus : surplus ≠ [] → values.length = fields.length) :
      Recast (.record fields) (.table entries) (.array origin (items ++ surplus))

/-- Rewriting a value of the kind makes no difference to what it gives. -/
def Respects (kind : Kind) (gives : Value → α → Prop) : Prop :=
  ∀ {value other}, kind.Recast value other → ∀ result, gives value result ↔ gives other result

end Kind

/-! ## Fields by position -/

/-- Values are found behind their names where the names stand. -/
theorem lookup_zip {names : List String} {name : String} (hname : name ∈ names)
    (values : List Value) : (names.zip values).lookup name = values[names.idxOf name]? := by
  induction names generalizing values with
  | nil => cases hname
  | cons first names ih =>
      cases values with
      | nil => rfl
      | cons value values =>
          rw [List.zip_cons_cons, List.lookup_cons, List.idxOf_cons]
          by_cases hfirst : name = first
          · subst hfirst
            simp
          · have hrest := (List.mem_cons.mp hname).resolve_left hfirst
            rw [beq_eq_false_iff_ne.mpr hfirst, beq_eq_false_iff_ne.mpr (Ne.symm hfirst)]
            exact ih hrest values

/-- A field stands at the position of its name. -/
theorem getElem_idxOf_of_lookup {fields : List (String × Bool × Kind)} {name : String}
    {found : Bool × Kind} (hfield : fields.lookup name = some found) :
    fields[(fields.map Prod.fst).idxOf name]? = some (name, found) := by
  induction fields with
  | nil => cases hfield
  | cons field fields ih =>
      obtain ⟨first, rest⟩ := field
      rw [List.lookup_cons] at hfield
      rw [List.map_cons, List.idxOf_cons]
      by_cases hfirst : name = first
      · subst hfirst
        rw [beq_self_eq_true] at hfield
        cases hfield
        simp
      · rw [beq_eq_false_iff_ne.mpr hfirst] at hfield
        rw [beq_eq_false_iff_ne.mpr (Ne.symm hfirst)]
        exact ih hfield

/-! ## Rewritten records -/

namespace Kind.Recast

variable {fields : List (String × Bool × Kind)} {value other : Value} {name : String}
  {required : Bool} {kind : Kind}

/-- Records stay records. -/
theorem is_record_iff (hrecast : (Kind.record fields).Recast value other) :
    value.IsRecord ↔ other.IsRecord := by
  cases hrecast with
  | same => rfl
  | record hform =>
      cases value <;> cases other <;> first | exact Iff.rfl | exact hform.elim
  | positional => exact Iff.rfl

/-- A field is missing in both records, or its values are rewritten. -/
theorem part_rel (hrecast : (Kind.record fields).Recast value other)
    (hfield : fields.lookup name = some (required, kind)) :
    Option.Rel kind.Recast (value.part? (fields.map Prod.fst) name)
      (other.part? (fields.map Prod.fst) name) := by
  have hname : name ∈ fields.map Prod.fst := List.mem_map.mpr ⟨_, mem_of_lookup hfield, rfl⟩
  cases hrecast with
  | same =>
      cases value.part? (fields.map Prod.fst) name with
      | none => exact .none
      | some part => exact .some (.same kind part)
  | record hform hpresent hparts =>
      have hsome := hpresent name hname
      have hpart := hparts name required kind hfield
      generalize value.part? (fields.map Prod.fst) name = found at hsome hpart
      generalize other.part? (fields.map Prod.fst) name = otherFound at hsome hpart
      cases found <;> cases otherFound
      · exact .none
      · cases hsome
      · cases hsome
      · exact .some (hpart _ _ rfl rfl)
  | @positional _ entries values items surplus origin hentries hlength hitems hsurplus =>
      have hthere := getElem_idxOf_of_lookup hfield
      show Option.Rel kind.Recast (entries.lookup name)
        (items ++ surplus)[(fields.map Prod.fst).idxOf name]?
      rw [hentries.lookup_eq, lookup_zip hname]
      generalize (fields.map Prod.fst).idxOf name = position at hthere
      by_cases hposition : position < items.length
      · rw [List.getElem?_append_left hposition, List.getElem?_eq_getElem hposition,
          List.getElem?_eq_getElem (hlength ▸ hposition)]
        refine .some (hitems position _ _ _ hthere ?_ ?_)
        · exact List.getElem?_eq_getElem _
        · exact List.getElem?_eq_getElem _
      · -- Surplus elements stand behind all fields, so none of them is taken for this one.
        have hvalues : values.length ≤ position := hlength ▸ Nat.le_of_not_lt hposition
        have hnone : surplus = [] := by
          by_contra hne
          have hlast := (List.getElem?_eq_some_iff.mp hthere).1
          have hfull := hsurplus hne
          omega
        rw [hnone, List.append_nil, List.getElem?_eq_none hvalues,
          List.getElem?_eq_none (Nat.le_of_not_lt hposition)]
        exact .none

end Kind.Recast

/-- If the part at a place is rewritten, so is the whole value. -/
theorem Kind.Place.recast {kind inner : Kind} {value part : Value} {steps : List Step}
    (hplace : kind.Place value steps inner part) (change : Value → Value)
    (hchange : inner.Recast part (change part)) :
    kind.Recast value (value.changeAt change steps) := by
  induction hplace with
  | here => exact hchange
  | @element kind origin items position item steps inner part hitem _ ih =>
      refine .list origin (List.length_modify ..).symm fun other first second hfirst hsecond => ?_
      rw [Int.toNat_natCast] at hsecond
      by_cases hposition : position = other
      · subst hposition
        rw [List.getElem?_modify_eq, hfirst] at hsecond
        cases hitem.symm.trans hfirst
        cases hsecond
        exact ih hchange
      · rw [List.getElem?_modify_ne _ _ hposition, hfirst] at hsecond
        cases hsecond
        exact .same ..
  | @field fields entries name required kind value steps inner part hfield hvalue _ ih =>
      have hlookup := lookup_change_entry (Value.changeAt change steps) name entries
      refine .record trivial (fun other _ => ?_) ?_
      · show (entries.lookup other).isSome = ((changeEntry _ name entries).lookup other).isSome
        rw [hlookup]
        by_cases hother : other = name
        · rw [hother, hvalue, if_pos rfl]
          rfl
        · rw [if_neg hother]
      · intro other otherRequired otherKind hotherField first second hfirst hsecond
        have hsecond : (changeEntry _ name entries).lookup other = some second := hsecond
        have hfirst : entries.lookup other = some first := hfirst
        rw [hlookup] at hsecond
        by_cases hother : other = name
        · subst hother
          cases hfield.symm.trans hotherField
          cases hvalue.symm.trans hfirst
          rw [if_pos rfl, hvalue] at hsecond
          cases hsecond
          exact ih hchange
        · rw [if_neg hother, hfirst] at hsecond
          cases hsecond
          exact .same ..

/-! ## What makes no difference -/

/-- Texts have no records in them. -/
theorem Kind.respects_text (gives : Value → α → Prop) : Kind.text.Respects gives := by
  intro value other hrecast result
  cases hrecast
  rfl

/-- Optional texts have no records in them. -/
theorem Kind.respects_optional_text (gives : Value → α → Prop) :
    Kind.optionalText.Respects gives := by
  intro value other hrecast result
  cases hrecast
  rfl

/-- Truth values have no records in them. -/
theorem Kind.respects_truth (gives : Value → α → Prop) : Kind.truth.Respects gives := by
  intro value other hrecast result
  cases hrecast
  rfl

/-- Rewriting the elements of a list makes no difference if it makes none to each of them. -/
theorem Kind.Respects.list {kind : Kind} {gives : Value → α → Prop} (hkind : kind.Respects gives) :
    (Kind.list kind).Respects (GivesList gives) := by
  intro value other hrecast results
  cases hrecast with
  | same => rfl
  | @list _ origin items others hlength hitems =>
      have hall : List.Forall₂ gives items results ↔ List.Forall₂ gives others results := by
        induction items generalizing others results with
        | nil => rw [List.length_eq_zero_iff.mp hlength.symm]
        | cons item items ih =>
            obtain _ | ⟨other, others⟩ := others
            · cases hlength
            have hfirst := hkind (hitems 0 item other rfl rfl)
            have hrest := fun results => ih results (Nat.succ.inj hlength)
              fun position => hitems (position + 1)
            cases results with
            | nil => simp
            | cons result results => rw [List.forall₂_cons, List.forall₂_cons, hfirst, hrest]
      constructor
      · rintro ⟨_, hgives⟩
        exact .array origin (hall.mp hgives)
      · rintro ⟨_, hgives⟩
        exact .array origin (hall.mpr hgives)

namespace Kind.Recast

variable {fields : List (String × Bool × Kind)} {value other : Value} {kind : Kind}
  {required : Bool} {gives : Value → α → Prop}

/-- What makes no difference to the value of a field makes none to the field. -/
theorem has_field_iff (hrecast : (Kind.record fields).Recast value other) (shape : Shape)
    (hshape : shape.fields = fields.map Prod.fst) (name : String)
    (hfield : fields.lookup name = some (required, kind)) (hkind : kind.Respects gives)
    (result : α) :
    shape.HasField value name gives result ↔ shape.HasField other name gives result := by
  have hparts := hrecast.part_rel hfield
  unfold Shape.HasField
  rw [hshape]
  generalize value.part? (fields.map Prod.fst) name = found at hparts
  generalize other.part? (fields.map Prod.fst) name = otherFound at hparts
  cases hparts with
  | none => rfl
  | some hpart =>
      simp only [Option.some.injEq, exists_eq_left']
      exact hkind hpart result

/-- What makes no difference to the value of a field makes none to a field with a default. -/
theorem has_default_iff (hrecast : (Kind.record fields).Recast value other) (shape : Shape)
    (hshape : shape.fields = fields.map Prod.fst) (name : String)
    (hfield : fields.lookup name = some (required, kind)) (hkind : kind.Respects gives)
    (default result : α) :
    shape.HasDefault value name gives default result ↔
      shape.HasDefault other name gives default result := by
  have hparts := hrecast.part_rel hfield
  unfold Shape.HasDefault
  rw [hshape]
  generalize value.part? (fields.map Prod.fst) name = part at hparts
  generalize other.part? (fields.map Prod.fst) name = otherPart at hparts
  refine exists_congr fun found => and_congr_left fun _ => ?_
  cases hparts with
  | none => rfl
  | some hpart =>
      cases found with
      | none => simp
      | some result => simp [hkind hpart result]

end Kind.Recast

end DashboardGenerator.Config
