import DashboardGenerator.Config.Read
import DashboardGenerator.Proofs.Config.Written
import DashboardGenerator.Proofs.Result

/-!
# Fields of written records

A field is read from what stands under its name. A list that was written as an array, inline or as an
array of tables, is read back if its elements are; an empty array of tables is not there, and then
the field counts as the empty list (`HoldsList`).
-/

namespace DashboardGenerator.Config

open Toml hiding Value

variable {α : Type} {entries : List (String × Value)} {name : String} {order : Order}
  {read : Reader α}

/-- A field that is there is read from its value. -/
theorem field_of_lookup {value : Value} {result : α} (hlookup : entries.lookup name = some value)
    (hread : ∀ order, read order value = .ok result) :
    (Record.keyed entries).field? order name read = .ok (some result) := by
  simp only [Record.field?, hlookup, hread]
  rfl

/-- A field is there with what its value is read as, or is missing. -/
theorem field_eq_ok_iff {found : Option α} :
    (Record.keyed entries).field? order name read = .ok found ↔
      Option.Rel (fun value result => read (order.below (.key name)) value = .ok result)
        (entries.lookup name) found := by
  rw [Record.field?]
  cases entries.lookup name with
  | none => cases found <;> simp
  | some value =>
      dsimp only
      rw [behind, mapError_eq_ok_iff, map_eq_ok_iff]
      cases found <;> simp

/-- An optional field with a value is there with what its value is read as, or is missing. -/
theorem optional_field_eq_ok_iff (hvalue : entries.lookup name ≠ some .nil) {result : Option α} :
    (∃ found, (Record.keyed entries).field? order name (readOptional read) = .ok found ∧
      found.join = result) ↔
      Option.Rel (fun value result => read (order.below (.key name)) value = .ok result)
        (entries.lookup name) result := by
  simp only [field_eq_ok_iff]
  cases hlookup : entries.lookup name with
  | none =>
      constructor
      · rintro ⟨found, hfound, rfl⟩
        cases hfound
        exact .none
      · intro hresult
        cases hresult
        exact ⟨none, .none, rfl⟩
  | some value =>
      have hread : ∀ order, readOptional read order value = (read order value).map some := by
        intro order
        unfold readOptional
        split
        · exact absurd hlookup hvalue
        · rfl
      constructor
      · rintro ⟨found, hfound, rfl⟩
        cases hfound with
        | some hfound =>
            obtain ⟨result, hgives, rfl⟩ := map_eq_ok_iff.mp ((hread _).symm.trans hfound)
            exact .some hgives
      · intro hresult
        cases hresult with
        | some hgives =>
            exact ⟨_, .some ((hread _).trans (map_eq_ok_iff.mpr ⟨_, hgives, rfl⟩)), rfl⟩

/-- A field depends on the entries only through what they have under its name. -/
theorem field_congr {others : List (String × Value)}
    (hlookup : entries.lookup name = others.lookup name) (order : Order) (read : Reader α) :
    (Record.keyed entries).field? order name read =
      (Record.keyed others).field? order name read := by
  simp only [Record.field?, hlookup]

/-- The elements of an array are read back if each of them is. -/
theorem read_items_map {write : α → Value} (hread : ∀ order item, read order (write item) = .ok item)
    (order : Order) (items : List α) (position : Nat) :
    readItems read order position (items.map write) = .ok items := by
  induction items generalizing position with
  | nil => rfl
  | cons item items ih =>
      refine bind_eq_ok_iff.mpr ⟨item, ?_, bind_eq_ok_iff.mpr ⟨items, ih _, rfl⟩⟩
      rw [behind, hread]
      rfl

/-- The entries hold a list in a field, or have not the field and the list is empty. -/
def HoldsList (entries : List (String × Value)) (name : String) (read : Reader α)
    (items : List α) : Prop :=
  ∀ order, ∃ found, (Record.keyed entries).field? order name (readList read) = .ok found ∧
    found.getD [] = items

/-- Only what stands under the name of the list matters. -/
theorem HoldsList.congr {others : List (String × Value)} {items : List α}
    (hholds : HoldsList entries name read items)
    (hlookup : others.lookup name = entries.lookup name) : HoldsList others name read items := by
  intro order
  obtain ⟨found, hfield, hfound⟩ := hholds order
  exact ⟨found, (field_congr hlookup order _).trans hfield, hfound⟩

/-- An array between brackets holds the list that was written. -/
theorem holds_list_inlined (origin : Origin) {write : α → Literal}
    (hread : ∀ order item, read order ((write item).config origin) = .ok item) (name : String)
    (items : List α) :
    HoldsList (Literal.entryConfigs origin [(name, .array (items.map write))]) name read items := by
  have hitems : Literal.itemConfigs origin (items.map write) =
      items.map fun item => (write item).config origin := by
    induction items with
    | nil => rfl
    | cons item items ih => exact congrArg (_ :: ·) ih
  have hlist : ∀ order, readList read order
      (.array origin (Literal.itemConfigs origin (items.map write))) = .ok items := by
    intro order
    rw [hitems]
    exact read_items_map hread order items 0
  intro order
  exact ⟨some items, field_of_lookup (by simp [Literal.entryConfigs, Literal.config]) hlist, rfl⟩

/-- An array of tables holds the list that was written, also if there is no element. -/
theorem holds_list_sections (origin : Origin) {write : α → Section}
    (hread : ∀ order item, read order (.table ((write item).config origin)) = .ok item)
    (name : String) (items : List α) :
    HoldsList (Section.groupConfigs origin [(name, items.map write)]) name read items := by
  have helements : Section.elementConfigs origin (items.map write) =
      items.map fun item => .table ((write item).config origin) := by
    induction items with
    | nil => rfl
    | cons item items ih => exact congrArg (_ :: ·) ih
  have hlist : ∀ order, readList read order
      (.array origin (Section.elementConfigs origin (items.map write))) = .ok items := by
    intro order
    rw [helements]
    exact read_items_map hread order items 0
  intro order
  -- Without elements there is no header, and the field is missing.
  cases items with
  | nil => exact ⟨none, rfl, rfl⟩
  | cons item items =>
      refine ⟨some (item :: items), field_of_lookup ?_ hlist, rfl⟩
      simp [Section.groupConfigs, Section.arrayConfig, Section.elementConfigs]

/-- Under the key of an array of tables stands that array and nothing of the others. -/
theorem lookup_group_configs (origin : Origin) {groups : List (String × List Section)}
    (hkeys : (groups.map Prod.fst).Nodup) {elements : List Section}
    (hmem : (name, elements) ∈ groups) :
    (Section.groupConfigs origin groups).lookup name =
      (Section.groupConfigs origin [(name, elements)]).lookup name := by
  induction groups with
  | nil => cases hmem
  | cons group groups ih =>
      rw [List.map_cons, List.nodup_cons] at hkeys
      rcases List.mem_cons.mp hmem with rfl | hrest
      · have hothers : (Section.groupConfigs origin groups).lookup name = none :=
          Entries.lookup_of_not_mem fun hname =>
            hkeys.1 ((group_config_keys origin groups).subset hname)
        rw [Section.groupConfigs, List.lookup_append, hothers, Option.or_none, Section.groupConfigs,
          Section.groupConfigs, List.append_nil]
      · have hname : name ∈ groups.map Prod.fst := List.mem_map.mpr ⟨_, hrest, rfl⟩
        have hne : name ≠ group.1 := fun heq => hkeys.1 (heq ▸ hname)
        have hfirst : (Section.arrayConfig origin group.1
            (Section.elementConfigs origin group.2)).lookup name = none := by
          rw [Section.arrayConfig]
          split
          · rfl
          · exact Entries.lookup_of_not_mem (by simpa using hne)
        rw [Section.groupConfigs, List.lookup_append, hfirst, Option.none_or]
        exact ih hkeys.2 hrest

end DashboardGenerator.Config
