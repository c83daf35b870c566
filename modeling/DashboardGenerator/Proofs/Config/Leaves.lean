import DashboardGenerator.Generator.DefinitionPaths
import DashboardGenerator.Proofs.Config.Kinds
import DashboardGenerator.Proofs.Config.Layers

/-!
# Leaves of a tree

What a key or an index has after leaves were set one by one is what its own leaves make, set in the
order in which they came (`lookup_set_all`, `item_set_all`). So a table or an array gives the same in
every order if each of its parts does: `GivesInAnyOrder`.
-/

namespace DashboardGenerator.Config

variable {α : Type} {leaves order : Leaves}

/-- The tree after leaves were set in it one after the other. -/
def Value.setAll (tree : Value) (leaves : Leaves) : Value :=
  leaves.foldl (fun tree leaf => Value.assign (leaf.2.config .memory) leaf.1 tree) tree

namespace Leaves

/-! ## Leaves behind a step -/

/-- The leaves that lie behind a step, seen from there. -/
def below (step : Step) (leaves : Leaves) : Leaves :=
  leaves.filterMap fun leaf =>
    match leaf.1 with
    | [] => none
    | first :: rest => if first = step then some (rest, leaf.2) else none

theorem below_cons (step first : Step) (rest : List Step) (value : Toml.Literal) (leaves : Leaves) :
    below step ((first :: rest, value) :: leaves) =
      if first = step then (rest, value) :: below step leaves else below step leaves := by
  by_cases hfirst : first = step
  · rw [if_pos hfirst]
    exact List.filterMap_cons_some (by simp [hfirst])
  · rw [if_neg hfirst]
    exact List.filterMap_cons_none (by simp [hfirst])

theorem below_append (step : Step) (leaves others : Leaves) :
    below step (leaves ++ others) = below step leaves ++ below step others :=
  List.filterMap_append

/-- If nothing lies behind a step, no leaf starts with it. -/
theorem ne_of_below_eq_nil {step : Step} (hbelow : below step leaves = []) :
    ∀ leaf ∈ leaves, ∀ rest, leaf.1 ≠ step :: rest := by
  rintro ⟨steps, value⟩ hmem rest hsteps
  obtain rfl : steps = step :: rest := hsteps
  have hnone := List.filterMap_eq_nil_iff.mp hbelow _ hmem
  dsimp only at hnone
  rw [if_pos rfl] at hnone
  cases hnone

/-- Leaves in another order are in another order behind each step. -/
theorem below_perm (horder : order.Perm leaves) (step : Step) :
    (below step order).Perm (below step leaves) :=
  horder.filterMap _

/-- Behind the step that was put in front stand the leaves as they were. -/
theorem below_behind (step : Step) (leaves : Leaves) : below step (behind step leaves) = leaves := by
  induction leaves with
  | nil => rfl
  | cons leaf leaves ih =>
      show below step ((step :: leaf.1, leaf.2) :: behind step leaves) = _
      rw [below_cons, if_pos rfl, ih]

theorem below_behind_other {step other : Step} (hother : other ≠ step) (leaves : Leaves) :
    below step (behind other leaves) = [] := by
  induction leaves with
  | nil => rfl
  | cons leaf leaves ih =>
      show below step ((other :: leaf.1, leaf.2) :: behind other leaves) = _
      rw [below_cons, if_neg hother, ih]

theorem below_behind_key {name other : String} (hother : other ≠ name) (leaves : Leaves) :
    below (.key name) (behind (.key other) leaves) = [] :=
  below_behind_other (fun heq => hother (Step.key.inj heq)) leaves

/-- Lines have no leaves behind a key that is not theirs. -/
theorem below_of_lines_of_not_mem {lines : List (String × Toml.Literal)} {name : String}
    (hname : name ∉ lines.map Prod.fst) : below (.key name) (ofLines lines) = [] := by
  induction lines with
  | nil => rfl
  | cons line lines ih =>
      simp only [List.map_cons, List.mem_cons, not_or] at hname
      have hother : Step.key line.1 ≠ .key name := fun heq => hname.1 (Step.key.inj heq).symm
      show below (.key name) (([.key line.1], line.2) :: ofLines lines) = []
      rw [below_cons, if_neg hother, ih hname.2]

/-- No element stands in front of the first one. -/
theorem below_of_items_before (write : α → Leaves) (items : List α) {start position : Nat}
    (hbefore : position < start) : below (.index ↑position) (ofItems write start items) = [] := by
  induction items generalizing start with
  | nil => rfl
  | cons item items ih =>
      have hother : Step.index ↑start ≠ .index ↑position := by
        rintro ⟨⟩
        omega
      rw [ofItems, below_append, below_behind_other hother, ih (by omega), List.append_nil]

/-- Behind the index of an element stand the leaves of that element. -/
theorem below_of_items (write : α → Leaves) (items : List α) (start position : Nat) :
    below (.index ↑(start + position)) (ofItems write start items) =
      (items[position]?.map write).getD [] := by
  induction items generalizing start position with
  | nil => rfl
  | cons item items ih =>
      rw [ofItems, below_append]
      cases position with
      | zero =>
          rw [Nat.add_zero, below_behind, below_of_items_before _ _ (Nat.lt_succ_self start),
            List.append_nil]
          rfl
      | succ position =>
          have hother : Step.index ↑start ≠ .index ↑(start + (position + 1)) := by
            rintro ⟨⟩
          rw [below_behind_other hother, List.nil_append,
            show start + (position + 1) = start + 1 + position by omega, ih,
            List.getElem?_cons_succ]

/-! ## First steps -/

/-- Every leaf lies behind a step of some kind. -/
inductive StartWith (IsFirst : Step → Prop) : Leaves → Prop
  | nil : StartWith IsFirst []
  | cons {first : Step} (hfirst : IsFirst first) (rest : List Step) (value : Toml.Literal)
      {leaves : Leaves} (hothers : StartWith IsFirst leaves) :
      StartWith IsFirst ((first :: rest, value) :: leaves)

/-- The step is a key. -/
def IsKey (step : Step) : Prop :=
  ∃ name, step = .key name

/-- The step is an index from the start of an array, below a bound. -/
def IsIndexBelow (bound : Nat) (step : Step) : Prop :=
  ∃ position < bound, step = .index ↑position

section

variable {IsFirst : Step → Prop}

theorem start_with_iff :
    StartWith IsFirst leaves ↔
      ∀ leaf ∈ leaves, ∃ first rest, IsFirst first ∧ leaf.1 = first :: rest := by
  induction leaves with
  | nil => exact ⟨fun _ => nofun, fun _ => .nil⟩
  | cons leaf leaves ih =>
      obtain ⟨steps, value⟩ := leaf
      rw [List.forall_mem_cons, ← ih]
      constructor
      · rintro (_ | ⟨hfirst, rest, _, hothers⟩)
        exact ⟨⟨_, rest, hfirst, rfl⟩, hothers⟩
      · rintro ⟨⟨first, rest, hfirst, hsteps⟩, hothers⟩
        obtain rfl : steps = first :: rest := hsteps
        exact .cons hfirst rest value hothers

theorem StartWith.perm (hstart : StartWith IsFirst leaves) (horder : order.Perm leaves) :
    StartWith IsFirst order :=
  start_with_iff.mpr fun leaf hmem => start_with_iff.mp hstart leaf (horder.mem_iff.mp hmem)

theorem StartWith.append {others : Leaves} (hleaves : StartWith IsFirst leaves)
    (hothers : StartWith IsFirst others) : StartWith IsFirst (leaves ++ others) :=
  start_with_iff.mpr (List.forall_mem_append.mpr
    ⟨start_with_iff.mp hleaves, start_with_iff.mp hothers⟩)

theorem start_with_behind {step : Step} (hfirst : IsFirst step) (leaves : Leaves) :
    StartWith IsFirst (behind step leaves) := by
  induction leaves with
  | nil => exact .nil
  | cons leaf leaves ih => exact .cons hfirst leaf.1 leaf.2 ih

end

theorem start_with_of_items (write : α → Leaves) (items : List α) (start : Nat) :
    StartWith (IsIndexBelow (start + items.length)) (ofItems write start items) := by
  induction items generalizing start with
  | nil => exact .nil
  | cons item items ih =>
      have hlength : start + (item :: items).length = start + 1 + items.length := by
        rw [List.length_cons]
        omega
      rw [hlength]
      exact (start_with_behind ⟨start, by omega, rfl⟩ (write item)).append (ih (start + 1))

theorem start_with_of_lines (lines : List (String × Toml.Literal)) :
    StartWith IsKey (ofLines lines) := by
  induction lines with
  | nil => exact .nil
  | cons line lines ih => exact .cons ⟨line.1, rfl⟩ [] line.2 ih

/-! ## Tables -/

/-- Leaves behind keys keep a table a table. -/
theorem set_all_of_table (hkeys : StartWith IsKey leaves) (entries : List (String × Value)) :
    ∃ after, (Value.table entries).setAll leaves = .table after := by
  induction hkeys generalizing entries with
  | nil => exact ⟨entries, rfl⟩
  | cons hfirst rest value hothers ih =>
      obtain ⟨name, rfl⟩ := hfirst
      exact ih _

/-- Leaves behind keys make a table of anything. -/
theorem set_all_table (hkeys : StartWith IsKey leaves) (hne : leaves ≠ []) (tree : Value) :
    ∃ entries, tree.setAll leaves = .table entries := by
  cases hkeys with
  | nil => exact absurd rfl hne
  | cons hfirst rest value hothers =>
      obtain ⟨name, rfl⟩ := hfirst
      exact set_all_of_table hothers _

/-- A key has what its own leaves make of the value that it had. -/
theorem lookup_set_all (hkeys : StartWith IsKey leaves) (tree : Value) (name : String) :
    (tree.setAll leaves).entries.lookup name =
      if below (.key name) leaves = [] then tree.entries.lookup name
      else some (((tree.entries.lookup name).getD .nil).setAll (below (.key name) leaves)) := by
  induction hkeys generalizing tree with
  | nil => rfl
  | @cons _ hfirst rest value leaves hothers ih =>
      obtain ⟨first, rfl⟩ := hfirst
      refine (ih _).trans ?_
      rw [lookup_assign_key, below_cons]
      by_cases hname : name = first
      · subst hname
        rw [if_pos rfl, if_pos rfl, if_neg (List.cons_ne_nil _ _)]
        split
        next hnone => rw [hnone]; rfl
        · rfl
      · have hother : Step.key first ≠ .key name := by
          rintro ⟨⟩
          exact hname rfl
        rw [if_neg hname, if_neg hother]

/-! ## Arrays -/

/-- Setting a value behind an index makes room for it first. -/
theorem assign_index (value : Value) (position : Nat) (rest : List Step) (old : Value) :
    Value.assign value (.index ↑position :: rest) old =
      .array old.arrayOrigin
        ((old.items ++ List.replicate (position + 1 - old.items.length) Value.nil).modify position
          (Value.assign value rest)) := by
  have hroom : makeRoom old.items ↑position =
      (old.items ++ List.replicate (position + 1 - old.items.length) Value.nil, position) := by
    rw [makeRoom, if_pos (Int.natCast_nonneg position), Int.toNat_natCast]
  rw [Value.assign, hroom]

/-- Setting a value behind an index makes the array reach up to it. -/
theorem length_assign_index (value : Value) (position : Nat) (rest : List Step) (old : Value) :
    (Value.assign value (.index ↑position :: rest) old).items.length =
      max old.items.length (position + 1) := by
  rw [assign_index]
  show (List.modify _ position _).length = _
  rw [List.length_modify, List.length_append, List.length_replicate]
  omega

/-- Setting a value behind an index changes the element there, which may be a gap or missing. -/
theorem item_assign_index (value : Value) (position : Nat) (rest : List Step) (old : Value)
    (other : Nat) :
    ((Value.assign value (.index ↑position :: rest) old).items[other]?).getD .nil =
      if other = position then Value.assign value rest ((old.items[position]?).getD .nil)
      else (old.items[other]?).getD .nil := by
  -- A gap that makes room is what a missing element counts as anyway.
  have hgaps : ∀ count index : Nat,
      ((old.items ++ List.replicate count Value.nil)[index]?).getD .nil =
        (old.items[index]?).getD .nil := by
    intro count index
    rcases Nat.lt_or_ge index old.items.length with hlt | hge
    · rw [List.getElem?_append_left hlt]
    · rw [List.getElem?_append_right hge, List.getElem?_eq_none hge, List.getElem?_replicate]
      split <;> rfl
  rw [assign_index]
  show ((List.modify _ position _)[other]?).getD _ = _
  by_cases hother : other = position
  · subst hother
    have hlength : other < (old.items ++
        List.replicate (other + 1 - old.items.length) Value.nil).length := by
      rw [List.length_append, List.length_replicate]
      omega
    have hold := hgaps (other + 1 - old.items.length) other
    rw [List.getElem?_eq_getElem hlength] at hold
    rw [if_pos rfl, List.getElem?_modify_eq, List.getElem?_eq_getElem hlength, ← hold]
    rfl
  · rw [if_neg hother, List.getElem?_modify_ne _ _ (Ne.symm hother), hgaps]

/-- An index has what its own leaves make of the element that it had. -/
theorem item_set_all {bound : Nat} (hindexes : StartWith (IsIndexBelow bound) leaves) (tree : Value)
    (position : Nat) :
    ((tree.setAll leaves).items[position]?).getD .nil =
      ((tree.items[position]?).getD .nil).setAll (below (.index ↑position) leaves) := by
  induction hindexes generalizing tree with
  | nil => rfl
  | @cons _ hfirst rest value leaves hothers ih =>
      obtain ⟨first, -, rfl⟩ := hfirst
      refine (ih _).trans ?_
      rw [item_assign_index, below_cons]
      by_cases hposition : position = first
      · subst hposition
        rw [if_pos rfl, if_pos rfl]
        rfl
      · have hother : Step.index ↑first ≠ .index ↑position := by
          rintro ⟨⟩
          exact hposition rfl
        rw [if_neg hposition, if_neg hother]

/-- The array reaches as far as it did and up to the indexes of the leaves. -/
theorem lt_length_set_all {bound : Nat} (hindexes : StartWith (IsIndexBelow bound) leaves)
    (tree : Value) {position : Nat}
    (hposition : position < tree.items.length ∨ below (.index ↑position) leaves ≠ []) :
    position < (tree.setAll leaves).items.length := by
  induction hindexes generalizing tree with
  | nil => exact hposition.resolve_right fun hne => hne rfl
  | @cons _ hfirst rest value leaves hothers ih =>
      obtain ⟨first, -, rfl⟩ := hfirst
      refine ih _ ?_
      rw [length_assign_index]
      rcases hposition with hold | hbelow
      · exact .inl (by omega)
      rw [below_cons] at hbelow
      split at hbelow
      next hsame =>
        cases hsame
        exact .inl (by omega)
      · exact .inr hbelow

/-- The array reaches no further than it did and than the indexes of the leaves. -/
theorem length_set_all_le {bound : Nat} (hindexes : StartWith (IsIndexBelow bound) leaves)
    (tree : Value) (htree : tree.items.length ≤ bound) :
    (tree.setAll leaves).items.length ≤ bound := by
  induction hindexes generalizing tree with
  | nil => exact htree
  | @cons _ hfirst rest value leaves hothers ih =>
      obtain ⟨first, hbound, rfl⟩ := hfirst
      refine ih _ ?_
      rw [length_assign_index]
      exact max_le htree hbound

/-- Leaves behind indexes make an array of anything. -/
theorem set_all_array {bound : Nat} (hindexes : StartWith (IsIndexBelow bound) leaves)
    (hne : leaves ≠ []) (tree : Value) :
    ∃ items, tree.setAll leaves = .array tree.arrayOrigin items := by
  have hstay : ∀ leaves : Leaves, StartWith (IsIndexBelow bound) leaves → ∀ origin items,
      ∃ after, (Value.array origin items).setAll leaves = .array origin after := by
    intro leaves hindexes
    induction hindexes with
    | nil => exact fun origin items => ⟨items, rfl⟩
    | cons hfirst rest value hothers ih =>
        intro origin items
        obtain ⟨position, -, rfl⟩ := hfirst
        exact ih _ _
  cases hindexes with
  | nil => exact absurd rfl hne
  | cons hfirst rest value hothers =>
      obtain ⟨position, -, rfl⟩ := hfirst
      exact hstay _ hothers _ _

end Leaves

/-! ## Results -/

/-- There are leaves, and in whatever order they are set, the tree gives the result. -/
structure GivesInAnyOrder (gives : Value → α → Prop) (leaves : Leaves) (result : α) : Prop where
  ne_nil : leaves ≠ []
  gives_set_all : ∀ order : Leaves, order.Perm leaves → gives (Value.nil.setAll order) result

/-- A single leaf gives what its value does. -/
theorem gives_single {gives : Value → α → Prop} {value : Toml.Literal} {result : α}
    (hgives : gives (Value.nil.merge (value.config .memory)) result) :
    GivesInAnyOrder gives [([], value)] result where
  ne_nil := List.cons_ne_nil _ _
  gives_set_all order horder := by
    rw [List.perm_singleton.mp horder]
    exact hgives

/-- Elements give a list if each of them gives something. -/
theorem gives_items {gives : Value → α → Prop} {write : α → Leaves} {items : List α}
    (hne : items ≠ []) (hitems : ∀ item ∈ items, GivesInAnyOrder gives (write item) item) :
    GivesInAnyOrder (GivesList gives) (Leaves.ofItems write 0 items) items := by
  have hbelow : ∀ (position : Nat) (item : α), items[position]? = some item →
      Leaves.below (.index ↑position) (Leaves.ofItems write 0 items) = write item := by
    intro position item hitem
    have hfound := Leaves.below_of_items write items 0 position
    rw [Nat.zero_add, hitem] at hfound
    exact hfound
  have hwritten : Leaves.ofItems write 0 items ≠ [] := by
    obtain ⟨item, others, rfl⟩ := List.exists_cons_of_ne_nil hne
    intro hempty
    have hfirst := hbelow 0 item rfl
    rw [hempty] at hfirst
    exact (hitems item List.mem_cons_self).ne_nil hfirst.symm
  refine ⟨hwritten, fun order horder => ?_⟩
  have hindexes := (Leaves.start_with_of_items write items 0).perm horder
  rw [Nat.zero_add] at hindexes
  obtain ⟨values, hvalues⟩ := Leaves.set_all_array hindexes
    (fun hempty => hwritten (List.nil_perm.mp (hempty ▸ horder))) .nil
  -- Every element has leaves of its own, so the array reaches up to the last one and no further.
  have hpart : ∀ (position : Nat) (item : α), items[position]? = some item →
      (Leaves.below (.index ↑position) order).Perm (write item) := by
    intro position item hitem
    rw [← hbelow position item hitem]
    exact Leaves.below_perm horder _
  have hreach : ∀ position < items.length, position < values.length := by
    intro position hposition
    have hitem : items[position]? = some items[position] := List.getElem?_eq_getElem hposition
    have hsome : Leaves.below (.index ↑position) order ≠ [] := fun hempty =>
      (hitems _ (List.getElem_mem hposition)).ne_nil
        (List.nil_perm.mp (hempty ▸ hpart position _ hitem))
    have hlt := Leaves.lt_length_set_all hindexes .nil (.inr hsome)
    rwa [hvalues] at hlt
  have hlength : values.length = items.length := by
    have hle := Leaves.length_set_all_le hindexes .nil (Nat.zero_le _)
    rw [hvalues] at hle
    have hge := hreach (items.length - 1)
    have hpos := List.length_pos_iff.mpr hne
    exact Nat.le_antisymm hle (by omega)
  rw [hvalues]
  refine .array _ (List.forall₂_iff_get.mpr ⟨hlength, fun position hvalue hitem => ?_⟩)
  have hset := Leaves.item_set_all hindexes .nil position
  rw [hvalues, show Value.items (.array _ values) = values from rfl,
    List.getElem?_eq_getElem hvalue] at hset
  have hfrom : values.get ⟨position, hvalue⟩ =
      Value.nil.setAll (Leaves.below (.index ↑position) order) := hset
  rw [hfrom]
  exact (hitems _ (List.get_mem items ⟨position, hitem⟩)).gives_set_all _
    (hpart position _ (List.getElem?_eq_getElem hitem))

/-! ## Fields -/

/-- Leaves of a table are set in some order, in a tree that has no entries yet. -/
structure SetsTable (tree : Value) (leaves order : Leaves) : Prop where
  entries_eq_nil : tree.entries = []
  start_with_keys : Leaves.StartWith Leaves.IsKey leaves
  ne_nil : leaves ≠ []
  perm : order.Perm leaves

section

variable {shape : Shape} {tree : Value} {name : String} {gives : Value → α → Prop} {result : α}

theorem SetsTable.order_ne_nil (hsets : SetsTable tree leaves order) : order ≠ [] :=
  fun hempty => hsets.ne_nil (List.nil_perm.mp (hempty ▸ hsets.perm))

/-- The leaves make a record. -/
theorem SetsTable.is_record (hsets : SetsTable tree leaves order) :
    (tree.setAll order).IsRecord := by
  obtain ⟨entries, hentries⟩ := Leaves.set_all_table
    (hsets.start_with_keys.perm hsets.perm) hsets.order_ne_nil tree
  rw [hentries]
  trivial

/-- A key has what its own leaves make, and is missing if it has none. -/
theorem SetsTable.part_eq (hsets : SetsTable tree leaves order) (names : List String)
    (name : String) :
    (tree.setAll order).part? names name =
      if Leaves.below (.key name) order = [] then none
      else some (Value.nil.setAll (Leaves.below (.key name) order)) := by
  have hkeys := hsets.start_with_keys.perm hsets.perm
  obtain ⟨entries, hentries⟩ := Leaves.set_all_table hkeys hsets.order_ne_nil tree
  have hlookup := Leaves.lookup_set_all hkeys tree name
  rw [hentries, hsets.entries_eq_nil] at hlookup
  rw [hentries]
  exact hlookup

/-- A field whose leaves give something is there. -/
theorem SetsTable.has_field (hsets : SetsTable tree leaves order)
    (hgives : GivesInAnyOrder gives (Leaves.below (.key name) leaves) result) :
    shape.HasField (tree.setAll order) name gives result := by
  have hperm := Leaves.below_perm hsets.perm (.key name)
  have hsome : Leaves.below (.key name) order ≠ [] := fun hempty =>
    hgives.ne_nil (List.nil_perm.mp (hempty ▸ hperm))
  refine ⟨Value.nil.setAll (Leaves.below (.key name) order), ?_, hgives.gives_set_all _ hperm⟩
  rw [hsets.part_eq, if_neg hsome]

/-- So is a field with a default. -/
theorem SetsTable.has_default (hsets : SetsTable tree leaves order) {default : α}
    (hgives : GivesInAnyOrder gives (Leaves.below (.key name) leaves) result) :
    shape.HasDefault (tree.setAll order) name gives default result := by
  obtain ⟨part, hpart, hresult⟩ := @SetsTable.has_field _ _ _ shape _ _ _ _ hsets hgives
  refine ⟨some result, ?_, rfl⟩
  rw [hpart]
  exact .some hresult

/-- A field without leaves has its default. -/
theorem SetsTable.has_default_missing (hsets : SetsTable tree leaves order) {default : α}
    (hmissing : Leaves.below (.key name) leaves = []) :
    shape.HasDefault (tree.setAll order) name gives default default := by
  have hnone : Leaves.below (.key name) order = [] :=
    List.perm_nil.mp (hmissing ▸ Leaves.below_perm hsets.perm (.key name))
  refine ⟨none, ?_, rfl⟩
  rw [hsets.part_eq, if_pos hnone]
  exact .none

/-- A list is empty by default, and then its elements have no leaves. -/
theorem SetsTable.has_items (hsets : SetsTable tree leaves order) {write : α → Leaves}
    {items : List α}
    (hbelow : Leaves.below (.key name) leaves = Leaves.ofItems write 0 items)
    (hitems : ∀ item ∈ items, GivesInAnyOrder gives (write item) item) :
    shape.HasDefault (tree.setAll order) name (GivesList gives) [] items := by
  cases items with
  | nil => exact hsets.has_default_missing hbelow
  | cons item items =>
      refine hsets.has_default ?_
      rw [hbelow]
      exact gives_items (List.cons_ne_nil _ _) hitems

end

end DashboardGenerator.Config
