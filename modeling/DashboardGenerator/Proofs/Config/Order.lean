import DashboardGenerator.Config.Read
import Mathlib.Data.List.Forall2
import Mathlib.Data.List.Nodup

/-!
# Entries in the order of their keys

Arranging entries by the ranks of their keys changes their order alone (`arrange_perm`), keeps what is
found under a key (`lookup_arrange`), and depends on nothing but the keys (`arrange_rel`). Every order
of entries with distinct keys is that of some ranks (`exists_rank_of_perm`), so what holds for all
ranks holds for every order in which keys can be visited. Visiting the fields of a record succeeds
exactly if none has a fault, whatever the order (`visit_eq_ok_iff`), and a single fault is the one that
is reported (`visit_eq_error`).
-/

namespace DashboardGenerator.Config

variable {α β : Type} (rank : String → Nat)

/-! ## Arranging -/

theorem insert_ranked_perm (entry : String × α) (entries : List (String × α)) :
    (insertRanked rank entry entries).Perm (entry :: entries) := by
  induction entries with
  | nil => exact .refl _
  | cons first entries ih =>
      rw [insertRanked]
      split
      · exact .refl _
      · exact (ih.cons first).trans (.swap entry first entries)

/-- Arranging changes the order of the entries alone. -/
theorem arrange_perm (entries : List (String × α)) : (arrange rank entries).Perm entries := by
  induction entries with
  | nil => exact .refl _
  | cons entry entries ih => exact (insert_ranked_perm rank entry _).trans (ih.cons entry)

theorem lookup_insert_ranked (entry : String × α) (entries : List (String × α)) (key : String) :
    (insertRanked rank entry entries).lookup key = (entry :: entries).lookup key := by
  induction entries with
  | nil => rfl
  | cons first entries ih =>
      rw [insertRanked]
      split
      · rfl
      next hbehind =>
          -- An entry that stands behind another one has another key.
          have hne : entry.1 ≠ first.1 := fun heq => hbehind (heq ▸ Nat.le_refl _)
          rw [List.lookup_cons, ih, List.lookup_cons, List.lookup_cons, List.lookup_cons]
          by_cases hfirst : key = first.1
          · subst hfirst
            simp [beq_eq_false_iff_ne.mpr hne.symm]
          · simp [beq_eq_false_iff_ne.mpr hfirst]

/-- What is found under a key does not depend on the order. -/
theorem lookup_arrange (entries : List (String × α)) (key : String) :
    (arrange rank entries).lookup key = entries.lookup key := by
  induction entries with
  | nil => rfl
  | cons entry entries ih =>
      rw [arrange, lookup_insert_ranked, List.lookup_cons, List.lookup_cons, ih]

/-- Entries with the same keys are arranged alike. -/
theorem arrange_rel {related : String × α → String × β → Prop}
    (hkeys : ∀ entry other, related entry other → entry.1 = other.1)
    {entries : List (String × α)} {others : List (String × β)}
    (hentries : List.Forall₂ related entries others) :
    List.Forall₂ related (arrange rank entries) (arrange rank others) := by
  have hinsert : ∀ {entry other entries others}, related entry other →
      List.Forall₂ related entries others →
      List.Forall₂ related (insertRanked rank entry entries) (insertRanked rank other others) := by
    intro entry other entries others hentry hentries
    induction hentries with
    | nil => exact .cons hentry .nil
    | cons hfirst hrest ih =>
        rw [insertRanked, insertRanked, hkeys _ _ hentry, hkeys _ _ hfirst]
        split
        · exact .cons hentry (.cons hfirst hrest)
        · exact .cons hfirst ih
  induction hentries with
  | nil => exact .nil
  | cons hentry _ ih => exact hinsert hentry ih

/-! ## Every order -/

theorem pairwise_insert_ranked (entry : String × α) {entries : List (String × α)}
    (hentries : entries.Pairwise fun first second => rank first.1 ≤ rank second.1) :
    (insertRanked rank entry entries).Pairwise
      fun first second => rank first.1 ≤ rank second.1 := by
  induction entries with
  | nil => exact List.pairwise_singleton ..
  | cons first entries ih =>
      obtain ⟨hfirst, hentries⟩ := List.pairwise_cons.mp hentries
      rw [insertRanked]
      split
      next hle =>
          refine List.pairwise_cons.mpr ⟨List.forall_mem_cons.mpr ⟨hle, fun other hother => ?_⟩, ?_⟩
          · exact Nat.le_trans hle (hfirst other hother)
          · exact List.pairwise_cons.mpr ⟨hfirst, hentries⟩
      next hbehind =>
          refine List.pairwise_cons.mpr ⟨fun other hother => ?_, ih hentries⟩
          rcases List.mem_cons.mp ((insert_ranked_perm rank entry entries).subset hother) with
            rfl | hother
          · exact Nat.le_of_not_le hbehind
          · exact hfirst other hother

theorem pairwise_arrange (entries : List (String × α)) :
    (arrange rank entries).Pairwise fun first second => rank first.1 ≤ rank second.1 := by
  induction entries with
  | nil => exact .nil
  | cons entry entries ih => exact pairwise_insert_ranked rank entry ih

/-- Entries with distinct keys are arranged in any order by some ranks. -/
theorem exists_rank_of_perm {entries order : List (String × α)} (hperm : order.Perm entries)
    (hkeys : (entries.map Prod.fst).Nodup) : ∃ rank, arrange rank entries = order := by
  have hnodup : (order.map Prod.fst).Nodup := (hperm.map Prod.fst).nodup_iff.mpr hkeys
  refine ⟨fun key => (order.map Prod.fst).idxOf key, ?_⟩
  have hsorted : order.Pairwise fun first second =>
      (order.map Prod.fst).idxOf first.1 ≤ (order.map Prod.fst).idxOf second.1 := by
    rw [List.pairwise_iff_getElem]
    intro first second hfirst hsecond hlt
    have hat : ∀ position (hposition : position < order.length),
        (order.map Prod.fst).idxOf order[position].1 = position := by
      intro position hposition
      have hidx := hnodup.idxOf_getElem position (by simpa using hposition)
      simpa using hidx
    rw [hat, hat]
    exact Nat.le_of_lt hlt
  refine ((arrange_perm _ entries).trans hperm.symm).eq_of_pairwise ?_ (pairwise_arrange _ entries)
    hsorted
  intro first second hfirst hsecond hle hge
  have hmem : first ∈ order := hperm.symm.subset ((arrange_perm _ entries).subset hfirst)
  have hname : first.1 = second.1 :=
    (List.idxOf_inj (List.mem_map_of_mem hmem)).mp (Nat.le_antisymm hle hge)
  exact List.inj_on_of_nodup_map hnodup hmem hsecond hname

/-! ## Visiting fields -/

variable {record : Record} {order : Order} {faults : List (String × Option ReadError)}

/-- A reading has no fault exactly if it gives something. -/
theorem fault_eq_none_iff {reading : Reading α} :
    fault? reading = none ↔ ∃ result, reading = .ok result := by
  cases reading <;> simp [fault?]

/-- The fields are those that are visited, in some order. -/
theorem exists_visited_perm (record : Record) (order : Order)
    (faults : List (String × Option ReadError)) :
    ∃ visited : List (String × Option ReadError), visited.Perm faults ∧
      record.visit order faults =
        match visited.findSome? Prod.snd with
        | some error => .error error
        | none => .ok () := by
  cases record with
  | keyed entries => exact ⟨_, arrange_perm _ faults, rfl⟩
  | positional shape items => exact ⟨faults, .refl _, rfl⟩

/-- Visiting the fields succeeds exactly if none has a fault, whatever the order. -/
theorem visit_eq_ok_iff :
    record.visit order faults = .ok () ↔ ∀ fault ∈ faults, fault.2 = none := by
  obtain ⟨visited, hperm, hvisit⟩ := exists_visited_perm record order faults
  have hnone : visited.findSome? Prod.snd = none ↔ ∀ fault ∈ faults, fault.2 = none := by
    rw [List.findSome?_eq_none_iff]
    simp only [hperm.mem_iff]
  rw [hvisit, ← hnone]
  cases visited.findSome? Prod.snd <;> simp

/-- If all faults are the same, it is this one that is reported, whatever the order. -/
theorem visit_eq_error {error : ReadError} {fault : String × Option ReadError}
    (hmem : fault ∈ faults) (hfault : fault.2 = some error)
    (hothers : ∀ other ∈ faults, other.2 = none ∨ other.2 = some error) :
    record.visit order faults = .error error := by
  obtain ⟨visited, hperm, hvisit⟩ := exists_visited_perm record order faults
  rw [hvisit]
  cases hfound : visited.findSome? Prod.snd with
  | none =>
      have hnone := List.findSome?_eq_none_iff.mp hfound fault (hperm.mem_iff.mpr hmem)
      cases hfault.symm.trans hnone
  | some found =>
      obtain ⟨other, hother, hsome⟩ := List.exists_of_findSome?_eq_some hfound
      rcases hothers other (hperm.mem_iff.mp hother) with hnone | hsame
      · cases hsome.symm.trans hnone
      · cases hsome.symm.trans hsame
        rfl

end DashboardGenerator.Config
