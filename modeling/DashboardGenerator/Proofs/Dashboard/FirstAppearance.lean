import Mathlib.Data.List.Basic

/-!
# Order of first appearance

`ListsFirst P items names` says that `names` holds the elements of `items` that satisfy `P`, each
once, in the order in which they first appear. The predicate fixes `names`, and
`eraseDups_lists_first` shows that filtering and erasing later repetitions computes it;
`eraseDups_filter` says that the order of the two does not matter.
-/

namespace DashboardGenerator

/-- `names` holds the elements of `items` that satisfy `P`, each once, ordered by the place where
each of them appears first. -/
structure ListsFirst {α : Type} [BEq α] (P : α → Prop) (items names : List α) : Prop where
  nodup : names.Nodup
  mem_iff : ∀ name, name ∈ names ↔ name ∈ items ∧ P name
  ordered : names.Pairwise fun first second => items.idxOf first < items.idxOf second

variable {α : Type} [BEq α] [LawfulBEq α]

omit [LawfulBEq α] in
/-- Two different names have a strict order, so no name is listed twice. -/
theorem nodup_of_pairwise_idxOf {items names : List α}
    (hordered : names.Pairwise fun first second => items.idxOf first < items.idxOf second) :
    names.Nodup :=
  hordered.imp fun hlt heq => by simp [heq] at hlt

/-- In front of the items stands one more: every other name moves one place back. -/
theorem pairwise_idxOf_cons {head : α} {rest names : List α}
    (hne : ∀ name ∈ names, name ≠ head)
    (hordered : names.Pairwise fun first second => rest.idxOf first < rest.idxOf second) :
    names.Pairwise fun first second =>
      (head :: rest).idxOf first < (head :: rest).idxOf second := by
  refine hordered.imp_of_mem fun {first second} hfirst hsecond hlt => ?_
  rw [List.idxOf_cons_ne _ (hne first hfirst).symm, List.idxOf_cons_ne _ (hne second hsecond).symm]
  exact Nat.succ_lt_succ hlt

/-- Erasing later repetitions keeps the order of first appearance. -/
theorem pairwise_idxOf_eraseDups_filter (items : List α) (p : α → Bool) :
    (items.filter p).eraseDups.Pairwise fun first second =>
      items.idxOf first < items.idxOf second := by
  -- The head is erased from the rest by a stricter predicate, so `p` varies in the induction.
  induction items generalizing p with
  | nil => simp
  | cons head rest ih =>
      by_cases hhead : p head
      · rw [List.filter_cons_of_pos hhead, List.eraseDups_cons, List.filter_filter]
        have hne : ∀ name ∈ (rest.filter fun item => !item == head && p item).eraseDups,
            name ≠ head := by
          intro name hname
          simp only [List.mem_eraseDups, List.mem_filter, Bool.and_eq_true, Bool.not_eq_eq_eq_not,
            Bool.not_true, beq_eq_false_iff_ne] at hname
          exact hname.2.1
        refine List.pairwise_cons.mpr ⟨fun name hname => ?_, pairwise_idxOf_cons hne (ih _)⟩
        rw [List.idxOf_cons_self, List.idxOf_cons_ne _ (hne name hname).symm]
        exact Nat.succ_pos _
      · rw [List.filter_cons_of_neg hhead]
        refine pairwise_idxOf_cons (fun name hname heq => hhead ?_) (ih p)
        rw [List.mem_eraseDups, List.mem_filter] at hname
        exact heq ▸ hname.2

/-- Filtering a list and erasing later repetitions lists its elements by first appearance. -/
theorem eraseDups_lists_first {P : α → Prop} {p : α → Bool} (hp : ∀ item, p item = true ↔ P item)
    (items : List α) : ListsFirst P items (items.filter p).eraseDups where
  nodup := nodup_of_pairwise_idxOf (pairwise_idxOf_eraseDups_filter items p)
  mem_iff name := by rw [List.mem_eraseDups, List.mem_filter, hp]
  ordered := pairwise_idxOf_eraseDups_filter items p

/-- It makes no difference whether repetitions are erased or elements are left out first. -/
theorem eraseDups_filter (items : List α) (p : α → Bool) :
    (items.filter p).eraseDups = items.eraseDups.filter p := by
  cases items with
  | nil => rfl
  | cons head rest =>
      -- Erasing the head leaves a shorter list, which need not be the tail.
      have hrest := eraseDups_filter (rest.filter fun item => !item == head) p
      rw [List.eraseDups_cons]
      by_cases hhead : p head
      · rw [List.filter_cons_of_pos hhead, List.filter_cons_of_pos hhead, List.eraseDups_cons,
          ← hrest, List.filter_filter, List.filter_filter]
        simp only [Bool.and_comm]
      · rw [List.filter_cons_of_neg hhead, List.filter_cons_of_neg hhead, ← hrest,
          List.filter_filter]
        refine congrArg List.eraseDups (List.filter_congr fun item _ => ?_)
        by_cases hitem : item = head
        · simp [hitem, hhead]
        · simp [hitem]
termination_by items.length
decreasing_by exact Nat.lt_succ_of_le (List.length_filter_le _ _)

end DashboardGenerator
