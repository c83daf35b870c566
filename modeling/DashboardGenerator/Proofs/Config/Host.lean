import DashboardGenerator.Config.Host
import DashboardGenerator.Proofs.Config.Layers
import DashboardGenerator.Proofs.Config.Order

/-!
# Setting a source on a host

Setting a source ends with a crash, or with the configuration that its values make in the order of the
host (`set_eq_ok_iff`). There is no crash if there is room for the indexes of its paths
(`set_of_room`). A plain key asks for no room, so a source of plain keys is set on every host
(`set_of_plain`), and what a key has afterwards does not depend on the order (`lookup_set_of_plain`).
-/

namespace DashboardGenerator.Config

variable {host : Host} {origin : Origin} {tree config : Value} {source : List (String × Value)}

/-- The host has room for the array that the step leads into, if it is an index from the start. -/
def Step.HasRoom (host : Host) : Step → Prop
  | .key _ => True
  | .index position => 0 ≤ position ∧ host.crash? (position.toNat + 1) = none

namespace Host

/-- Setting a source succeeds exactly if no array on the way needs more room than there is. -/
theorem set_eq_ok_iff :
    host.set origin tree source = .ok config ↔
      host.firstCrash? tree (arrange (host.sourceRank origin) source) = none ∧
        applySource tree (arrange (host.sourceRank origin) source) = config := by
  rw [set]
  cases host.firstCrash? tree (arrange (host.sourceRank origin) source) <;> simp

/-- Steps for which there is room lead to no crash, whatever there is already. -/
theorem crash_at_of_room {steps : List Step} (hroom : ∀ step ∈ steps, step.HasRoom host)
    (tree : Value) : host.crashAt? steps tree = none := by
  rw [crashAt?]
  induction steps generalizing tree with
  | nil => rfl
  | cons step steps ih =>
      obtain ⟨hstep, hsteps⟩ := List.forall_mem_cons.mp hroom
      cases step with
      | key name => exact ih hsteps _
      | index index =>
          obtain ⟨hindex, hgrown⟩ := hstep
          rw [Value.growths, List.findSome?_append, ih hsteps, growth?, if_pos hindex]
          split
          · rfl
          · simp [hgrown]

/-- Setting a source ends in no crash if there is room for all its paths. -/
theorem first_crash_of_room
    (hroom : ∀ entry ∈ source, ∀ step ∈ (Path.ofKey entry.1).steps, step.HasRoom host)
    (tree : Value) : host.firstCrash? tree source = none := by
  induction source generalizing tree with
  | nil => rfl
  | cons entry source ih =>
      obtain ⟨hentry, hrest⟩ := List.forall_mem_cons.mp hroom
      have hroot : (Step.key (Path.ofKey entry.1).root).HasRoom host := trivial
      rw [firstCrash?, crash_at_of_room (List.forall_mem_cons.mpr ⟨hroot, hentry⟩)]
      exact ih hrest _

/-- A source is set on a host that has room for its paths, in whatever order. -/
theorem set_of_room
    (hroom : ∀ entry ∈ source, ∀ step ∈ (Path.ofKey entry.1).steps, step.HasRoom host)
    (origin : Origin) (tree : Value) :
    host.set origin tree source =
      .ok (applySource tree (arrange (host.sourceRank origin) source)) :=
  set_eq_ok_iff.mpr ⟨first_crash_of_room (fun entry hentry =>
    hroom entry ((arrange_perm _ source).subset hentry)) tree, rfl⟩

/-- A source of plain keys is set on every host. -/
theorem set_of_plain (hplain : ∀ entry ∈ source, IsPlainKey entry.1) (host : Host)
    (origin : Origin) (tree : Value) :
    host.set origin tree source =
      .ok (applySource tree (arrange (host.sourceRank origin) source)) := by
  refine set_of_room (fun entry hentry => ?_) origin tree
  rw [path_of_plain_key (hplain entry hentry)]
  exact nofun

/-- A source of plain keys gives each of them its value, merged with the one that is there, whatever
the order of the host. -/
theorem lookup_set_of_plain (hplain : ∀ entry ∈ source, IsPlainKey entry.1)
    (hkeys : (source.map Prod.fst).Nodup) (hset : host.set origin tree source = .ok config)
    (key : String) :
    config.entries.lookup key =
      match source.lookup key with
      | some value => some (((tree.entries.lookup key).getD .nil).merge value)
      | none => tree.entries.lookup key := by
  have hperm := arrange_perm (host.sourceRank origin) source
  obtain ⟨-, rfl⟩ := set_eq_ok_iff.mp hset
  have hlookup := lookup_apply_source (fun entry hentry => hplain entry (hperm.subset hentry))
    ((hperm.map Prod.fst).nodup_iff.mpr hkeys) tree key
  rw [lookup_arrange] at hlookup
  exact hlookup

end Host

end DashboardGenerator.Config
