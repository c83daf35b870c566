import DashboardGenerator.Config.Assign
import DashboardGenerator.Config.Order

/-!
# Hosts

What becomes of a configuration depends on its host in two ways. The host chooses the order in which
the keys of a source are set and those of a table are read, and it may not survive that an array
grows, since the index of a path can ask for more room than there is.
-/

namespace DashboardGenerator.Config

/-- How a host ends that has no room for an array. -/
inductive Crash where
  | capacityOverflow
  | outOfMemory (bytes : Nat)
deriving Repr, DecidableEq

/-- The sentence that reports the crash. -/
def Crash.message : Crash → String
  | .capacityOverflow => "capacity overflow"
  | .outOfMemory bytes => s!"memory allocation of {bytes} bytes failed"

/-- The exit code of a crash: that of a panic, or that of an abort. -/
def Crash.exitCode : Crash → Nat
  | .capacityOverflow => 101
  | .outOfMemory _ => 134

/-- What a host decides: the order in which the top-level keys of a source are set, the order in which
the keys of tables are read, and whether an array may grow to a length. -/
structure Host where
  sourceRank : Origin → String → Nat
  order : Order
  crash? : Nat → Option Crash

/-- The length that an array grows to for an index, if it has to grow. -/
def growth? (length : Nat) (index : Int) : Option Nat :=
  if 0 ≤ index then if index.toNat < length then none else some (index.toNat + 1)
  else if index.natAbs ≤ length then none
  else some index.natAbs

/-- The element at an index, if the array has it. -/
def itemAt? (items : List Value) (index : Int) : Option Value :=
  if 0 ≤ index then items[index.toNat]?
  else if index.natAbs ≤ items.length then items[items.length - index.natAbs]?
  else none

/-- The lengths that arrays grow to when a value is set at the end of some steps, from the outermost
array on. -/
def Value.growths : List Step → Value → List Nat
  | [], _ => []
  | .key name :: steps, old => growths steps ((old.entries.lookup name).getD .nil)
  | .index index :: steps, old =>
    (growth? old.items.length index).toList ++
      growths steps ((itemAt? old.items index).getD .nil)

/-- The most elements that an array can have: as many values as fit into an address space. -/
def mostElements : Nat := (Nat.pow 2 63 - 1) / 96

namespace Host

/-- The host that visits keys as they are listed and has room for every array that can be addressed. -/
def listed : Host where
  sourceRank _ _ := 0
  order := .listed
  crash? length := if mostElements < length then some .capacityOverflow else none

/-- Arrays may grow to any length up to this one. -/
def HoldsArrays (host : Host) (length : Nat) : Prop :=
  ∀ shorter ≤ length, host.crash? shorter = none

instance (host : Host) (length : Nat) : Decidable (host.HoldsArrays length) :=
  inferInstanceAs (Decidable (∀ shorter ≤ length, host.crash? shorter = none))

/-- The crash, if there is one, of setting a value at the end of some steps. -/
def crashAt? (host : Host) (steps : List Step) (tree : Value) : Option Crash :=
  (tree.growths steps).findSome? host.crash?

/-- The first crash, if there is one, of setting the values of a source one after another. -/
def firstCrash? (host : Host) : Value → List (String × Value) → Option Crash
  | _, [] => none
  | tree, entry :: rest =>
    match host.crashAt? (.key (Path.ofKey entry.1).root :: (Path.ofKey entry.1).steps) tree with
    | some crash => some crash
    | none => firstCrash? host (applySource tree [entry]) rest

/-- Set the values of a source in the order that the host chooses. -/
def set (host : Host) (origin : Origin) (tree : Value) (source : List (String × Value)) :
    Except Crash Value :=
  let visited := arrange (host.sourceRank origin) source
  match host.firstCrash? tree visited with
  | some crash => .error crash
  | none => .ok (applySource tree visited)

end Host

end DashboardGenerator.Config
