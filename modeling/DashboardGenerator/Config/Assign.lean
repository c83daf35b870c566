import DashboardGenerator.Config.Path
import DashboardGenerator.Config.Value

/-!
# Setting values in a configuration

Setting a value at a path makes the tables and arrays on the way, in place of whatever else stands
there. A table is not put in place as a whole: its entries are set one by one, so that two sources
may each give a part of it. Any other value replaces what it meets.
-/

namespace DashboardGenerator.Config

/-- Change the value of a key; a key that is missing starts out as `nil`. -/
def changeEntry (change : Value → Value) (key : String) :
    List (String × Value) → List (String × Value)
  | [] => [(key, change .nil)]
  | (name, value) :: rest =>
    if name = key then (name, change value) :: rest
    else (name, value) :: changeEntry change key rest

/-- The array with enough gaps for an index, and the position of the index in it. An index past the
end fills up behind the array, one before the start in front of it. -/
def makeRoom (items : List Value) (index : Int) : List Value × Nat :=
  if 0 ≤ index then
    (items ++ List.replicate (index.toNat + 1 - items.length) .nil, index.toNat)
  else if index.natAbs ≤ items.length then (items, items.length - index.natAbs)
  else (List.replicate (index.natAbs - items.length) .nil ++ items, 0)

mutual

/-- Set a value over another. -/
def Value.merge (old : Value) : Value → Value
  | .table entries => .table (mergeEntries old.entries entries)
  | .nil => .nil
  | .scalar origin value => .scalar origin value
  | .array origin items => .array origin items
termination_by structural new => new

/-- Set entries into a table one by one. -/
def mergeEntries (base : List (String × Value)) : List (String × Value) → List (String × Value)
  | [] => base
  | (key, value) :: rest =>
    mergeEntries (changeEntry (fun old => Value.merge old value) key base) rest
termination_by structural new => new

end

/-- Set a value at the end of some steps. -/
def Value.assign (new : Value) : List Step → Value → Value
  | [], old => old.merge new
  | .key name :: steps, old => .table (changeEntry (Value.assign new steps) name old.entries)
  | .index index :: steps, old =>
    let (items, position) := makeRoom old.items index
    .array old.arrayOrigin (items.modify position (Value.assign new steps))

/-- Set the values that a source gives to keys, each at the path that its key stands for. -/
def applySource (tree : Value) (source : List (String × Value)) : Value :=
  source.foldl (fun tree (key, value) =>
    let path := Path.ofKey key
    Value.assign value (.key path.root :: path.steps) tree) tree

end DashboardGenerator.Config
