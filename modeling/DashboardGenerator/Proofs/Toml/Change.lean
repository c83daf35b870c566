import DashboardGenerator.Toml.Table

/-!
# What a change of tables does

A value is given to a key, and a table or an element opened, by a change at a path. On its way and
at its end such a change gives one key of a table a value, which is either a new key or one that has
a value already (`PutsAt`). A relation between tables that all these steps agree with (`Closed`)
therefore holds of the tables in front of a change and behind it: `ensures_change_at` is the
induction over the path, and the changes that tokens make follow from it.
-/

namespace DashboardGenerator.Toml.Entries

/-- One key is new, or it has another value than before; `becomes` says which values it may get. -/
inductive PutsAt (becomes : Option Value → Value → Prop) (key : String) (entries : Entries) :
    Entries → Prop
  | new {value : Value} (hnew : entries.lookup key = none) (hvalue : becomes none value) :
      PutsAt becomes key entries (entries ++ [(key, value)])
  | replaced {old value : Value} (hlookup : entries.lookup key = some old)
      (hvalue : becomes (some old) value) : PutsAt becomes key entries (entries.replace key value)

/-- On the way a table is made or entered, also as the last element of an array of tables. -/
inductive OnTheWay (R : Entries → Entries → Prop) : Option Value → Value → Prop
  | made (origin : TableOrigin) {inner : Entries} (hinner : R [] inner) :
      OnTheWay R none (.table origin inner)
  | table (origin : TableOrigin) {inner after : Entries} (hinner : R inner after) :
      OnTheWay R (some (.table origin inner)) (.table origin after)
  | element (front : List Value) (origin : TableOrigin) {inner after : Entries}
      (hinner : R inner after) :
      OnTheWay R (some (.array true (front ++ [.table origin inner])))
        (.array true (front ++ [.table origin after]))

/-- A new key is given the value. -/
inductive Given (value : Value) : Option Value → Value → Prop
  | new : Given value none value

/-- A header opens a new table, or one that was only passed through. -/
inductive TableOpened : Option Value → Value → Prop
  | new : TableOpened none (.table .header [])
  | passed (found : Entries) : TableOpened (some (.table .passage found)) (.table .header found)

/-- A header opens an element, the first one of a new array or one behind the others. -/
inductive ElementOpened : Option Value → Value → Prop
  | new : ElementOpened none (.array true [.table .header []])
  | more (items : List Value) :
      ElementOpened (some (.array true items)) (.array true (items ++ [.table .header []]))

/-- The relation holds wherever one key gets such a value. -/
def Closed (R : Entries → Entries → Prop) (becomes : Option Value → Value → Prop) : Prop :=
  ∀ key entries after, PutsAt becomes key entries after → R entries after

/-- The relation holds in front of the change and behind it, where the change succeeds. -/
def Ensures (R : Entries → Entries → Prop) (change : Entries → Option Entries) : Prop :=
  ∀ entries after, change entries = some after → R entries after

section Changes

variable {R : Entries → Entries → Prop} (hway : Closed R (OnTheWay R))

include hway

/-- A change at a path ensures what it does at its end. -/
theorem ensures_change_at {made : TableOrigin} {enters : TableOrigin → Bool}
    {change : Entries → Option Entries} (hchange : Ensures R change) (path : List String) :
    Ensures R (changeAt? made enters change path) := by
  induction path with
  | nil => exact hchange
  | cons key path ih =>
      intro entries after hafter
      refine hway key entries after ?_
      rw [changeAt?] at hafter
      split at hafter
      next hnew =>
          obtain ⟨inner, hinner, hafter⟩ := Option.bind_eq_some_iff.mp hafter
          cases hafter
          exact .new hnew (.made made (ih [] inner hinner))
      next origin inner hlookup =>
          split at hafter
          · obtain ⟨changed, hchanged, hafter⟩ := Option.bind_eq_some_iff.mp hafter
            cases hafter
            exact .replaced hlookup (.table origin (ih inner changed hchanged))
          · cases hafter
      next items hlookup =>
          split at hafter
          next origin inner hlast =>
              split at hafter
              · obtain ⟨changed, hchanged, hafter⟩ := Option.bind_eq_some_iff.mp hafter
                cases hafter
                obtain ⟨front, rfl⟩ := List.getLast?_eq_some_iff.mp hlast
                rw [List.dropLast_concat]
                exact .replaced hlookup (.element front origin (ih inner changed hchanged))
              · cases hafter
          · cases hafter
      · cases hafter

theorem ensures_assign {value : Value} (hgiven : Closed R (Given value)) (path : List String) :
    Ensures R fun entries => entries.assign? path value := by
  intro entries after hafter
  obtain ⟨⟨way, key⟩, -, hafter⟩ := Option.bind_eq_some_iff.mp hafter
  refine ensures_change_at hway (fun inner changed hchanged => ?_) way entries after hafter
  rw [insertNew?] at hchanged
  split at hchanged
  · cases hchanged
  next hnew =>
      cases hchanged
      exact hgiven key inner _ (.new hnew .new)

theorem ensures_assign_in {value : Value} (hgiven : Closed R (Given value))
    (header path : List String) : Ensures R fun entries => entries.assignIn? header path value :=
  ensures_change_at hway (ensures_assign hway hgiven path) header

theorem ensures_open_table (hopened : Closed R TableOpened) (path : List String) :
    Ensures R fun entries => entries.openTable? path := by
  intro entries after hafter
  obtain ⟨⟨way, key⟩, -, hafter⟩ := Option.bind_eq_some_iff.mp hafter
  refine ensures_change_at hway (fun inner changed hchanged => ?_) way entries after hafter
  refine hopened key inner changed ?_
  split at hchanged
  next hnew =>
      cases hchanged
      exact .new hnew .new
  next found hlookup =>
      cases hchanged
      exact .replaced hlookup (.passed found)
  · cases hchanged

theorem ensures_open_element (hopened : Closed R ElementOpened) (path : List String) :
    Ensures R fun entries => entries.openElement? path := by
  intro entries after hafter
  obtain ⟨⟨way, key⟩, -, hafter⟩ := Option.bind_eq_some_iff.mp hafter
  refine ensures_change_at hway (fun inner changed hchanged => ?_) way entries after hafter
  refine hopened key inner changed ?_
  split at hchanged
  next hnew =>
      cases hchanged
      exact .new hnew .new
  next items hlookup =>
      cases hchanged
      exact .replaced hlookup (.more items)
  · cases hchanged

end Changes

end DashboardGenerator.Toml.Entries
