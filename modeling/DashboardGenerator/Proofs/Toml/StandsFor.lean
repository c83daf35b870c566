import DashboardGenerator.Config.Value
import DashboardGenerator.Proofs.Toml.Simulation
import Mathlib.Data.List.Forall2

/-!
# Integers in place of texts

Two documents may differ in that one has an integer where the other one has its decimal text.
Whatever is read behind that place, one reader stands for the other (`stands_for_simulation`), so
that the tables of both are the same but for such integers.
-/

namespace DashboardGenerator

/-! ## Related lists -/

/-- The entries have the same key, and their values are related. -/
inductive Keyed {α β : Type} (S : α → β → Prop) : String × α → String × β → Prop
  | mk (key : String) {value : α} {other : β} (hvalue : S value other) :
      Keyed S (key, value) (key, other)

/-- Under each key there are related values or none. -/
theorem lookup_keyed {α β : Type} {S : α → β → Prop} {entries : List (String × α)}
    {others : List (String × β)} (hentries : List.Forall₂ (Keyed S) entries others)
    (key : String) : Option.Rel S (entries.lookup key) (others.lookup key) := by
  induction hentries with
  | nil => exact .none
  | cons hentry _ ih =>
      cases hentry with
      | mk name hvalue =>
          rw [List.lookup_cons, List.lookup_cons]
          split
          · exact .some hvalue
          · exact ih

/-- At each position there are related elements or none. -/
theorem rel_getElem {α β : Type} {R : α → β → Prop} {items : List α} {others : List β}
    (hitems : List.Forall₂ R items others) (position : Nat) :
    Option.Rel R items[position]? others[position]? := by
  induction hitems generalizing position with
  | nil => exact .none
  | cons hitem _ ih =>
      cases position with
      | zero => exact .some hitem
      | succ position => exact ih position

/-- The last elements of related lists are related. -/
theorem rel_getLast {α β : Type} {R : α → β → Prop} {items : List α} {others : List β}
    (hitems : List.Forall₂ R items others) : Option.Rel R items.getLast? others.getLast? := by
  have hreverse : List.Forall₂ R items.reverse others.reverse := List.rel_reverse hitems
  rw [← List.head?_reverse, ← List.head?_reverse]
  generalize items.reverse = reversed at hreverse
  generalize others.reverse = otherReversed at hreverse
  cases hreverse with
  | nil => exact .none
  | cons hlast _ => exact .some hlast

theorem forall₂_dropLast {α β : Type} {R : α → β → Prop} {items : List α} {others : List β}
    (hitems : List.Forall₂ R items others) :
    List.Forall₂ R items.dropLast others.dropLast := by
  rw [List.dropLast_eq_take, List.dropLast_eq_take, hitems.length_eq]
  exact List.forall₂_take _ hitems

namespace Toml

/-! ## Values -/

/-- The scalars are the same, or an integer and its decimal text. -/
inductive Scalar.StandsFor : Scalar → Scalar → Prop
  | same (scalar : Scalar) : StandsFor scalar scalar
  | integer (number : Int) :
      StandsFor (.integer number) (.string (Config.integerText number).toList)

/-- The values are the same but for integers in place of their decimal texts. -/
inductive Value.StandsFor : Value → Value → Prop
  | scalar {scalar other : Scalar} (hscalar : scalar.StandsFor other) :
      StandsFor (.scalar scalar) (.scalar other)
  | array (ofTables : Bool) {items others : List Value}
      (hitems : List.Forall₂ StandsFor items others) :
      StandsFor (.array ofTables items) (.array ofTables others)
  | table (origin : TableOrigin) {entries others : Entries}
      (hentries : List.Forall₂ (Keyed StandsFor) entries others) :
      StandsFor (.table origin entries) (.table origin others)

namespace Entries

/-- The entries have the same keys, and the values of the first stand for those of the others. -/
def StandsFor : Entries → Entries → Prop :=
  List.Forall₂ (Keyed Value.StandsFor)

variable {entries others : Entries}

theorem StandsFor.append_entry (hentries : entries.StandsFor others) (key : String)
    {value other : Value} (hvalue : value.StandsFor other) :
    StandsFor (entries ++ [(key, value)]) (others ++ [(key, other)]) :=
  List.rel_append hentries (.cons (.mk key hvalue) .nil)

theorem StandsFor.replace (hentries : entries.StandsFor others) (key : String)
    {value other : Value} (hvalue : value.StandsFor other) :
    StandsFor (entries.replace key value) (others.replace key other) := by
  refine List.rel_map ?_ hentries
  rintro _ _ ⟨name, hold⟩
  dsimp only
  split
  · exact .mk key hvalue
  · exact .mk name hold

/-- The changes do the same to entries that stand for others. -/
def ChangesAlike (change otherChange : Entries → Option Entries) : Prop :=
  ∀ entries others, StandsFor entries others →
    Option.Rel StandsFor (change entries) (otherChange others)

/-- Changes at a path do the same if they do so at its end. -/
theorem changes_alike_at {made : TableOrigin} {enters : TableOrigin → Bool}
    {change otherChange : Entries → Option Entries} (hchange : ChangesAlike change otherChange)
    (path : List String) :
    ChangesAlike (changeAt? made enters change path) (changeAt? made enters otherChange path) := by
  induction path with
  | nil => exact hchange
  | cons key path ih =>
      intro entries others hentries
      -- What both have under the key has the same shape, so both go the same way.
      have hfound := lookup_keyed hentries key
      rw [changeAt?, changeAt?]
      generalize entries.lookup key = found at hfound
      generalize others.lookup key = otherFound at hfound
      cases hfound with
      | none =>
          exact rel_bind (ih [] [] .nil) fun _ _ hinner =>
            .some (hentries.append_entry key (.table made hinner))
      | some hvalue =>
          cases hvalue with
          | scalar => exact .none
          | table origin hinner =>
              dsimp only
              split
              · exact rel_bind (ih _ _ hinner) fun _ _ hchanged =>
                  .some (hentries.replace key (.table origin hchanged))
              · exact .none
          | array ofTables hitems =>
              cases ofTables with
              | false => exact .none
              | true =>
                  have hlast := rel_getLast hitems
                  dsimp only
                  generalize List.getLast? _ = last at hlast
                  generalize List.getLast? _ = otherLast at hlast
                  cases hlast with
                  | none => exact .none
                  | some hlast =>
                      cases hlast with
                      | scalar | array => exact .none
                      | table origin hinner =>
                          dsimp only
                          split
                          · exact rel_bind (ih _ _ hinner) fun _ _ hchanged =>
                              .some (hentries.replace key (.array true
                                (List.rel_append (forall₂_dropLast hitems)
                                  (.cons (.table origin hchanged) .nil))))
                          · exact .none

/-- A key is new to both or to none. -/
theorem changes_alike_insert_new (key : String) {value other : Value}
    (hvalue : value.StandsFor other) :
    ChangesAlike (fun entries => entries.insertNew? key value)
      (fun entries => entries.insertNew? key other) := by
  intro entries others hentries
  have hfound := lookup_keyed hentries key
  dsimp only
  rw [insertNew?, insertNew?]
  generalize entries.lookup key = found at hfound
  generalize others.lookup key = otherFound at hfound
  cases hfound with
  | none => exact .some (hentries.append_entry key hvalue)
  | some => exact .none

theorem changes_alike_assign (path : List String) {value other : Value}
    (hvalue : value.StandsFor other) :
    ChangesAlike (fun entries => entries.assign? path value)
      (fun entries => entries.assign? path other) := by
  intro entries others hentries
  unfold assign?
  cases splitPath? path with
  | none => exact .none
  | some split =>
      exact changes_alike_at (changes_alike_insert_new split.2 hvalue) split.1 _ _ hentries

theorem changes_alike_assign_in (header path : List String) {value other : Value}
    (hvalue : value.StandsFor other) :
    ChangesAlike (fun entries => entries.assignIn? header path value)
      (fun entries => entries.assignIn? header path other) :=
  changes_alike_at (changes_alike_assign path hvalue) header

theorem changes_alike_open_table (path : List String) :
    ChangesAlike (fun entries => entries.openTable? path)
      (fun entries => entries.openTable? path) := by
  intro entries others hentries
  unfold openTable?
  cases splitPath? path with
  | none => exact .none
  | some split =>
      obtain ⟨way, key⟩ := split
      refine changes_alike_at (fun inner otherInner hinner => ?_) way _ _ hentries
      have hfound := lookup_keyed hinner key
      generalize inner.lookup key = found at hfound
      generalize otherInner.lookup key = otherFound at hfound
      cases hfound with
      | none => exact .some (StandsFor.append_entry hinner key (.table .header .nil))
      | some hvalue =>
          cases hvalue with
          | scalar | array => exact .none
          | table origin htable =>
              cases origin with
              | passage =>
                  exact .some (StandsFor.replace hinner key (.table .header htable))
              | header | dotted | inline => exact .none

theorem changes_alike_open_element (path : List String) :
    ChangesAlike (fun entries => entries.openElement? path)
      (fun entries => entries.openElement? path) := by
  intro entries others hentries
  unfold openElement?
  cases splitPath? path with
  | none => exact .none
  | some split =>
      obtain ⟨way, key⟩ := split
      refine changes_alike_at (fun inner otherInner hinner => ?_) way _ _ hentries
      have hfound := lookup_keyed hinner key
      have hempty : (Value.table .header []).StandsFor (.table .header []) := .table .header .nil
      generalize inner.lookup key = found at hfound
      generalize otherInner.lookup key = otherFound at hfound
      cases hfound with
      | none =>
          exact .some (StandsFor.append_entry hinner key (.array true (.cons hempty .nil)))
      | some hvalue =>
          cases hvalue with
          | scalar | table => exact .none
          | array ofTables hitems =>
              cases ofTables with
              | false => exact .none
              | true =>
                  exact .some (StandsFor.replace hinner key
                    (.array true (List.rel_append hitems (.cons hempty .nil))))

end Entries

/-! ## Readers -/

/-- The frames are the same but for integers in place of their decimal texts. -/
inductive Frame.StandsFor : Frame → Frame → Prop
  | array {reversed others : List Value} (hitems : List.Forall₂ Value.StandsFor reversed others) :
      StandsFor (.array reversed) (.array others)
  | inlineTable {entries others : Entries} (hentries : entries.StandsFor others)
      (key : List String) : StandsFor (.inlineTable entries key) (.inlineTable others key)

namespace Reader

/-- The readers are the same but for integers in place of their decimal texts. -/
inductive StandsFor : Reader → Reader → Prop
  | mk {tables others : Entries} (htables : tables.StandsFor others) (header key : List String)
      {frames otherFrames : List Frame}
      (hframes : List.Forall₂ Frame.StandsFor frames otherFrames) (position : Position) :
      StandsFor ⟨tables, header, key, frames, position⟩ ⟨others, header, key, otherFrames, position⟩

variable {reader other : Reader}

/-- Values that stand for others are delivered alike. -/
theorem StandsFor.deliver (hreader : reader.StandsFor other) {value otherValue : Value}
    (hvalue : value.StandsFor otherValue) :
    Option.Rel StandsFor (reader.deliver? value) (other.deliver? otherValue) := by
  obtain ⟨htables, header, key, hframes, position⟩ := hreader
  cases hframes with
  | nil =>
      exact rel_bind (Entries.changes_alike_assign_in header key hvalue _ _ htables)
        fun _ _ hchanged => .some (.mk hchanged header key .nil .lineEnd)
  | cons hframe houter =>
      cases hframe with
      | array hitems =>
          exact .some
            (.mk htables header key (.cons (.array (.cons hvalue hitems)) houter) .itemEnd)
      | inlineTable hentries path =>
          exact rel_bind (Entries.changes_alike_assign path hvalue _ _ hentries)
            fun _ _ hchanged =>
              .some (.mk htables header key (.cons (.inlineTable hchanged path) houter) .entryEnd)

theorem StandsFor.push (hreader : reader.StandsFor other) {frame otherFrame : Frame}
    (hframe : frame.StandsFor otherFrame) (position : Position) :
    Option.Rel StandsFor (reader.push? frame position) (other.push? otherFrame position) := by
  obtain ⟨htables, header, key, hframes, _⟩ := hreader
  rw [push?, push?]
  dsimp only
  rw [hframes.length_eq]
  split
  · exact .some (.mk htables header key (.cons hframe hframes) position)
  · exact .none

/-- Whatever is read, a reader goes on to stand for another one. -/
theorem stands_for_simulation : Simulation StandsFor where
  position_eq := by
    rintro _ _ ⟨⟩
    rfl
  move := by
    rintro _ _ position ⟨htables, header, key, hframes, _⟩ _
    exact .mk htables header key hframes position
  deliver := fun scalar hreader => hreader.deliver (.scalar (.same scalar))
  push_array := fun hreader => hreader.push (.array .nil) .item
  push_table := fun hreader => hreader.push (.inlineTable .nil []) .entry
  close_array := by
    rintro _ _ ⟨htables, header, key, hframes, position⟩
    cases hframes with
    | nil => exact .none
    | cons hframe houter =>
        cases hframe with
        | inlineTable => exact .none
        | array hitems =>
            exact (StandsFor.mk htables header key houter position).deliver
              (.array false (List.rel_reverse hitems))
  close_table := by
    rintro _ _ ⟨htables, header, key, hframes, position⟩
    cases hframes with
    | nil => exact .none
    | cons hframe houter =>
        cases hframe with
        | array => exact .none
        | inlineTable hentries =>
            exact (StandsFor.mk htables header key houter position).deliver
              (.table .inline hentries)
  give_key := by
    rintro _ _ parts ⟨htables, header, key, hframes, position⟩
    cases hframes with
    | nil => exact .some (.mk htables header parts .nil .value)
    | cons hframe houter =>
        cases hframe with
        | array => exact .none
        | inlineTable hentries =>
            exact .some (.mk htables header key (.cons (.inlineTable hentries parts) houter) .value)
  open_table := by
    rintro _ _ path ⟨htables, header, key, hframes, position⟩ _
    exact rel_bind (Entries.changes_alike_open_table path _ _ htables)
      fun _ _ hchanged => .some (.mk hchanged path key hframes .lineEnd)
  open_element := by
    rintro _ _ path ⟨htables, header, key, hframes, position⟩ _
    exact rel_bind (Entries.changes_alike_open_element path _ _ htables)
      fun _ _ hchanged => .some (.mk hchanged path key hframes .lineEnd)

/-- A reader that tokens lead to stands for itself. -/
theorem stands_for_self {tokens : List Token} (hrun : start.run? tokens = some reader) :
    reader.StandsFor reader := by
  have hself := stands_for_simulation.run (StandsFor.mk .nil [] [] .nil .line) tokens
  rw [show Reader.mk [] [] [] [] .line = start from rfl, hrun] at hself
  cases hself with
  | some hreader => exact hreader

/-- The tables stand for those of the other document. -/
theorem StandsFor.read (hreader : reader.StandsFor other) (tokens : List Token) :
    Option.Rel Entries.StandsFor (reader.read? tokens) (other.read? tokens) := by
  have hread := stands_for_simulation.read hreader tokens
  generalize reader.read? tokens = found at hread
  generalize other.read? tokens = otherFound at hread
  cases hread with
  | none => exact .none
  | some htables =>
      obtain ⟨_, _, hlast, -, rfl, rfl⟩ := htables
      cases hlast with
      | mk htables => exact .some htables

end Reader

end Toml

end DashboardGenerator
