import DashboardGenerator.Proofs.Toml.Change
import DashboardGenerator.Proofs.Toml.Simulation

/-!
# Numbers without a value

A number without a value that was once read is still there at the end of the document, at a place
where it is found: `IsFaulty.read`. No value is taken away or put in the place of another one: a key
gets a value that is faulty if the one before was (`closed_fault`), and every token changes the
tables by giving values to keys (`faulty_simulation`).
-/

namespace DashboardGenerator.Toml

/-! ## Values -/

/-- Somewhere in the value, behind keys under which it is found, a number has no value. -/
inductive Value.IsFaulty : Value → Prop
  | unfit (fault : NumberFault) : IsFaulty (.scalar (.unfit fault))
  | item (ofTables : Bool) {items : List Value} {item : Value} (hmem : item ∈ items)
      (hitem : IsFaulty item) : IsFaulty (.array ofTables items)
  | entry (origin : TableOrigin) {entries : Entries} {key : String} {value : Value}
      (hlookup : entries.lookup key = some value) (hvalue : IsFaulty value) :
      IsFaulty (.table origin entries)

namespace Entries

/-- Under one of the keys a faulty value is found. -/
def IsFaulty (entries : Entries) : Prop :=
  ∃ key value, entries.lookup key = some value ∧ value.IsFaulty

/-- A table is faulty exactly if its entries are. -/
theorem is_faulty_table_iff {origin : TableOrigin} {entries : Entries} :
    (Value.table origin entries).IsFaulty ↔ entries.IsFaulty := by
  constructor
  · intro hfaulty
    cases hfaulty with
    | entry _ hlookup hvalue => exact ⟨_, _, hlookup, hvalue⟩
  · rintro ⟨key, value, hlookup, hvalue⟩
    exact .entry origin hlookup hvalue

variable {entries : Entries} {key : String}

/-- A value that replaces another one is found in its place, and the others stay as they are. -/
theorem lookup_replace (entries : Entries) (key : String) (new : Value) (other : String) :
    (entries.replace key new).lookup other =
      if other = key then (entries.lookup key).map fun _ => new else entries.lookup other := by
  induction entries with
  | nil => simp [replace]
  | cons entry entries ih =>
      obtain ⟨name, value⟩ := entry
      have hcons : replace ((name, value) :: entries) key new =
          (if name = key then (key, new) else (name, value)) :: replace entries key new := rfl
      rw [hcons]
      by_cases hname : name = key
      · subst hname
        by_cases hother : other = name
        · simp [hother]
        · simp [List.lookup_cons, beq_eq_false_iff_ne.mpr hother, ih, hother]
      · rw [if_neg hname, List.lookup_cons, List.lookup_cons, List.lookup_cons, ih,
          beq_eq_false_iff_ne.mpr (Ne.symm hname)]
        by_cases hother : other = name
        · subst hother
          simp [hname]
        · simp [beq_eq_false_iff_ne.mpr hother]

/-- The entries are left faulty if they were, and made so if a faulty value is given. -/
def KeepsFault (gives : Prop) (entries after : Entries) : Prop :=
  gives ∨ entries.IsFaulty → after.IsFaulty

/-- A new entry hides none of the others, and one that is replaced stays faulty if it was. -/
theorem closed_fault {gives : Prop} {becomes : Option Value → Value → Prop}
    (hnew : ∀ value, becomes none value → gives → value.IsFaulty)
    (hold : ∀ old value, becomes (some old) value → gives ∨ old.IsFaulty → value.IsFaulty) :
    Closed (KeepsFault gives) becomes := by
  intro key entries after hputs hfaulty
  cases hputs with
  | @new value hlookup hvalue =>
      rcases hfaulty with hgives | ⟨other, found, hother, hfound⟩
      · exact ⟨key, value, by simp [List.lookup_append, hlookup], hnew value hvalue hgives⟩
      · exact ⟨other, found, by simp [List.lookup_append, hother], hfound⟩
  | @replaced old value hlookup hvalue =>
      have hafter := lookup_replace entries key value
      rw [hlookup] at hafter
      rcases hfaulty with hgives | ⟨other, found, hother, hfound⟩
      · exact ⟨key, value, by rw [hafter, if_pos rfl]; rfl, hold old value hvalue (.inl hgives)⟩
      · by_cases hkey : other = key
        · subst hkey
          obtain rfl : found = old := Option.some.inj (hother.symm.trans hlookup)
          exact ⟨other, value, by rw [hafter, if_pos rfl]; rfl,
            hold found value hvalue (.inr hfound)⟩
        · exact ⟨other, found, by rw [hafter, if_neg hkey, hother], hfound⟩

/-- The tables on the way keep their faults if those further down do. -/
theorem closed_fault_way (gives : Prop) :
    Closed (KeepsFault gives) (OnTheWay (KeepsFault gives)) := by
  refine closed_fault (fun value hbecomes hgives => ?_) fun old value hbecomes hfaulty => ?_
  · cases hbecomes with
    | made origin hinner => exact is_faulty_table_iff.mpr (hinner (.inl hgives))
  · cases hbecomes with
    | table origin hinner =>
        exact is_faulty_table_iff.mpr (hinner (hfaulty.imp_right is_faulty_table_iff.mp))
    | @element front origin inner after hinner =>
        -- The elements in front of the last one stay, and the last one is changed.
        have hlast : gives ∨ inner.IsFaulty →
            (Value.array true (front ++ [.table origin after])).IsFaulty := fun hfaulty =>
          .item true (List.mem_append_right _ List.mem_cons_self)
            (is_faulty_table_iff.mpr (hinner hfaulty))
        rcases hfaulty with hgives | hfaulty
        · exact hlast (.inl hgives)
        cases hfaulty with
        | item _ hmem hitem =>
            rcases List.mem_append.mp hmem with hfront | hmem
            · exact .item true (List.mem_append_left _ hfront) hitem
            · rw [List.mem_singleton.mp hmem] at hitem
              exact hlast (.inr (is_faulty_table_iff.mp hitem))

theorem closed_fault_given (value : Value) :
    Closed (KeepsFault value.IsFaulty) (Given value) := by
  refine closed_fault (fun _ hgiven hvalue => ?_) nofun
  cases hgiven
  exact hvalue

theorem closed_fault_table : Closed (KeepsFault False) TableOpened := by
  refine closed_fault (fun _ _ => False.elim) fun old value hopened hfaulty => ?_
  cases hopened
  exact is_faulty_table_iff.mpr (is_faulty_table_iff.mp (hfaulty.resolve_left id))

theorem closed_fault_element : Closed (KeepsFault False) ElementOpened := by
  refine closed_fault (fun _ _ => False.elim) fun old value hopened hfaulty => ?_
  cases hopened
  cases hfaulty.resolve_left id with
  | item _ hmem hitem => exact .item true (List.mem_append_left _ hmem) hitem

end Entries

/-! ## Readers -/

/-- Something that was put into the open array or inline table is faulty. -/
inductive Frame.IsFaulty : Frame → Prop
  | array {reversed : List Value} {item : Value} (hmem : item ∈ reversed)
      (hitem : item.IsFaulty) : IsFaulty (.array reversed)
  | inlineTable {entries : Entries} (hentries : entries.IsFaulty) (key : List String) :
      IsFaulty (.inlineTable entries key)

namespace Reader

/-- A fault was read: it is in the tables, or in an array or inline table that is still open. -/
def IsFaulty (reader : Reader) : Prop :=
  reader.tables.IsFaulty ∨
    reader.position.isTop = false ∧ ∃ frame ∈ reader.frames, frame.IsFaulty

/-- Where nothing is open, faults are in the tables. -/
theorem IsFaulty.of_top {reader : Reader} (hfaulty : reader.IsFaulty)
    (htop : reader.position.isTop = true) : reader.tables.IsFaulty :=
  hfaulty.resolve_right fun hframes => Bool.false_ne_true (hframes.1.symm.trans htop)

section Open

variable {tables : Entries} {header key : List String} {frame : Frame}
  {outer : List Frame}

/-- A fault is in what was opened last or was read outside of it. -/
theorem is_faulty_cons {position : Position}
    (hfaulty : IsFaulty ⟨tables, header, key, frame :: outer, position⟩) :
    frame.IsFaulty ∨ IsFaulty ⟨tables, header, key, outer, position⟩ := by
  rcases hfaulty with htables | ⟨hinside, faulty, hmem, hframe⟩
  · exact .inr (.inl htables)
  rcases List.mem_cons.mp hmem with rfl | houter
  · exact .inl hframe
  · exact .inr (.inr ⟨hinside, faulty, houter, hframe⟩)

/-- Whatever is opened or changed, the faults outside of it remain, and so do those inside. -/
theorem is_faulty_opened (position : Position) {next : Position} (hnext : next.isTop = false)
    (hfaulty : frame.IsFaulty ∨ IsFaulty ⟨tables, header, key, outer, position⟩) :
    IsFaulty ⟨tables, header, key, frame :: outer, next⟩ := by
  rcases hfaulty with hframe | htables | ⟨-, faulty, hmem, houter⟩
  · exact .inr ⟨hnext, frame, List.mem_cons_self, hframe⟩
  · exact .inl htables
  · exact .inr ⟨hnext, faulty, List.mem_cons_of_mem _ hmem, houter⟩

end Open

variable {reader after : Reader}

/-- A faulty value is delivered, and where any other is, faults remain. -/
theorem is_faulty_deliver {value : Value} (hfaulty : value.IsFaulty ∨ reader.IsFaulty)
    (hdeliver : reader.deliver? value = some after) : after.IsFaulty := by
  obtain ⟨tables, header, key, frames, position⟩ := reader
  cases frames with
  | nil =>
      obtain ⟨changed, hchanged, hafter⟩ := Option.bind_eq_some_iff.mp hdeliver
      cases hafter
      refine .inl (Entries.ensures_assign_in (Entries.closed_fault_way _)
        (Entries.closed_fault_given value) header key tables changed hchanged ?_)
      rcases hfaulty with hvalue | htables | ⟨-, frame, hmem, -⟩
      · exact .inl hvalue
      · exact .inr htables
      · cases hmem
  | cons frame outer =>
      cases frame with
      | array reversed =>
          cases hdeliver
          refine is_faulty_opened position rfl ?_
          rcases hfaulty with hvalue | hfaulty
          · exact .inl (.array List.mem_cons_self hvalue)
          refine (is_faulty_cons hfaulty).imp_left fun hframe => ?_
          cases hframe with
          | array hmem hitem => exact .array (List.mem_cons_of_mem _ hmem) hitem
      | inlineTable entries path =>
          obtain ⟨changed, hchanged, hafter⟩ := Option.bind_eq_some_iff.mp hdeliver
          cases hafter
          refine is_faulty_opened position rfl ?_
          have hframe : value.IsFaulty ∨ entries.IsFaulty →
              Frame.IsFaulty (.inlineTable changed path) := fun hold =>
            .inlineTable (Entries.ensures_assign (Entries.closed_fault_way _)
              (Entries.closed_fault_given value) path entries changed hchanged hold) path
          rcases hfaulty with hvalue | hfaulty
          · exact .inl (hframe (.inl hvalue))
          refine (is_faulty_cons hfaulty).imp_left fun hold => ?_
          cases hold with
          | inlineTable hentries => exact hframe (.inr hentries)

variable (hfaulty : reader.IsFaulty)

include hfaulty

theorem is_faulty_push {frame : Frame} {position : Position} (hposition : position.isTop = false)
    (hpush : reader.push? frame position = some after) : after.IsFaulty := by
  rw [push?] at hpush
  split at hpush
  · cases hpush
    exact is_faulty_opened _ hposition (.inr hfaulty)
  · cases hpush

/-- A faulty array that is closed is a faulty value. -/
theorem is_faulty_close_array (hclose : reader.closeArray? = some after) : after.IsFaulty := by
  obtain ⟨tables, header, key, frames, position⟩ := reader
  unfold closeArray? at hclose
  split at hclose
  next reversed outer heq =>
    cases heq
    refine is_faulty_deliver ((is_faulty_cons hfaulty).imp_left fun hframe => ?_) hclose
    cases hframe with
    | array hmem hitem => exact .item false (List.mem_reverse.mpr hmem) hitem
  · cases hclose

/-- So is a faulty inline table. -/
theorem is_faulty_close_table (hclose : reader.closeTable? = some after) : after.IsFaulty := by
  obtain ⟨tables, header, key, frames, position⟩ := reader
  unfold closeTable? at hclose
  split at hclose
  next entries path outer heq =>
    cases heq
    refine is_faulty_deliver ((is_faulty_cons hfaulty).imp_left fun hframe => ?_) hclose
    cases hframe with
    | inlineTable hentries => exact Entries.is_faulty_table_iff.mpr hentries
  · cases hclose

/-- Another key changes nothing in what an open inline table holds. -/
theorem is_faulty_give_key {parts : List String} (hgive : reader.giveKey? parts = some after) :
    after.IsFaulty := by
  obtain ⟨tables, header, key, frames, position⟩ := reader
  unfold giveKey? at hgive
  split at hgive
  next heq =>
    cases heq
    cases hgive
    exact hfaulty.imp_right fun ⟨_, hframes⟩ => ⟨rfl, hframes⟩
  next entries path outer heq =>
    cases heq
    cases hgive
    refine is_faulty_opened position rfl ((is_faulty_cons hfaulty).imp_left fun hframe => ?_)
    cases hframe with
    | inlineTable hentries => exact .inlineTable hentries parts
  · cases hgive

/-- Faulty tables stay so in such a change. -/
theorem is_faulty_open {change : Entries → Option Entries}
    (hchange : Entries.Ensures (Entries.KeepsFault False) change)
    (htop : reader.position.isTop = true) {path : List String}
    (hopen : ((change reader.tables).bind fun tables =>
      some { reader with tables, header := path, position := .lineEnd }) = some after) :
    after.IsFaulty := by
  obtain ⟨changed, hchanged, hafter⟩ := Option.bind_eq_some_iff.mp hopen
  cases hafter
  exact .inl (hchange _ changed hchanged (.inr (hfaulty.of_top htop)))

omit hfaulty

/-- Whatever is read, a fault remains. -/
theorem faulty_simulation : Simulation (Holding IsFaulty) where
  position_eq := by
    rintro _ _ ⟨rfl, -⟩
    rfl
  move := by
    rintro reader _ position ⟨rfl, hfaulty⟩ htop
    -- The next place is one at the top only if this one is, and there no frame counts.
    refine ⟨rfl, hfaulty.imp_right fun ⟨hinside, hframes⟩ => ⟨?_, hframes⟩⟩
    rw [Bool.eq_false_iff] at hinside ⊢
    exact fun h => hinside (htop h)
  deliver := by
    rintro _ _ _ ⟨rfl, hfaulty⟩
    exact rel_holding fun _ => is_faulty_deliver (.inr hfaulty)
  push_array := by
    rintro _ _ ⟨rfl, hfaulty⟩
    exact rel_holding fun _ => is_faulty_push hfaulty rfl
  push_table := by
    rintro _ _ ⟨rfl, hfaulty⟩
    exact rel_holding fun _ => is_faulty_push hfaulty rfl
  close_array := by
    rintro _ _ ⟨rfl, hfaulty⟩
    exact rel_holding fun _ => is_faulty_close_array hfaulty
  close_table := by
    rintro _ _ ⟨rfl, hfaulty⟩
    exact rel_holding fun _ => is_faulty_close_table hfaulty
  give_key := by
    rintro _ _ _ ⟨rfl, hfaulty⟩
    exact rel_holding fun _ => is_faulty_give_key hfaulty
  open_table := by
    rintro _ _ path ⟨rfl, hfaulty⟩ htop
    exact rel_holding fun _ => is_faulty_open hfaulty
      (Entries.ensures_open_table (Entries.closed_fault_way _) Entries.closed_fault_table path) htop
  open_element := by
    rintro _ _ path ⟨rfl, hfaulty⟩ htop
    exact rel_holding fun _ => is_faulty_open hfaulty
      (Entries.ensures_open_element (Entries.closed_fault_way _) Entries.closed_fault_element path)
      htop

/-- A fault that was read is found in the tables of the document. -/
theorem IsFaulty.read {reader : Reader} (hfaulty : reader.IsFaulty) {rest : List Token}
    {tables : Entries} (hread : reader.read? rest = some tables) : tables.IsFaulty := by
  have hend := faulty_simulation.read ⟨rfl, hfaulty⟩ rest
  rw [hread] at hend
  cases hend with
  | some htables =>
      obtain ⟨last, _, ⟨-, hlast⟩, htop, rfl, -⟩ := htables
      exact hlast.of_top htop

end Reader

end DashboardGenerator.Toml
