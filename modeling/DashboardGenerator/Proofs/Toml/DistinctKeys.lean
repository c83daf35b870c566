import DashboardGenerator.Proofs.Toml.Change
import DashboardGenerator.Proofs.Toml.Simulation

/-!
# A key is given once

No key stands twice in a table that was read: `document_keys_nodup` says so of a whole document. A
change adds a new key to a table or replaces the value of one that is there, so it keeps the keys
apart whatever it does further down (`closed_distinct`), and every token that changes the tables
does so by such a change (`distinct_simulation`).
-/

namespace DashboardGenerator.Toml

namespace Entries

/-- No key stands twice. -/
def Distinct (entries : Entries) : Prop := (entries.map Prod.fst).Nodup

/-- Giving a key another value leaves all keys as they are. -/
theorem map_fst_replace (entries : Entries) (key : String) (value : Value) :
    (entries.replace key value).map Prod.fst = entries.map Prod.fst := by
  rw [replace, List.map_map]
  refine List.map_congr_left fun entry _ => ?_
  by_cases hkey : entry.1 = key
  · simp [hkey]
  · simp [hkey]

theorem Distinct.replace {entries : Entries} (hdistinct : entries.Distinct) (key : String)
    (value : Value) : (entries.replace key value).Distinct := by
  rw [Distinct, map_fst_replace]
  exact hdistinct

/-- A key that is not found is new. -/
theorem Distinct.append_new {entries : Entries} (hdistinct : entries.Distinct) {key : String}
    (hnew : entries.lookup key = none) (value : Value) :
    Distinct (entries ++ [(key, value)]) := by
  have hmem : key ∉ entries.map Prod.fst := by
    intro hmem
    obtain ⟨entry, hentry, rfl⟩ := List.mem_map.mp hmem
    simpa using List.lookup_eq_none_iff.mp hnew entry hentry
  rw [Distinct, List.map_append, List.map_singleton]
  refine List.nodup_append.mpr ⟨hdistinct, by simp, fun other hother last hlast heq => hmem ?_⟩
  obtain rfl : other = key := heq.trans (List.mem_singleton.mp hlast)
  exact hother

/-- The keys stay apart. -/
def KeepsDistinct (entries after : Entries) : Prop :=
  entries.Distinct → after.Distinct

/-- Whatever value a key gets, the keys stay apart. -/
theorem closed_distinct (becomes : Option Value → Value → Prop) :
    Closed KeepsDistinct becomes := by
  intro key entries after hputs hdistinct
  cases hputs with
  | new hnew => exact hdistinct.append_new hnew _
  | replaced => exact hdistinct.replace key _

end Entries

namespace Reader

variable {reader after : Reader} (hdistinct : reader.tables.Distinct)

include hdistinct

theorem distinct_deliver {value : Value} (hdeliver : reader.deliver? value = some after) :
    after.tables.Distinct := by
  unfold deliver? at hdeliver
  split at hdeliver
  · obtain ⟨tables, hchanged, hafter⟩ := Option.bind_eq_some_iff.mp hdeliver
    cases hafter
    exact Entries.ensures_assign_in (Entries.closed_distinct _) (Entries.closed_distinct _) _ _ _ _
      hchanged hdistinct
  · cases hdeliver
    exact hdistinct
  · obtain ⟨entries, -, hafter⟩ := Option.bind_eq_some_iff.mp hdeliver
    cases hafter
    exact hdistinct

theorem distinct_push {frame : Frame} {position : Position}
    (hpush : reader.push? frame position = some after) : after.tables.Distinct := by
  rw [push?] at hpush
  split at hpush
  · cases hpush
    exact hdistinct
  · cases hpush

theorem distinct_close
    (hclose : reader.closeArray? = some after ∨ reader.closeTable? = some after) :
    after.tables.Distinct := by
  unfold closeArray? closeTable? at hclose
  rcases hclose with hclose | hclose
  · split at hclose
    · exact distinct_deliver (by exact hdistinct) hclose
    · cases hclose
  · split at hclose
    · exact distinct_deliver (by exact hdistinct) hclose
    · cases hclose

theorem distinct_give_key {parts : List String} (hgive : reader.giveKey? parts = some after) :
    after.tables.Distinct := by
  unfold giveKey? at hgive
  split at hgive
  · cases hgive
    exact hdistinct
  · cases hgive
    exact hdistinct
  · cases hgive

/-- Tables that are opened by such a change keep their keys apart. -/
theorem distinct_open {change : Entries → Option Entries}
    (hchange : Entries.Ensures Entries.KeepsDistinct change)
    {path : List String}
    (hopen : ((change reader.tables).bind fun tables =>
      some { reader with tables, header := path, position := .lineEnd }) = some after) :
    after.tables.Distinct := by
  obtain ⟨tables, hchanged, hafter⟩ := Option.bind_eq_some_iff.mp hopen
  cases hafter
  exact hchange _ _ hchanged hdistinct

omit hdistinct

/-- Whatever is read, the keys of the tables stay apart. -/
theorem distinct_simulation : Simulation (Holding fun reader => reader.tables.Distinct) where
  position_eq := by
    rintro _ _ ⟨rfl, -⟩
    rfl
  move := by
    rintro _ _ _ ⟨rfl, hdistinct⟩ _
    exact ⟨rfl, hdistinct⟩
  deliver := by
    rintro _ _ _ ⟨rfl, hdistinct⟩
    exact rel_holding fun _ => distinct_deliver hdistinct
  push_array := by
    rintro _ _ ⟨rfl, hdistinct⟩
    exact rel_holding fun _ => distinct_push hdistinct
  push_table := by
    rintro _ _ ⟨rfl, hdistinct⟩
    exact rel_holding fun _ => distinct_push hdistinct
  close_array := by
    rintro _ _ ⟨rfl, hdistinct⟩
    exact rel_holding fun _ hclose => distinct_close hdistinct (.inl hclose)
  close_table := by
    rintro _ _ ⟨rfl, hdistinct⟩
    exact rel_holding fun _ hclose => distinct_close hdistinct (.inr hclose)
  give_key := by
    rintro _ _ _ ⟨rfl, hdistinct⟩
    exact rel_holding fun _ => distinct_give_key hdistinct
  open_table := by
    rintro _ _ path ⟨rfl, hdistinct⟩ _
    exact rel_holding fun _ => distinct_open hdistinct
      (Entries.ensures_open_table (Entries.closed_distinct _) (Entries.closed_distinct _) path)
  open_element := by
    rintro _ _ path ⟨rfl, hdistinct⟩ _
    exact rel_holding fun _ => distinct_open hdistinct
      (Entries.ensures_open_element (Entries.closed_distinct _) (Entries.closed_distinct _) path)

end Reader

/-- The keys of a document are pairwise distinct. -/
theorem document_keys_nodup {text : String} {entries : Entries}
    (hdocument : document? text = some entries) : (entries.map Prod.fst).Nodup := by
  obtain ⟨tokens, htokens, -⟩ := Option.bind_eq_some_iff.mp hdocument
  rw [@document_of_tokens _ [] _ tokens htokens rfl] at hdocument
  have hstart : Reader.start.tables.Distinct := List.nodup_nil
  have hread := Reader.distinct_simulation.read ⟨rfl, hstart⟩ tokens
  rw [hdocument] at hread
  cases hread with
  | some htables =>
      obtain ⟨_, _, ⟨-, hdistinct⟩, -, rfl, -⟩ := htables
      exact hdistinct

end DashboardGenerator.Toml
