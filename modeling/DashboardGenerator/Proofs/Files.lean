import DashboardGenerator.Files
import DashboardGenerator.Proofs.Result
import Mathlib.Data.List.Basic

/-!
# Reading what was written

Putting a file at a place leaves every other place as it was, and the directories that lead to the
place stay directories. So a path is followed as before (`follow_put`), and a file that was written
is read back from the same path (`read_write`).
-/

namespace DashboardGenerator.Files

variable {files : Files}

/-- Dropping the entries of one key leaves the others. -/
theorem lookup_filter_ne {place other : List String} (hne : other ≠ place)
    (entries : List (List String × FileEntry)) :
    (entries.filter fun entry => entry.1 != place).lookup other = entries.lookup other := by
  induction entries with
  | nil => rfl
  | cons entry entries ih =>
      rcases entry with ⟨key, value⟩
      by_cases hkey : key = place
      · subst hkey
        rw [List.filter_cons_of_neg (by simp), ih, List.lookup_cons,
          beq_eq_false_iff_ne.mpr hne]
      · rw [List.filter_cons_of_pos (by simpa using hkey), List.lookup_cons, List.lookup_cons, ih]

/-- The file that was put stands at its place. -/
theorem entry_put {place : List String} (hplace : place ≠ []) (content : List UInt8) :
    entry? (files.put place content) place = some (.file content) := by
  cases place with
  | nil => exact absurd rfl hplace
  | cons name names => simp [put, entry?]

/-- Every other place is as it was. -/
theorem entry_put_of_ne {place other : List String} (hne : other ≠ place)
    (content : List UInt8) : entry? (files.put place content) other = files.entry? other := by
  cases other with
  | nil => rfl
  | cons name names =>
      show List.lookup _ _ = List.lookup _ _
      rw [put, List.lookup_cons, beq_eq_false_iff_ne.mpr hne]
      exact lookup_filter_ne hne files.entries

/-- A step from a directory leads where it led before the file was put. -/
theorem enter_put {place here : List String} {name : String} {next : List String}
    (hplace : files.entry? place ≠ some .directory) (henter : files.enter here name = .ok next)
    (content : List UInt8) : (files.put place content).enter here name = .ok next := by
  have hhere : files.entry? here = some .directory := by
    unfold enter at henter
    split at henter
    · cases henter
    · cases henter
    · assumption
  -- A step starts from a directory, and the file was put where there is none.
  have hne : here ≠ place := fun heq => hplace (heq ▸ hhere)
  unfold enter at henter ⊢
  rw [entry_put_of_ne hne]
  exact henter

/-- Names lead where they led before the file was put. -/
theorem follow_put {place : List String} (hplace : files.entry? place ≠ some .directory)
    (content : List UInt8) {names here next : List String}
    (hfollow : files.follow here names = .ok next) :
    (files.put place content).follow here names = .ok next := by
  induction names generalizing here with
  | nil => exact hfollow
  | cons name names ih =>
      rw [follow, List.foldlM_cons] at hfollow ⊢
      cases henter : files.enter here name with
      | error fault => rw [henter] at hfollow; cases hfollow
      | ok middle =>
          rw [henter] at hfollow
          rw [enter_put hplace henter]
          exact ih hfollow

/-- A path where a file may be written leads to a place without a directory: the last of its names
is no special one and no slash follows it. -/
theorem locate_new_eq_ok {path : String} {place : List String}
    (hlocate : files.locateNew path = .ok place) :
    checkPath path = .ok () ∧ endsWithSlash path = false ∧
      files.follow (files.startOf path) (pathNames path) = .ok place ∧
      files.entry? place ≠ some .directory := by
  obtain ⟨⟨⟩, hcheck, hlocate⟩ := bind_eq_ok_iff.mp hlocate
  split at hlocate
  · cases hlocate
  next name hlast =>
  obtain ⟨parent, hparent, hlocate⟩ := bind_eq_ok_iff.mp hlocate
  obtain ⟨found, henter, hlocate⟩ := bind_eq_ok_iff.mp hlocate
  split at hlocate
  · cases hlocate
  next hplain =>
  have hfollow : files.follow (files.startOf path) (pathNames path) = .ok found := by
    obtain ⟨names, hnames⟩ := List.getLast?_eq_some_iff.mp hlast
    rw [hnames, List.dropLast_concat] at hparent
    rw [hnames, follow, List.foldlM_append]
    exact bind_eq_ok_iff.mpr ⟨parent, hparent, by rw [List.foldlM_cons, henter]; rfl⟩
  split at hlocate
  · cases hlocate
  · next hentry =>
      cases hlocate
      exact ⟨hcheck, by simpa using fun h => hplain (Or.inl h), hfollow, by simp [hentry]⟩
  · next hentry =>
      cases hlocate
      exact ⟨hcheck, by simpa using fun h => hplain (Or.inl h), hfollow, by simp [hentry]⟩

/-- The root is a directory, so a place where a file may be written has a name. -/
theorem ne_nil_of_locate_new {path : String} {place : List String}
    (hlocate : files.locateNew path = .ok place) : place ≠ [] := by
  rintro rfl
  exact (locate_new_eq_ok hlocate).2.2.2 rfl

/-- Writing puts the bytes at the place that the path leads to, if a file may be written there,
whatever the bytes are. -/
theorem write_eq_ok_iff {after : Files} {path : String} {content : List UInt8} :
    files.write path content = .ok after ↔
      ∃ place, files.locateNew path = .ok place ∧ files.put place content = after := by
  rw [write, bind_eq_ok_iff]
  exact exists_congr fun place => and_congr_right fun _ => iff_of_eq (Except.ok.injEq ..)

/-- A file that was written is read back from the same path. -/
theorem read_write {after : Files} {path : String} {content : List UInt8}
    (hwrite : files.write path content = .ok after) : after.read path = .ok content := by
  obtain ⟨place, hlocate, rfl⟩ := write_eq_ok_iff.mp hwrite
  obtain ⟨hcheck, hslash, hfollow, hplace⟩ := locate_new_eq_ok hlocate
  have hlocated : (files.put place content).locate path = .ok place := by
    refine bind_eq_ok_iff.mpr ⟨(), hcheck, ?_⟩
    rw [hslash]
    exact follow_put hplace content hfollow
  refine bind_eq_ok_iff.mpr ⟨place, hlocated, ?_⟩
  rw [entry_put (ne_nil_of_locate_new hlocate)]

/-- A path that is read from leads to a file. -/
theorem is_file_of_read {path : String} {content : List UInt8}
    (hread : files.read path = .ok content) : files.isFile path = true := by
  obtain ⟨place, hlocate, hentry⟩ := bind_eq_ok_iff.mp hread
  rw [isFile, hlocate]
  dsimp only
  split at hentry
  · rfl
  · cases hentry
  · cases hentry

end DashboardGenerator.Files
