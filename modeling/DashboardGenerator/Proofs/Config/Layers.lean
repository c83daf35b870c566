import DashboardGenerator.Proofs.Config.Written
import DashboardGenerator.Proofs.Result
import DashboardGenerator.Proofs.Toml.DistinctKeys

/-!
# Layers of a configuration

What a key has after a source was set over a configuration: the source's value, merged with what was
there, or what was there if the source does not give the key one (`lookup_apply_source`). This holds
of sources whose keys are no paths and pairwise distinct. Of any source it holds that what it gives
to a key depends on nothing that another key had (`lookup_apply_source_congr`). The keys of a source
that comes from a TOML text are distinct, and none of them is without a value (`of_toml_keys_nodup`,
`of_toml_ne_nil`).
-/

namespace DashboardGenerator.Config

open Toml hiding Value

/-! ## Setting a source -/

/-- The key is made of letters and digits of ASCII, underscores and hyphens alone. -/
def IsPlainKey (key : String) : Prop :=
  ∀ character ∈ key.toList, isPathCharacter character = true

instance (key : String) : Decidable (IsPlainKey key) :=
  List.decidableBAll _ _

/-- A word is a plain key. -/
theorem plain_of_bare_key {key : String} (hbare : IsBareKey key) : IsPlainKey key :=
  (bare_key_eq_some_iff.mp hbare).2.1

/-- A plain key stands for itself and not for a longer path. -/
theorem path_of_plain_key {key : String} (hplain : IsPlainKey key) : Path.ofKey key = ⟨key, []⟩ := by
  by_cases hempty : key = ""
  · subst hempty
    rfl
  · refine path_of_bare_key (bare_key_eq_some_iff.mpr ⟨?_, hplain, ?_⟩)
    · exact mt String.toList_eq_nil_iff.mp hempty
    · exact String.ofList_toList

/-- Changing the value of a key changes what is found under that key alone. -/
theorem lookup_change_entry (change : Value → Value) (key : String)
    (entries : List (String × Value)) (other : String) :
    (changeEntry change key entries).lookup other =
      if other = key then some (change ((entries.lookup key).getD .nil))
      else entries.lookup other := by
  induction entries with
  | nil =>
      by_cases hother : other = key
      · simp [changeEntry, hother]
      · simp [changeEntry, List.lookup_cons, hother, beq_eq_false_iff_ne.mpr hother]
  | cons entry entries ih =>
      obtain ⟨name, value⟩ := entry
      rw [changeEntry]
      by_cases hname : name = key
      · subst hname
        by_cases hother : other = name
        · simp [hother]
        · simp [List.lookup_cons, hother, beq_eq_false_iff_ne.mpr hother]
      · have hkey : (key == name) = false := beq_eq_false_iff_ne.mpr (Ne.symm hname)
        rw [if_neg hname, List.lookup_cons, List.lookup_cons, List.lookup_cons, ih, hkey]
        by_cases hother : other = name
        · subst hother
          simp [hname]
        · simp [beq_eq_false_iff_ne.mpr hother]

/-- All keys stay, and one that is new comes behind the others. -/
theorem keys_change_entry (change : Value → Value) (key : String)
    (entries : List (String × Value)) :
    (changeEntry change key entries).map Prod.fst =
      if key ∈ entries.map Prod.fst then entries.map Prod.fst
      else entries.map Prod.fst ++ [key] := by
  induction entries with
  | nil => rfl
  | cons entry entries ih =>
      obtain ⟨name, value⟩ := entry
      rw [changeEntry]
      by_cases hname : name = key
      · simp [hname]
      · rw [if_neg hname, List.map_cons, ih, List.map_cons]
        by_cases hkey : key ∈ entries.map Prod.fst
        · rw [if_pos hkey, if_pos (List.mem_cons_of_mem _ hkey)]
        · rw [if_neg hkey, if_neg (List.not_mem_cons_of_ne_of_not_mem (Ne.symm hname) hkey),
            List.cons_append]

/-- Setting a value behind a key changes what that key has. -/
theorem lookup_assign_key (value : Value) (name : String) (rest : List Step) (old : Value)
    (other : String) :
    (Value.assign value (.key name :: rest) old).entries.lookup other =
      if other = name then some (Value.assign value rest ((old.entries.lookup name).getD .nil))
      else old.entries.lookup other :=
  lookup_change_entry (Value.assign value rest) name old.entries other

/-- What a key has after a source was set depends on nothing but the source and what it had before. -/
theorem lookup_apply_source_congr {tree other : Value} {name : String}
    (hsame : tree.entries.lookup name = other.entries.lookup name)
    (source : List (String × Value)) :
    (applySource tree source).entries.lookup name =
      (applySource other source).entries.lookup name := by
  induction source generalizing tree other with
  | nil => exact hsame
  | cons entry source ih =>
      refine ih ?_
      rw [lookup_assign_key, lookup_assign_key]
      split
      next hname =>
        subst hname
        rw [hsame]
      · exact hsame

/-- A source leaves a key alone if none of its paths starts there. -/
theorem lookup_apply_source_of_ne {source : List (String × Value)} {name : String}
    (hroots : ∀ entry ∈ source, (Path.ofKey entry.1).root ≠ name) (tree : Value) :
    (applySource tree source).entries.lookup name = tree.entries.lookup name := by
  induction source generalizing tree with
  | nil => rfl
  | cons entry source ih =>
      obtain ⟨hroot, hothers⟩ := List.forall_mem_cons.mp hroots
      refine (ih hothers _).trans ?_
      rw [lookup_assign_key, if_neg (Ne.symm hroot)]

/-- Setting a source gives each of its keys its value, merged with the one that is there, and leaves
all other keys as they are. -/
theorem lookup_apply_source {source : List (String × Value)}
    (hplain : ∀ entry ∈ source, IsPlainKey entry.1) (hkeys : (source.map Prod.fst).Nodup)
    (tree : Value) (key : String) :
    (applySource tree source).entries.lookup key =
      match source.lookup key with
      | some value => some (((tree.entries.lookup key).getD .nil).merge value)
      | none => tree.entries.lookup key := by
  induction source generalizing tree with
  | nil => rfl
  | cons entry source ih =>
      obtain ⟨name, value⟩ := entry
      obtain ⟨hname, hplain⟩ := List.forall_mem_cons.mp hplain
      obtain ⟨hnew, hkeys⟩ := List.nodup_cons.mp hkeys
      have hfirst : applySource tree ((name, value) :: source) =
          applySource (.table (changeEntry (·.merge value) name tree.entries)) source := by
        show applySource (Value.assign value (.key (Path.ofKey name).root :: (Path.ofKey name).steps)
          tree) source = _
        rw [path_of_plain_key hname]
        rfl
      have hchanged := lookup_change_entry (·.merge value) name tree.entries key
      rw [hfirst, ih hplain hkeys, List.lookup_cons]
      show (match source.lookup key with
        | some value => some (Value.merge (((changeEntry _ name tree.entries).lookup key).getD _) value)
        | none => (changeEntry _ name tree.entries).lookup key) = _
      rw [hchanged]
      by_cases hkey : key = name
      · -- The key comes once, so the rest of the source leaves its value alone.
        subst hkey
        have hnone : source.lookup key = none := Entries.lookup_of_not_mem hnew
        rw [hnone, if_pos rfl, beq_self_eq_true]
      · rw [if_neg hkey, beq_eq_false_iff_ne.mpr hkey]

/-! ## Sources from TOML -/

/-- Entries that are taken over all have a value. -/
theorem eq_of_settle_eq_ok {entries : List (String × Except NumberFault Value)}
    {values : List (String × Value)} (hsettle : settle entries = .ok values) :
    entries = values.map valued := by
  have hall : ∀ entries : List (String × Except NumberFault Value), leastFault? entries = none →
      entries = (settled entries).map valued := by
    intro entries hfault
    induction entries with
    | nil => rfl
    | cons entry entries ih =>
        obtain ⟨key, value | value⟩ := entry
        · rw [leastFault?] at hfault
          split at hfault <;> cases hfault
        · exact congrArg ((key, .ok value) :: ·) (ih hfault)
  rw [settle] at hsettle
  split at hsettle
  · cases hsettle
  next hfault =>
      cases hsettle
      exact hall entries hfault

/-- The entries of a document keep their keys. -/
theorem map_fst_of_toml_entries (origin : Origin) (entries : Entries) :
    (ofTomlEntries origin entries).map Prod.fst = entries.map Prod.fst := by
  induction entries with
  | nil => rfl
  | cons entry entries ih => exact congrArg (entry.1 :: ·) ih

/-- A value of a document is not without a value in the configuration. -/
theorem of_toml_value_ne_nil {origin : Origin} {value : Toml.Value} {result : Value}
    (hvalue : ofTomlValue origin value = .ok result) : result ≠ .nil := by
  rintro rfl
  cases value with
  | scalar value =>
      rw [ofTomlValue] at hvalue
      cases hscalar : ofTomlScalar value <;> (rw [hscalar] at hvalue; cases hvalue)
  | array ofTables items =>
      rw [ofTomlValue] at hvalue
      cases hitems : ofTomlItems origin items <;> (rw [hitems] at hvalue; cases hvalue)
  | table kind entries =>
      rw [ofTomlValue] at hvalue
      cases hentries : settle (ofTomlEntries origin entries) <;>
        (rw [hentries] at hvalue; cases hvalue)

/-- The values of a source that comes from a TOML text are those of its document. -/
theorem exists_document_of_of_toml {origin : Origin} {text : String}
    {source : List (String × Value)} (hsource : ofToml origin text = .ok source) :
    ∃ entries, document? text = some entries ∧ ofTomlEntries origin entries = source.map valued := by
  rw [ofToml] at hsource
  split at hsource
  · cases hsource
  next entries hdocument =>
      exact ⟨entries, hdocument, eq_of_settle_eq_ok (mapError_eq_ok_iff.mp hsource)⟩

/-- The keys of a source that comes from a TOML text are pairwise distinct. -/
theorem of_toml_keys_nodup {origin : Origin} {text : String} {source : List (String × Value)}
    (hsource : ofToml origin text = .ok source) : (source.map Prod.fst).Nodup := by
  obtain ⟨entries, hdocument, hentries⟩ := exists_document_of_of_toml hsource
  have hkeys : source.map Prod.fst = entries.map Prod.fst := by
    rw [← map_fst_of_toml_entries origin entries, hentries, List.map_map]
    rfl
  rw [hkeys]
  exact document_keys_nodup hdocument

/-- No key of a source that comes from a TOML text is without a value. -/
theorem of_toml_ne_nil {origin : Origin} {text : String} {source : List (String × Value)}
    (hsource : ofToml origin text = .ok source) : ∀ entry ∈ source, entry.2 ≠ .nil := by
  obtain ⟨entries, -, hentries⟩ := exists_document_of_of_toml hsource
  intro entry hentry
  have hmem : valued entry ∈ ofTomlEntries origin entries := hentries ▸ List.mem_map_of_mem hentry
  have hfrom : ∀ entries : Entries, ∀ found ∈ ofTomlEntries origin entries,
      ∃ value, found.2 = ofTomlValue origin value := by
    intro entries
    induction entries with
    | nil => nofun
    | cons entry entries ih => exact List.forall_mem_cons.mpr ⟨⟨entry.2, rfl⟩, ih⟩
  obtain ⟨value, hvalue⟩ := hfrom entries _ hmem
  exact of_toml_value_ne_nil hvalue.symm

end DashboardGenerator.Config
