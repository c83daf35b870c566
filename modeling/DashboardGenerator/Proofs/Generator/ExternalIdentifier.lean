import DashboardGenerator.Proofs.Config.Fields
import DashboardGenerator.Proofs.Config.Host
import DashboardGenerator.Proofs.Generator.Composition
import DashboardGenerator.Proofs.Generator.KeyOrder
import Mathlib.Data.List.Induction

/-!
# The external identifier

The external identifier is taken from its variable as it is, whatever stands in the settings file,
and goes into one field of the document. Two runs that differ in its value alone load the same
settings but for the identifier (`Files.settings_of_uid`), go through the same stages
(`Files.reports_of_uid`) and emit the same document but for that field: `Files.uid_passes_through`.
-/

namespace DashboardGenerator

open Config

namespace Settings

/-- An environment in which the variable of the external identifier has the value. -/
def uidEnvironment (before after : Environment) (uid : String) : Environment :=
  before ++ ("DASHBOARD_UID", .text uid) :: after

/-- The settings under another external identifier. -/
def withUid (settings : Settings) (uid : String) : Settings :=
  { settings with uid := some uid }

/-- No variable gives a value to the external identifier or to a part of it. -/
def LeavesUid (environment : Environment) : Prop :=
  ∀ entry ∈ environment, ∀ key ∈ variableKey? entry.1, (Path.ofKey key).root ≠ "uid"

instance (environment : Environment) : Decidable (LeavesUid environment) :=
  List.decidableBAll _ _

/-- The value that the variable of the identifier gives. -/
def uidValue (uid : String) : Value := .scalar .environment (.string uid)

/-- Entries from two environments that differ in the identifier alone: the identifier itself, or the
same value for a key that leads to no part of it. -/
inductive UidApart (uid other : String) : String × Value → String × Value → Prop
  | uid : UidApart uid other ("uid", uidValue uid) ("uid", uidValue other)
  | same {entry : String × Value} (hroot : (Path.ofKey entry.1).root ≠ "uid") :
      UidApart uid other entry entry

/-- Configurations that differ in the identifier alone. -/
structure LayersApart (uid other : String) (layers others : Value) : Prop where
  uid_eq : layers.entries.lookup "uid" = some (uidValue uid)
  other_eq : others.entries.lookup "uid" = some (uidValue other)
  same : ∀ name, name ≠ "uid" → others.entries.lookup name = layers.entries.lookup name

theorem path_of_uid : Path.ofKey "uid" = ⟨"uid", []⟩ := path_of_plain_key (by decide)

section

variable {uid other : String} {source others : List (String × Value)}

theorem UidApart.key_eq {entry otherEntry : String × Value}
    (hentry : UidApart uid other entry otherEntry) : entry.1 = otherEntry.1 := by
  cases hentry <;> rfl

/-! ## The sources of two environments -/

/-- The latest values are apart as all of them are. -/
theorem latest_apart (hsource : List.Forall₂ (UidApart uid other) source others) :
    List.Forall₂ (UidApart uid other) (latest source) (latest others) := by
  refine List.rel_foldl ?_ .nil hsource
  rintro found otherFound hfound ⟨key, value⟩ ⟨otherKey, otherValue⟩ hentry
  obtain rfl : key = otherKey := hentry.key_eq
  induction hfound with
  | nil => exact .cons hentry .nil
  | @cons first otherFirst _ _ hfirst hrest ih =>
      obtain ⟨name, found⟩ := first
      obtain ⟨otherName, otherFound⟩ := otherFirst
      obtain rfl : name = otherName := hfirst.key_eq
      simp only [changeEntry]
      split
      next hname =>
        subst hname
        exact .cons hentry hrest
      · exact .cons hfirst ih

/-- A key with a value has a latest one. -/
theorem mem_keys_latest {name : String} (hname : name ∈ source.map Prod.fst) :
    name ∈ (latest source).map Prod.fst := by
  have hchange : ∀ (change : Value → Value) (key : String) (entries : List (String × Value)),
      (name = key ∨ name ∈ entries.map Prod.fst) →
        name ∈ (changeEntry change key entries).map Prod.fst := by
    intro change key entries hname
    rw [keys_change_entry]
    split
    next hkey => exact hname.elim (· ▸ hkey) id
    · exact List.mem_append.mpr (hname.symm.imp_right List.mem_singleton.mpr)
  induction source using List.reverseRecOn with
  | nil => cases hname
  | append_singleton source entry ih =>
      rw [List.map_append, List.mem_append, List.map_singleton, List.mem_singleton] at hname
      rw [latest, List.foldl_append]
      exact hchange _ _ _ (hname.symm.imp_right ih)

/-- Values that are texts keep their keys. -/
theorem keys_of_values {entries : List (String × Text.OsText)}
    (hvalues : entries.mapM variableEntry = .ok source) :
    source.map Prod.fst = entries.map Prod.fst := by
  induction entries generalizing source with
  | nil => cases hvalues; rfl
  | cons entry entries ih =>
      rw [List.mapM_cons] at hvalues
      obtain ⟨first, hfirst, hvalues⟩ := bind_eq_ok_iff.mp hvalues
      obtain ⟨rest, hrest, ⟨⟩⟩ := bind_eq_ok_iff.mp hvalues
      have hkey : first.1 = entry.1 := by
        obtain ⟨key, value⟩ := entry
        cases value with
        | text text => cases hfirst; rfl
        | bytes bytes => cases hfirst
      rw [List.map_cons, ih hrest, List.map_cons, hkey]

variable {before after : Environment}

/-- The variable of the identifier gives its value between what the others give. -/
theorem variable_entries_uid (before after : Environment) (uid : String) :
    variableEntries (uidEnvironment before after uid) =
      variableEntries before ++ ("uid", .text uid) :: variableEntries after := by
  have hkey : variableKey? "DASHBOARD_UID" = some "uid" := by decide +kernel
  rw [uidEnvironment, variableEntries, List.filterMap_append, List.filterMap_cons]
  dsimp only
  rw [hkey]
  rfl

/-- Two environments that differ in the identifier alone have the same fault, or give entries that are
apart in the identifier alone. -/
theorem environment_sources_apart (hothers : LeavesUid (before ++ after)) (uid other : String) :
    (∃ fault, environmentSource (uidEnvironment before after uid) = .error fault ∧
      environmentSource (uidEnvironment before after other) = .error fault) ∨
    ∃ source others, environmentSource (uidEnvironment before after uid) = .ok source ∧
      environmentSource (uidEnvironment before after other) = .ok others ∧
      List.Forall₂ (UidApart uid other) source others ∧ "uid" ∈ source.map Prod.fst := by
  obtain ⟨hbefore, hafter⟩ := List.forall_mem_append.mp hothers
  have hsame : ∀ {environment : Environment} {values : List (String × Value)},
      LeavesUid environment → (variableEntries environment).mapM variableEntry = .ok values →
      List.Forall₂ (UidApart uid other) values values := by
    intro environment values hleaves hvalues
    refine List.forall₂_same.mpr fun entry hentry => .same ?_
    have hkey : entry.1 ∈ (variableEntries environment).map Prod.fst :=
      keys_of_values hvalues ▸ List.mem_map_of_mem hentry
    obtain ⟨given, hgiven, hname⟩ := List.mem_map.mp hkey
    obtain ⟨⟨name, value⟩, hmem, hsome⟩ := List.mem_filterMap.mp hgiven
    obtain ⟨key, hfound, rfl⟩ := Option.map_eq_some_iff.mp hsome
    rw [← hname]
    exact hleaves _ hmem key hfound
  simp only [environmentSource, variable_entries_uid, List.mapM_append, List.mapM_cons]
  cases hfirst : (variableEntries before).mapM variableEntry with
  | error fault => exact .inl ⟨fault, rfl, rfl⟩
  | ok first =>
  cases hlast : (variableEntries after).mapM variableEntry with
  | error fault => exact .inl ⟨fault, rfl, rfl⟩
  | ok last =>
  refine .inr ⟨_, _, rfl, rfl, ?_, ?_⟩
  · exact latest_apart (List.rel_append (hsame hbefore hfirst) (.cons .uid (hsame hafter hlast)))
  · exact mem_keys_latest (by simp)

/-! ## The configurations -/

variable {tree otherTree : Value}

/-- Setting entries that are apart ends in the same crash on configurations that are the same
elsewhere. -/
theorem first_crash_apart (host : Host)
    (hsource : List.Forall₂ (UidApart uid other) source others)
    (htree : ∀ name, name ≠ "uid" → otherTree.entries.lookup name = tree.entries.lookup name) :
    host.firstCrash? otherTree others = host.firstCrash? tree source ∧
      ∀ name, name ≠ "uid" →
        (applySource otherTree others).entries.lookup name =
          (applySource tree source).entries.lookup name := by
  induction hsource generalizing tree otherTree with
  | nil => exact ⟨rfl, htree⟩
  | @cons entry otherEntry source others hentry _ ih =>
      cases hentry with
      | uid =>
          rw [Host.firstCrash?, Host.firstCrash?, path_of_uid]
          refine ih fun name hname => ?_
          show (Value.assign _ (.key (Path.ofKey "uid").root :: (Path.ofKey "uid").steps)
            _).entries.lookup name = (Value.assign _ (.key (Path.ofKey "uid").root ::
              (Path.ofKey "uid").steps) _).entries.lookup name
          rw [path_of_uid, lookup_assign_key, lookup_assign_key, if_neg hname, if_neg hname,
            htree name hname]
      | same hroot =>
          have hcrash : host.crashAt? (.key (Path.ofKey entry.1).root :: (Path.ofKey entry.1).steps)
              otherTree = host.crashAt? (.key (Path.ofKey entry.1).root ::
                (Path.ofKey entry.1).steps) tree := by
            rw [Host.crashAt?, Host.crashAt?, Value.growths, Value.growths, htree _ hroot]
          have hset : ∀ name, name ≠ "uid" →
              (applySource otherTree [entry]).entries.lookup name =
                (applySource tree [entry]).entries.lookup name :=
            fun name hname => lookup_apply_source_congr (htree name hname) [entry]
          rw [Host.firstCrash?, Host.firstCrash?, hcrash, (ih hset).1]
          exact ⟨rfl, (ih hset).2⟩

/-- The variable of the identifier gives its value, over whatever a configuration holds. -/
theorem lookup_apply_uid (tree : Value) (uid : String) :
    (applySource tree [("uid", uidValue uid)]).entries.lookup "uid" = some (uidValue uid) := by
  show (Value.assign _ (.key (Path.ofKey "uid").root :: (Path.ofKey "uid").steps)
    tree).entries.lookup "uid" = _
  rw [path_of_uid, lookup_assign_key, if_pos rfl]
  rfl

/-- Once the identifier is set, no other entry changes it. -/
theorem lookup_uid_stays (hsource : List.Forall₂ (UidApart uid other) source others)
    (htree : tree.entries.lookup "uid" = some (uidValue uid))
    (hother : otherTree.entries.lookup "uid" = some (uidValue other)) :
    (applySource tree source).entries.lookup "uid" = some (uidValue uid) ∧
      (applySource otherTree others).entries.lookup "uid" = some (uidValue other) := by
  induction hsource generalizing tree otherTree with
  | nil => exact ⟨htree, hother⟩
  | @cons entry otherEntry source others hentry _ ih =>
      cases hentry with
      | uid => exact ih (lookup_apply_uid tree uid) (lookup_apply_uid otherTree other)
      | same hroot =>
          have hkeeps := lookup_apply_source_of_ne (List.forall_mem_singleton.mpr hroot)
          exact ih ((hkeeps tree).trans htree) ((hkeeps otherTree).trans hother)

/-- The identifier is the value that its variable gives. -/
theorem lookup_uid (hsource : List.Forall₂ (UidApart uid other) source others)
    (hmem : "uid" ∈ source.map Prod.fst) (tree otherTree : Value) :
    (applySource tree source).entries.lookup "uid" = some (uidValue uid) ∧
      (applySource otherTree others).entries.lookup "uid" = some (uidValue other) := by
  induction hsource generalizing tree otherTree with
  | nil => cases hmem
  | @cons entry otherEntry source others hentry hrest ih =>
      cases hentry with
      | uid =>
          have hstays :=
            lookup_uid_stays hrest (lookup_apply_uid tree uid) (lookup_apply_uid otherTree other)
          exact hstays
      | same hroot =>
          rcases List.mem_cons.mp hmem with hkey | hmem
          · exact absurd (hkey ▸ congrArg Path.root path_of_uid) hroot
          · exact ih hmem _ _

/-- Sources that are apart are set alike: with the same crash, or into configurations that are
apart. -/
theorem set_apart (hsource : List.Forall₂ (UidApart uid other) source others)
    (hmem : "uid" ∈ source.map Prod.fst) (host : Host) (origin : Origin) (tree : Value) :
    (∃ crash, host.set origin tree source = .error crash ∧
      host.set origin tree others = .error crash) ∨
    ∃ layers otherLayers, host.set origin tree source = .ok layers ∧
      host.set origin tree others = .ok otherLayers ∧ LayersApart uid other layers otherLayers := by
  have hvisited := arrange_rel (host.sourceRank origin) (fun _ _ => UidApart.key_eq) hsource
  have hvisitedMem : "uid" ∈ (arrange (host.sourceRank origin) source).map Prod.fst :=
    ((arrange_perm _ source).map Prod.fst).mem_iff.mpr hmem
  obtain ⟨hcrash, hsame⟩ := first_crash_apart host hvisited fun (_ : String) _ =>
    (rfl : tree.entries.lookup _ = _)
  rw [Host.set, Host.set, hcrash]
  cases host.firstCrash? tree (arrange (host.sourceRank origin) source) with
  | some crash => exact .inl ⟨crash, rfl, rfl⟩
  | none =>
      obtain ⟨huid, hother⟩ := lookup_uid hvisited hvisitedMem tree tree
      exact .inr ⟨_, _, rfl, rfl, ⟨huid, hother, hsame⟩⟩

end

/-! ## The settings -/

/-- Settings that are read from the same values but for the identifier are the same but for it. -/
theorem read_entries_of_uid {uid other : String} {layers others : Value}
    (hlayers : LayersApart uid other layers others) (order : Order) :
    readEntries order others.entries = (readEntries order layers.entries).map (·.withUid other) := by
  have hfield : ∀ {α : Type} name, name ≠ "uid" → ∀ read : Reader α,
      (Record.keyed others.entries).field? order name read =
        (Record.keyed layers.entries).field? order name read :=
    fun name hname read => field_congr (hlayers.same name hname) order read
  have hread : (Record.keyed layers.entries).field? order "uid" (readOptional readString) =
    .ok (some (some uid)) := field_of_lookup hlayers.uid_eq fun _ => rfl
  have hreadOther : (Record.keyed others.entries).field? order "uid" (readOptional readString) =
    .ok (some (some other)) := field_of_lookup hlayers.other_eq fun _ => rfl
  have hvisit : ∀ faults, (Record.keyed others.entries).visit order faults =
    (Record.keyed layers.entries).visit order faults := fun _ => rfl
  simp only [readEntries, hread, hreadOther, hfield "definition_path" (by decide),
    hfield "output_path" (by decide), hfield "pretty" (by decide), hvisit, fault?]
  -- The three other fields are read alike, and the first one with a fault ends the reading.
  cases (Record.keyed layers.entries).visit order _ with
  | error fault => rfl
  | ok visited =>
  cases (Record.keyed layers.entries).field? order "definition_path" (readOptional readString) with
  | error fault => rfl
  | ok definitionPath =>
  cases (Record.keyed layers.entries).field? order "output_path" (readOptional readString) with
  | error fault => rfl
  | ok outputPath =>
  cases (Record.keyed layers.entries).field? order "pretty" readBoolean with
  | error fault => rfl
  | ok pretty => rfl

/-- Settings from the same file and from environments that differ in the identifier alone are the
same but for it, and fail alike. -/
theorem of_sources_of_uid {before after : Environment} (hothers : LeavesUid (before ++ after))
    (host : Host) (file : Option (Format × String)) (uid other : String) :
    ofSources host file (uidEnvironment before after other) =
      (ofSources host file (uidEnvironment before after uid)).map (·.withUid other) := by
  rw [ofSources, ofSources]
  cases ofFile host file with
  | error fault => rfl
  | ok config =>
  rcases environment_sources_apart hothers uid other with
    ⟨fault, hfault, hotherFault⟩ | ⟨source, others, hsource, hotherSource, hapart, hmem⟩
  · rw [hfault, hotherFault]
    rfl
  rw [hsource, hotherSource]
  dsimp only [bind, Except.bind]
  rcases set_apart hapart hmem host .environment config with
    ⟨crash, hcrash, hotherCrash⟩ | ⟨layers, otherLayers, hset, hotherSet, hlayers⟩
  · rw [hcrash, hotherCrash]
    rfl
  rw [hset, hotherSet]
  show (readEntries host.order otherLayers.entries).mapError _ = _
  rw [read_entries_of_uid hlayers]
  show _ = ((readEntries host.order layers.entries).mapError _).map _
  cases readEntries host.order layers.entries <;> rfl

end Settings

/-- The fields of an object; any other value has none. -/
def Json.fields : Json → List (String × Json)
  | .object fields => fields
  | .null | .bool _ | .number _ | .string _ | .array _ => []

/-- The identifier is one field of a document, and no other field depends on it. -/
theorem Grafana.dashboard_json_uid (dashboard : Dashboard) :
    ∃ front back : List (String × Json), "uid" ∉ (front ++ back).map Prod.fst ∧
      ∀ uid, dashboardJson (dashboard.withUid (some uid)) =
        .object (front ++ ("uid", .string uid) :: back) := by
  refine ⟨(dashboardJson dashboard).fields.take 1, (dashboardJson dashboard).fields.drop 2, ?_,
    fun uid => rfl⟩
  simp [dashboardJson, Json.fields]

namespace Files

variable {before after : Environment} {platform : Platform}

/-- Runs in environments that differ in the identifier alone load the same settings but for it, or
fail alike. -/
theorem settings_of_uid (platform : Platform) (files : Files)
    (hothers : Settings.LeavesUid (before ++ after)) (uid other : String) :
    (machine platform).settings files (Settings.uidEnvironment before after other) =
      ((machine platform).settings files (Settings.uidEnvironment before after uid)).map
        (·.withUid other) := by
  rw [Machine.settings_eq, Machine.settings_eq]
  exact Settings.of_sources_of_uid hothers _ _ uid other

/-- Whether a file can be written depends on its path and not on its content. -/
theorem write_eq_map (files : Files) (path : String) (content : List UInt8) :
    files.write path content = (files.locateNew path).map (files.put · content) := by
  rw [write]
  cases files.locateNew path <;> rfl

/-- The stages of a run report the same under another identifier. -/
theorem reports_of_uid {files : Files} {environment others : Environment} {other : String}
    (hsettings : (machine platform).settings files others =
      ((machine platform).settings files environment).map (·.withUid other)) :
    ((machine platform).run files others).1.events =
        ((machine platform).run files environment).1.events ∧
      ((machine platform).run files others).1.failure =
        ((machine platform).run files environment).1.failure := by
  rw [Machine.run_eq, Machine.run_eq, hsettings]
  cases (machine platform).settings files environment with
  | error fault => exact ⟨rfl, rfl⟩
  | ok settings =>
      have hmade : (machine platform).made files (settings.withUid other) =
        (machine platform).made files settings := rfl
      dsimp only [Except.map]
      rw [hmade]
      rcases (machine platform).made files settings with ⟨events, fault | built⟩
      · exact ⟨rfl, rfl⟩
      -- Neither the faults of a dashboard nor its title and size depend on its identifier.
      have hvalidate : (built.withUid (settings.withUid other).uid).validate =
        (built.withUid settings.uid).validate := rfl
      dsimp only
      rw [hvalidate]
      cases (built.withUid settings.uid).validate with
      | error fault => exact ⟨rfl, rfl⟩
      | ok valid =>
          have houtput : (settings.withUid other).outputPath = settings.outputPath := rfl
          dsimp only
          rw [Machine.deliver_eq, Machine.deliver_eq, houtput]
          cases settings.outputPath with
          | none => exact ⟨rfl, rfl⟩
          | some path =>
              dsimp only
              rw [machine_write, machine_write, write_eq_map, write_eq_map]
              cases files.locateNew path <;> exact ⟨rfl, rfl⟩

/-- The identifier does not set how much of the log is shown. -/
theorem filter_of_uid (directives : String → Option Log.Filter) (before after : Environment)
    (uid other : String) :
    Log.Filter.ofEnvironment directives (Settings.uidEnvironment before after other) =
      Log.Filter.ofEnvironment directives (Settings.uidEnvironment before after uid) := by
  have hlookup : ∀ uid, (Settings.uidEnvironment before after uid).lookup Log.variableName =
      (before.lookup Log.variableName).or (after.lookup Log.variableName) := by
    intro uid
    rw [Settings.uidEnvironment, List.lookup_append]
    rfl
  simp only [Log.Filter.ofEnvironment, Environment.text?, hlookup]

/-- A run that does not fail emits the document of one dashboard under the identifier, whatever the
identifier is. -/
theorem emits_of_uid {files : Files} (hothers : Settings.LeavesUid (before ++ after))
    (uid other : String) (hexit : ∀ name ∈ [uid, other],
      ((machine platform).run files (Settings.uidEnvironment before after name)).1.exitCode = 0) :
    ∃ (settings : Settings) (dashboard : Dashboard), ∀ name ∈ [uid, other],
      (machine platform).settings files (Settings.uidEnvironment before after name) =
        .ok (settings.withUid name) ∧
      files.Emits platform (Settings.uidEnvironment before after name) (settings.withUid name)
        ((settings.withUid name).document dashboard) := by
  obtain ⟨settings, dashboard, hsettings, hasks, -⟩ :=
    Machine.run_exit_code_eq_zero_iff.mp (hexit uid List.mem_cons_self)
  refine ⟨settings, dashboard, fun name hname => ?_⟩
  have hloaded : (machine platform).settings files (Settings.uidEnvironment before after name) =
      .ok (settings.withUid name) := by
    rw [settings_of_uid platform files hothers uid name, hsettings]
    rfl
  obtain ⟨found, hfound, -, hemits⟩ := emits_of_exit hloaded (hexit name hname)
  obtain rfl := hfound.unique (asks_congr hasks rfl (fun _ _ => rfl) fun _ _ _ _ _ _ => .inl rfl)
  exact ⟨hloaded, hemits⟩

/-- The external identifier passes through untouched and has no other influence. Runs that differ in
the value of its variable alone, whatever the files hold, have the same exit code, the same events
and lines of the log and the same failure. If they do not fail, they emit, on the channel that the
same settings choose, JSON texts of the same document but for the identifier, which is the value of
the variable to the letter. This holds in every order of the keys. If no key of the inputs is a path,
a run under the one identifier agrees with one under the other in different orders too, but for which
of several values that cannot be read is reported. -/
theorem uid_passes_through (platform : Platform) (files : Files)
    (hothers : Settings.LeavesUid (before ++ after)) (uid other : String) :
    let environment := Settings.uidEnvironment before after
    let run := fun name => (machine platform).run files (environment name)
    (run other).1.exitCode = (run uid).1.exitCode ∧
    (run other).1.events = (run uid).1.events ∧
    Log.lines (run other).1.events (.ofEnvironment platform.directives (environment other)) =
      Log.lines (run uid).1.events (.ofEnvironment platform.directives (environment uid)) ∧
    (run other).1.failure = (run uid).1.failure ∧
    ((run uid).1.exitCode = 0 →
      ∃ (settings : Settings) (front back : List (String × Json)),
        "uid" ∉ (front ++ back).map Prod.fst ∧
        ∀ name ∈ [uid, other],
          (machine platform).settings files (environment name) =
            .ok { settings with uid := some name } ∧
          ∃ text,
            files.Emits platform (environment name) { settings with uid := some name } text ∧
            Json.parse? text = some (.object (front ++ ("uid", .string name) :: back))) ∧
    ((machine platform).PlainInputs files (environment other) →
      ∀ settingsHost definitionHost,
        let reordered := (machine (platform.onHosts settingsHost definitionHost)).run files
          (environment other)
        reordered.1.exitCode = (run uid).1.exitCode ∧
        reordered.1.events = (run uid).1.events ∧
        Option.Rel Failure.SameButValue (run uid).1.failure reordered.1.failure ∧
        ((run uid).1.exitCode = 0 → reordered = run other)) := by
  intro environment run
  obtain ⟨hevents, hfailure⟩ := reports_of_uid (settings_of_uid platform files hothers uid other)
  have hcode : (run other).1.exitCode = (run uid).1.exitCode := by
    rw [Outcome.exitCode, Outcome.exitCode, hfailure]
  have hlines : Log.lines (run other).1.events
        (.ofEnvironment platform.directives (environment other)) =
      Log.lines (run uid).1.events (.ofEnvironment platform.directives (environment uid)) := by
    rw [hevents, filter_of_uid platform.directives before after uid other]
  refine ⟨hcode, hevents, hlines, hfailure, fun hexit => ?_,
    fun hplain settingsHost definitionHost => ?_⟩
  · have hexits : ∀ name ∈ [uid, other], (run name).1.exitCode = 0 :=
      List.forall_mem_cons.mpr ⟨hexit, List.forall_mem_singleton.mpr (hcode.trans hexit)⟩
    obtain ⟨settings, dashboard, hemits⟩ := emits_of_uid hothers uid other hexits
    obtain ⟨front, back, hkeys, hdocument⟩ := Grafana.dashboard_json_uid dashboard
    refine ⟨settings, front, back, hkeys, fun name hname => ?_⟩
    obtain ⟨hloaded, htext⟩ := hemits name hname
    refine ⟨hloaded, _, htext, ?_⟩
    rw [← hdocument]
    exact Json.parse_text _ _
  · have halike := Machine.run_on_hosts hplain settingsHost definitionHost
    exact ⟨halike.exit_code_eq.trans hcode, halike.events_eq.trans hevents,
      hfailure ▸ halike.failure, fun hexit => halike.eq_of_exit (hcode.trans hexit)⟩

/-- A settings file with a table under the identifier and a path into it, and a definition. -/
def nestedUidFiles : Files where
  entries := [(["config"], .directory),
    (["config", "generator.toml"], .file (Text.encodeUtf8
      "uid.team='core'\n'uid[0]'=3\ndefinition_path='page.toml'")),
    (["page.toml"], .file (Text.encodeUtf8 "title='T'\nrows=[[[['P','d']]]]"))]
  current := []

/-- An environment with an identifier, a file for the document and much to be shown of the log. -/
def namedEnvironment (uid : String) : Environment :=
  Settings.uidEnvironment [("RUST_LOG", .text "debug")]
    [("DASHBOARD_OUTPUT_PATH", .text "page.json")] uid

/-- A word that could be read as a truth value and an empty text both stay what they are, in place
of what the settings file holds. -/
theorem uid_passes_through_word :
    Settings.LeavesUid
      ([("RUST_LOG", .text "debug")] ++ [("DASHBOARD_OUTPUT_PATH", .text "page.json")]) ∧
    ((machine .plain).run nestedUidFiles (namedEnvironment "true")).1.exitCode = 0 ∧
    ∃ (settings : Settings) (front back : List (String × Json)),
      "uid" ∉ (front ++ back).map Prod.fst ∧
      ∀ name ∈ ["true", ""],
        (machine .plain).settings nestedUidFiles (namedEnvironment name) =
          .ok { settings with uid := some name } ∧
        ∃ text, nestedUidFiles.Emits .plain (namedEnvironment name)
            { settings with uid := some name } text ∧
          Json.parse? text = some (.object (front ++ ("uid", .string name) :: back)) := by
  have hothers : Settings.LeavesUid
      ([("RUST_LOG", .text "debug")] ++ [("DASHBOARD_OUTPUT_PATH", .text "page.json")]) := by
    decide +kernel
  have hexit : ((machine .plain).run nestedUidFiles (namedEnvironment "true")).1.exitCode = 0 := by
    decide +kernel
  obtain ⟨-, -, -, -, hemits, -⟩ := uid_passes_through .plain nestedUidFiles hothers "true" ""
  exact ⟨hothers, hexit, hemits hexit⟩

end Files

end DashboardGenerator
