import DashboardGenerator.Proofs.Generator.DefinitionSchema
import DashboardGenerator.Proofs.Generator.Environment
import DashboardGenerator.Proofs.Generator.Snapshot

/-!
# Runs in another order

Every run visits keys in an order of its own. As long as no top-level key of its inputs is a path
(`Machine.PlainInputs`), the settings and the definition are the same in every order, or some value
cannot be read in any of them (`LoadsAlike`). So another order changes nothing that is seen of a run,
but for which of several values that cannot be read is reported: `Machine.run_on_hosts`.
-/

namespace DashboardGenerator

open Config

/-! ## Sources in another order -/

namespace Config

/-- The keys of a source are distinct, and none of them is a path. -/
structure IsPlainSource (source : List (String × Value)) : Prop where
  plain : ∀ entry ∈ source, IsPlainKey entry.1
  keys_nodup : (source.map Prod.fst).Nodup

variable {source : List (String × Value)} {tree otherTree : Value}

/-- Two hosts make of a source configurations with the same under each key. -/
theorem IsPlainSource.exists_configs (hsource : IsPlainSource source)
    (htree : ∀ key, otherTree.entries.lookup key = tree.entries.lookup key) (host other : Host)
    (origin : Origin) :
    ∃ config otherConfig, host.set origin tree source = .ok config ∧
      other.set origin otherTree source = .ok otherConfig ∧
      ∀ key, otherConfig.entries.lookup key = config.entries.lookup key := by
  have hset := Host.set_of_plain hsource.plain host origin tree
  have hotherSet := Host.set_of_plain hsource.plain other origin otherTree
  refine ⟨_, _, hset, hotherSet, fun key => ?_⟩
  rw [Host.lookup_set_of_plain hsource.plain hsource.keys_nodup hset,
    Host.lookup_set_of_plain hsource.plain hsource.keys_nodup hotherSet, htree]

end Config

/-- The results are the same, or both times some value cannot be read. -/
inductive LoadsAlike {α : Type} : Except ConfigFault α → Except ConfigFault α → Prop
  | same (result : Except ConfigFault α) : LoadsAlike result result
  | unreadable (error other : ReadError) :
      LoadsAlike (.error (.read error)) (.error (.read other))

/-- Readings that give the same are loaded alike. -/
theorem LoadsAlike.of_readings {α : Type} {reading other : Reading α}
    (hsame : ∀ result, reading = .ok result ↔ other = .ok result) :
    LoadsAlike (reading.mapError ConfigFault.read) (other.mapError .read) := by
  cases reading with
  | ok result =>
      rw [(hsame result).mp rfl]
      exact .same _
  | error error =>
      obtain ⟨otherError, rfl⟩ := (exists_error_congr hsame).mp ⟨error, rfl⟩
      exact .unreadable error otherError

namespace Settings

variable {entries others : List (String × Value)} {environment : Environment}

/-- Settings that are read in one order are read in every other one, from whatever has the same under
each key. -/
theorem read_entries_of_lookup {order other : Order} {settings : Settings}
    (hlookup : ∀ key, others.lookup key = entries.lookup key)
    (hread : readEntries order entries = .ok settings) : readEntries other others = .ok settings := by
  have hfield : ∀ {α : Type} name (read : Reader α),
      (∀ first second value, read first value = read second value) →
      (Record.keyed others).field? other name read =
        (Record.keyed entries).field? order name read := by
    intro α name read hignores
    rw [Record.field?, Record.field?, hlookup]
    cases entries.lookup name with
    | none => rfl
    | some value =>
        dsimp only
        rw [hignores]
  -- A text and a truth value have no keys, so the order only decides which fault comes first.
  have htext : ∀ first second value,
      readOptional readString first value = readOptional readString second value := by
    intro first second value
    cases value <;> rfl
  have htruth : ∀ first second value, readBoolean first value = readBoolean second value := by
    intro first second value
    cases value with
    | scalar origin scalar => cases scalar <;> rfl
    | nil | array | table => rfl
  rw [readEntries] at hread ⊢
  simp only [hfield _ _ htext, hfield _ _ htruth]
  obtain ⟨visited, hvisited, hfields⟩ := bind_eq_ok_iff.mp hread
  exact bind_eq_ok_iff.mpr ⟨(), visit_eq_ok_iff.mpr (visit_eq_ok_iff.mp hvisited), hfields⟩

/-- Each key has one latest value. -/
theorem latest_keys_nodup (entries : List (String × Value)) :
    ((latest entries).map Prod.fst).Nodup := by
  induction entries using List.reverseRecOn with
  | nil => exact List.nodup_nil
  | append_singleton entries entry ih =>
      rw [latest, List.foldl_append, ← latest]
      show ((changeEntry _ entry.1 (latest entries)).map Prod.fst).Nodup
      rw [keys_change_entry]
      split
      · exact ih
      next hnew => exact List.nodup_append_comm.mp (List.nodup_cons.mpr ⟨hnew, ih⟩)

/-- A plain settings file has the same fault on all hosts, or gives configurations with the same under
each key. -/
theorem of_file_on_hosts {file : Option (Format × String)}
    (hplain : ∀ format text source, file = some (format, text) →
      format.read (.file format.settingsPath) text = .ok source → IsPlainSource source)
    (host other : Host) :
    (∃ fault, ofFile host file = .error fault ∧ ofFile other file = .error fault) ∨
      ∃ config otherConfig, ofFile host file = .ok config ∧ ofFile other file = .ok otherConfig ∧
        ∀ key, otherConfig.entries.lookup key = config.entries.lookup key := by
  cases file with
  | none => exact .inr ⟨_, _, rfl, rfl, fun _ => rfl⟩
  | some named =>
      obtain ⟨format, text⟩ := named
      rw [ofFile, ofFile]
      cases hread : format.read (.file format.settingsPath) text with
      | error fault => exact .inl ⟨_, rfl, rfl⟩
      | ok source =>
          obtain ⟨config, otherConfig, hset, hotherSet, hlookup⟩ :=
            (hplain format text source rfl hread).exists_configs (fun _ => rfl) host other
              (.file format.settingsPath)
          dsimp only [bind, Except.bind, Except.mapError]
          rw [hset, hotherSet]
          exact .inr ⟨config, otherConfig, rfl, rfl, hlookup⟩

/-- Settings from plain sources are loaded alike on all hosts. -/
theorem of_sources_on_hosts {file : Option (Format × String)}
    (hfile : ∀ format text source, file = some (format, text) →
      format.read (.file format.settingsPath) text = .ok source → IsPlainSource source)
    (henvironment : ∀ source, environmentSource environment = .ok source →
      ∀ entry ∈ source, IsPlainKey entry.1) (host other : Host) :
    LoadsAlike (ofSources host file environment) (ofSources other file environment) := by
  rw [ofSources, ofSources]
  rcases of_file_on_hosts hfile host other with
    ⟨fault, hfault, hotherFault⟩ | ⟨config, otherConfig, hconfig, hotherConfig, hlookup⟩
  · rw [hfault, hotherFault]
    exact .same _
  rw [hconfig, hotherConfig]
  cases hsource : environmentSource environment with
  | error fault => exact .same _
  | ok source =>
      have hnodup : (source.map Prod.fst).Nodup := by
        obtain ⟨entries, -, ⟨⟩⟩ := bind_eq_ok_iff.mp hsource
        exact latest_keys_nodup entries
      obtain ⟨layers, otherLayers, hset, hotherSet, hsame⟩ :=
        IsPlainSource.exists_configs ⟨henvironment source hsource, hnodup⟩ hlookup host other
          .environment
      dsimp only [bind, Except.bind]
      rw [hset, hotherSet]
      exact .of_readings fun settings =>
        ⟨read_entries_of_lookup hsame, read_entries_of_lookup fun key => (hsame key).symm⟩

end Settings

/-- A definition without paths is loaded alike on all hosts. -/
theorem DashboardDefinition.parse_on_hosts {text : String}
    (hplain : ∀ source, ofToml .memory text = .ok source → ∀ entry ∈ source, IsPlainKey entry.1)
    (host other : Host) : LoadsAlike (parse host text) (parse other text) := by
  cases hsource : ofToml .memory text with
  | error fault =>
      have hfault : ∀ host, parse host text = .error (.parse fault .memory) := by
        intro host
        rw [parse, hsource]
        rfl
      rw [hfault, hfault]
      exact .same _
  | ok source =>
      have hkeys := hplain source hsource
      rw [parse_of_plain_source hsource hkeys, parse_of_plain_source hsource hkeys]
      exact .of_readings fun definition =>
        read_entries_eq_ok_iff.trans read_entries_eq_ok_iff.symm

/-! ## Runs in another order -/

/-- The platform with other hosts for the configurations of a run. -/
def Platform.onHosts (platform : Platform) (settingsHost definitionHost : Host) : Platform :=
  { platform with settingsHost, definitionHost }

/-- The failures are the same, or they report values of the same file or of the settings that cannot
be read. -/
inductive Failure.SameButValue : Failure → Failure → Prop
  | same (failure : Failure) : SameButValue failure failure
  | settings (error other : ReadError) :
      SameButValue (.settings (.read error)) (.settings (.read other))
  | definition (path : String) (error other : ReadError) :
      SameButValue (.definition (.invalid path (.read error)))
        (.definition (.invalid path (.read other)))

namespace Machine

variable {World : Type}

/-- The machine with other hosts for the configurations of a run. -/
def onHosts (machine : Machine World) (settingsHost definitionHost : Host) : Machine World :=
  { machine with toPlatform := machine.toPlatform.onHosts settingsHost definitionHost }

/-- No top-level key is a path: none in the settings file, none that the environment gives a value to,
and none in the definition that the settings ask for. -/
structure PlainInputs (machine : Machine World) (world : World) (environment : Environment) :
    Prop where
  file : ∀ format text source, machine.settingsFile world = some (format, text) →
    format.read (.file format.settingsPath) text = .ok source → IsPlainSource source
  variables_plain : ∀ source, Settings.environmentSource environment = .ok source →
    ∀ entry ∈ source, IsPlainKey entry.1
  definition : ∀ settings path content text source,
    machine.settings world environment = .ok settings → settings.definitionPath = some path →
    machine.read world path = .ok content → Text.decodeUtf8? content = some text →
    ofToml .memory text = .ok source → ∀ entry ∈ source, IsPlainKey entry.1

/-- Two ends of a run that are the same but for the value that a failure reports. -/
structure EndsAlike (run other : Outcome × World) : Prop where
  output_eq : other.1.output = run.1.output
  events_eq : other.1.events = run.1.events
  failure : Option.Rel Failure.SameButValue run.1.failure other.1.failure
  world_eq : other.2 = run.2

/-- A run ends like itself. -/
theorem EndsAlike.refl (run : Outcome × World) : EndsAlike run run where
  output_eq := rfl
  events_eq := rfl
  failure := by
    cases run.1.failure with
    | none => exact .none
    | some failure => exact .some (.same failure)
  world_eq := rfl

/-- Runs that end alike have the same exit code. -/
theorem EndsAlike.exit_code_eq {run other : Outcome × World} (halike : EndsAlike run other) :
    other.1.exitCode = run.1.exitCode := by
  have hfailure := halike.failure
  rw [Outcome.exitCode, Outcome.exitCode]
  cases hrun : run.1.failure with
  | none =>
      rw [hrun] at hfailure
      cases hother : other.1.failure with
      | none => rfl
      | some otherFailure => rw [hother] at hfailure; cases hfailure
  | some failure =>
      rw [hrun] at hfailure
      cases hother : other.1.failure with
      | none => rw [hother] at hfailure; cases hfailure
      | some otherFailure =>
          rw [hother] at hfailure
          cases hfailure with
          | some hsame => cases hsame <;> rfl

/-- A run that ends like one that does not fail ends just the same. -/
theorem EndsAlike.eq_of_exit {run other : Outcome × World} (halike : EndsAlike run other)
    (hexit : run.1.exitCode = 0) : other = run := by
  obtain ⟨⟨output, events, failure⟩, world⟩ := run
  obtain ⟨⟨otherOutput, otherEvents, otherFailure⟩, otherWorld⟩ := other
  obtain ⟨rfl, rfl, hfailure, rfl⟩ := halike
  obtain rfl : failure = none := Outcome.exit_code_eq_zero_iff.mp hexit
  cases hfailure
  rfl

variable {machine : Machine World} {world : World} {environment : Environment}

/-- The file of a definition without paths holds the same definition for all hosts, or one that none
of them can read. -/
theorem definition_on_hosts {path : String}
    (hplain : ∀ content text source, machine.read world path = .ok content →
      Text.decodeUtf8? content = some text → ofToml .memory text = .ok source →
      ∀ entry ∈ source, IsPlainKey entry.1) (settingsHost definitionHost : Host) :
    (machine.onHosts settingsHost definitionHost).definition world path =
        machine.definition world path ∨
      ∃ error other, machine.definition world path = .error (.invalid path (.read error)) ∧
        (machine.onHosts settingsHost definitionHost).definition world path =
          .error (.invalid path (.read other)) := by
  rw [definition, definition,
    show (machine.onHosts settingsHost definitionHost).read world path = machine.read world path
      from rfl]
  cases hread : machine.read world path with
  | error fault => exact .inl rfl
  | ok content =>
  dsimp only
  cases htext : Text.decodeUtf8? content with
  | none => exact .inl rfl
  | some text =>
      dsimp only
      have halike := DashboardDefinition.parse_on_hosts
        (fun source => hplain content text source hread htext) machine.definitionHost definitionHost
      rw [show (machine.onHosts settingsHost definitionHost).definitionHost = definitionHost
        from rfl]
      generalize DashboardDefinition.parse machine.definitionHost text = result at halike
      generalize DashboardDefinition.parse definitionHost text = otherResult at halike
      cases halike with
      | same result => exact .inl rfl
      | unreadable error other => exact .inr ⟨error, other, rfl, rfl⟩

/-- A run on plain inputs ends alike on all hosts, whatever the order in which they visit keys: with
the same output, events and exit code and the same world, and with the same failure but for which of
several values that cannot be read is reported. -/
theorem run_on_hosts (hplain : machine.PlainInputs world environment)
    (settingsHost definitionHost : Host) :
    EndsAlike (machine.run world environment)
      ((machine.onHosts settingsHost definitionHost).run world environment) := by
  have hloaded : LoadsAlike (machine.settings world environment)
      ((machine.onHosts settingsHost definitionHost).settings world environment) := by
    rw [settings_eq, settings_eq]
    exact Settings.of_sources_on_hosts hplain.file hplain.variables_plain _ settingsHost
  rw [run_eq, run_eq]
  generalize hsettings : machine.settings world environment = loaded at hloaded
  generalize (machine.onHosts settingsHost definitionHost).settings world environment =
    otherLoaded at hloaded
  cases hloaded with
  | unreadable error other => exact ⟨rfl, rfl, .some (.settings error other), rfl⟩
  | same =>
  cases loaded with
  | error fault => exact .refl _
  | ok settings =>
  dsimp only
  rw [made_eq, made_eq]
  cases hpath : settings.definitionPath with
  | none => exact .refl _
  | some path =>
      dsimp only
      have hkeys := fun content text source =>
        hplain.definition settings path content text source hsettings hpath
      rcases definition_on_hosts hkeys settingsHost definitionHost with
        hsame | ⟨error, other, herror, hotherError⟩
      · rw [hsame]
        exact .refl _
      · rw [herror, hotherError]
        exact ⟨rfl, rfl, .some (.definition path error other), rfl⟩

end Machine

/-- The host that visits short keys before long ones. -/
def Config.Host.shortestFirst : Host :=
  { Host.listed with sourceRank _ key := key.length, order := ⟨fun _ key => key.length⟩ }

/-- Where a key is a path the order matters: of the list of rows and a path into it, the one that is
set last counts. -/
example :
    let text := "title='T'\n'rows[0].panels'=[]\nrows=[]"
    (DashboardDefinition.parse .listed text).map (·.rows.length) = .ok 0 ∧
      (DashboardDefinition.parse .shortestFirst text).map (·.rows.length) = .ok 1 := by
  decide +kernel

end DashboardGenerator
