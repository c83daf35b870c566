import DashboardGenerator.Proofs.Config.Fields
import DashboardGenerator.Proofs.Config.Host
import DashboardGenerator.Proofs.Config.Scalars
import DashboardGenerator.Proofs.Files
import DashboardGenerator.Proofs.Generator.Environment
import DashboardGenerator.Proofs.Generator.Failure

/-!
# Precedence of settings

Each setting is decided by one value: that of its variable in the environment if this is set, and else
that of its key in the settings file (`Settings.winner?`). All other keys and variables, what stood
below the winning value and the order in which keys are visited have no say (`lookup_layers`,
`Files.settings_by_field`).
-/

namespace DashboardGenerator

open Config

namespace Settings

/-- The value that decides a field: that of its variable, and else that of its key in the settings
file. -/
def winner? (source : List (String × Value)) (environment : List (String × String))
    (field : String) : Option Value :=
  match variableValue? environment field with
  | some text => some (.scalar .environment (.string text))
  | none => source.lookup field

variable {source : List (String × Value)} {environment : List (String × String)}

/-- Under each key stands the value that decides it, after both sources were set on a host. -/
theorem lookup_layers (hkeys : ∀ entry ∈ source, IsPlainKey entry.1)
    (hnodup : (source.map Prod.fst).Nodup) (hvariables : PlainVariables environment) {host : Host}
    {origin : Origin} {config layers : Value}
    (hconfig : host.set origin (.table []) source = .ok config)
    (hlayers : host.set .environment config (textSource environment) = .ok layers) (key : String) :
    layers.entries.lookup key = (winner? source environment key).map Value.nil.merge := by
  rw [Host.lookup_set_of_plain (text_source_plain hvariables.plain) (text_source_nodup hvariables)
    hlayers, lookup_text_source hvariables.plain, Host.lookup_set_of_plain hkeys hnodup hconfig,
    winner?]
  cases variableValue? environment key with
  | some text => rfl
  | none => cases source.lookup key <;> rfl

/-- What decides a key is not without a value, if nothing in the settings file is. -/
theorem winner_ne_nil (hvalues : ∀ entry ∈ source, entry.2 ≠ .nil)
    (environment : List (String × String)) (field : String) :
    winner? source environment field ≠ some .nil := by
  intro hwinner
  rw [winner?] at hwinner
  split at hwinner
  · cases hwinner
  · obtain ⟨before, after, rfl, -⟩ := List.lookup_eq_some_iff.mp hwinner
    exact hvalues (field, .nil) (by simp) rfl

/-- Each setting is read from the value under its key. -/
theorem read_entries_eq_ok_iff {order : Order} {entries : List (String × Value)}
    (hvalues : ∀ key, entries.lookup key ≠ some .nil) {settings : Settings} :
    readEntries order entries = .ok settings ↔
      Option.Rel GivesText (entries.lookup "uid") settings.uid ∧
      Option.Rel GivesText (entries.lookup "definition_path") settings.definitionPath ∧
      Option.Rel GivesText (entries.lookup "output_path") settings.outputPath ∧
      ∃ pretty, Option.Rel GivesTruth (entries.lookup "pretty") pretty ∧
        settings.pretty = pretty.getD true := by
  have htext : ∀ name result, Option.Rel GivesText (entries.lookup name) result ↔
      ∃ found, (Record.keyed entries).field? order name (readOptional readString) = .ok found ∧
        found.join = result := by
    intro name result
    rw [optional_field_eq_ok_iff (hvalues name)]
    simp only [read_string_eq_ok_iff]
  have htruth : ∀ result, Option.Rel GivesTruth (entries.lookup "pretty") result ↔
      (Record.keyed entries).field? order "pretty" readBoolean = .ok result := by
    intro result
    rw [field_eq_ok_iff]
    simp only [read_boolean_eq_ok_iff]
  simp only [htext, htruth, readEntries, bind_eq_ok_iff]
  constructor
  · rintro ⟨-, -, uid, huid, definitionPath, hdefinition, outputPath, houtput, pretty, hpretty, ⟨⟩⟩
    exact ⟨⟨uid, huid, rfl⟩, ⟨definitionPath, hdefinition, rfl⟩, ⟨outputPath, houtput, rfl⟩,
      pretty, hpretty, rfl⟩
  · rintro ⟨⟨uid, huid, huidEq⟩, ⟨definitionPath, hdefinition, hdefinitionEq⟩,
      ⟨outputPath, houtput, houtputEq⟩, pretty, hpretty, hprettyEq⟩
    refine ⟨(), visit_eq_ok_iff.mpr ?_, uid, huid, definitionPath, hdefinition, outputPath, houtput,
      pretty, hpretty, ?_⟩
    · simp [huid, hdefinition, houtput, hpretty, fault?]
    · rw [huidEq, hdefinitionEq, houtputEq, ← hprettyEq]
      rfl

end Settings

namespace Files

/-- The settings file in TOML is missing, or it is valid with these values under its top-level keys. -/
inductive SettingsFile (files : Files) : List (String × Value) → Prop
  | missing (hfile : files.isFile Format.toml.settingsPath = false) : SettingsFile files []
  | present {content : List UInt8} {source : List (String × Value)}
      (hread : files.read Format.toml.settingsPath = .ok content)
      (hsource : ofToml (.file Format.toml.settingsPath) (String.ofList
        (Toml.skipByteOrderMark (Text.decodeUtf8Lossy content).toList)) = .ok source) :
      SettingsFile files source

/-- There is no settings file in another format, and none that hides all others. -/
structure NoOtherSettings (files : Files) (platform : Platform) : Prop where
  location : files.isFile Settings.location = false
  formats : ∀ format ∈ platform.earlierFormats ++ platform.laterFormats,
    files.isFile format.settingsPath = false

variable {platform : Platform} {files : Files} {source : List (String × Value)}
  {environment : List (String × String)}

/-- The keys of the settings file are distinct. -/
theorem SettingsFile.keys_nodup (hfile : files.SettingsFile source) :
    (source.map Prod.fst).Nodup := by
  cases hfile with
  | missing => exact List.nodup_nil
  | present hread hsource => exact of_toml_keys_nodup hsource

/-- No key of the settings file is without a value. -/
theorem SettingsFile.value_ne_nil (hfile : files.SettingsFile source) :
    ∀ entry ∈ source, entry.2 ≠ .nil := by
  cases hfile with
  | missing => simp
  | present hread hsource => exact of_toml_ne_nil hsource

/-- The settings file in TOML is the one that counts, if there is one. -/
theorem settings_format_eq (hothers : files.NoOtherSettings platform) :
    (machine platform).settingsFormat? files =
      if files.isFile Format.toml.settingsPath then some Format.toml else none := by
  have hnone : ∀ formats ⊆ platform.earlierFormats ++ platform.laterFormats,
      formats.find? (fun format => files.isFile format.settingsPath) = none :=
    fun formats hformats => List.find?_eq_none.mpr fun format hmem =>
      Bool.eq_false_iff.mp (hothers.formats format (hformats hmem))
  rw [Machine.settingsFormat?, machine_is_file, hothers.location, if_neg Bool.false_ne_true]
  show (platform.earlierFormats ++ Format.toml :: platform.laterFormats).find?
    (fun format => files.isFile format.settingsPath) = _
  rw [List.find?_append, hnone _ (List.subset_append_left ..), Option.none_or, List.find?_cons,
    hnone _ (List.subset_append_right ..)]
  cases files.isFile Format.toml.settingsPath <;> rfl

/-- The configuration of the settings file is its source, set over nothing. -/
theorem exists_config_of_file (hothers : files.NoOtherSettings platform)
    (hfile : files.SettingsFile source) (hkeys : ∀ entry ∈ source, IsPlainKey entry.1)
    (host : Host) :
    ∃ origin config, host.set origin (.table []) source = .ok config ∧
      Settings.ofFile host ((machine platform).settingsFile files) = .ok config := by
  rw [Machine.settingsFile, settings_format_eq hothers]
  cases hfile with
  | missing hmissing =>
      rw [hmissing]
      exact ⟨.memory, .table [], rfl, rfl⟩
  | present hread hsource =>
      have hset := Host.set_of_plain hkeys host (.file Format.toml.settingsPath) (.table [])
      refine ⟨_, _, hset, ?_⟩
      rw [is_file_of_read hread, if_pos rfl]
      dsimp only
      rw [machine_read, hread]
      dsimp only
      rw [Settings.ofFile, show Format.toml.read = ofToml from rfl, hsource]
      dsimp only [Except.mapError, bind, Except.bind]
      rw [hset]

/-- The settings are read from the layers of the settings file and the environment, and each key has
there what decides it. -/
theorem settings_of_layers (hothers : files.NoOtherSettings platform)
    (hfile : files.SettingsFile source) (hkeys : ∀ entry ∈ source, IsPlainKey entry.1)
    (hvariables : Settings.PlainVariables environment) :
    ∃ layers : Value, (machine platform).settings files (.ofTexts environment) =
        (Settings.readEntries platform.settingsHost.order layers.entries).mapError .read ∧
      ∀ key, layers.entries.lookup key =
        (Settings.winner? source environment key).map Value.nil.merge := by
  obtain ⟨origin, config, hconfig, hofFile⟩ :=
    exists_config_of_file hothers hfile hkeys platform.settingsHost
  have hlayers := Host.set_of_plain (Settings.text_source_plain hvariables.plain)
    platform.settingsHost .environment config
  refine ⟨_, ?_, Settings.lookup_layers hkeys hfile.keys_nodup hvariables hconfig hlayers⟩
  rw [Machine.settings_eq, Settings.ofSources,
    show (machine platform).settingsHost = platform.settingsHost from rfl, hofFile,
    Settings.environment_source_of_texts hvariables]
  dsimp only [bind, Except.bind]
  rw [hlayers]
  rfl

/-- The settings are those that their deciding values give. -/
theorem settings_eq_ok_iff (hothers : files.NoOtherSettings platform)
    (hfile : files.SettingsFile source) (hkeys : ∀ entry ∈ source, IsPlainKey entry.1)
    (hvariables : Settings.PlainVariables environment) {settings : Settings} :
    (machine platform).settings files (.ofTexts environment) = .ok settings ↔
      Option.Rel GivesText (Settings.winner? source environment "uid") settings.uid ∧
      Option.Rel GivesText (Settings.winner? source environment "definition_path")
        settings.definitionPath ∧
      Option.Rel GivesText (Settings.winner? source environment "output_path")
        settings.outputPath ∧
      ∃ pretty, Option.Rel GivesTruth (Settings.winner? source environment "pretty") pretty ∧
        settings.pretty = pretty.getD true := by
  obtain ⟨layers, hlayers, hlookup⟩ := settings_of_layers hothers hfile hkeys hvariables
  rw [hlayers, mapError_eq_ok_iff, Settings.read_entries_eq_ok_iff]
  · -- Tables stand in the layers in another form, which makes no text or truth value of them.
    simp only [hlookup, rel_map_merge gives_text_merge, rel_map_merge gives_truth_merge]
  · intro key hnil
    rw [hlookup, Option.map_eq_some_iff] at hnil
    obtain ⟨value, hwinner, hmerged⟩ := hnil
    refine merge_ne_nil ?_ hmerged
    rintro rfl
    exact Settings.winner_ne_nil hfile.value_ne_nil environment key hwinner

/-- Loading the settings fails exactly if a deciding value gives no text or no truth value where one
is needed. -/
theorem settings_eq_error_iff (hothers : files.NoOtherSettings platform)
    (hfile : files.SettingsFile source) (hkeys : ∀ entry ∈ source, IsPlainKey entry.1)
    (hvariables : Settings.PlainVariables environment) :
    (∃ fault, (machine platform).settings files (.ofTexts environment) = .error fault) ↔
      (∃ field ∈ ["uid", "definition_path", "output_path"], ∃ value,
        Settings.winner? source environment field = some value ∧ ∀ text, ¬GivesText value text) ∨
      ∃ value, Settings.winner? source environment "pretty" = some value ∧
        ∀ truth, ¬GivesTruth value truth := by
  have hload {settings} := @settings_eq_ok_iff _ _ _ _ hothers hfile hkeys hvariables settings
  constructor
  · rintro ⟨fault, hfault⟩
    by_contra hnone
    push Not at hnone
    obtain ⟨htexts, htruth⟩ := hnone
    -- All deciding values can be read, so they make settings.
    obtain ⟨uid, huid⟩ := exists_rel_iff.mpr (htexts "uid" (by decide))
    obtain ⟨definitionPath, hdefinition⟩ :=
      exists_rel_iff.mpr (htexts "definition_path" (by decide))
    obtain ⟨outputPath, houtput⟩ := exists_rel_iff.mpr (htexts "output_path" (by decide))
    obtain ⟨pretty, hpretty⟩ := exists_rel_iff.mpr htruth
    have hsettings : (machine platform).settings files (.ofTexts environment) =
        .ok ⟨uid, definitionPath, outputPath, pretty.getD true⟩ :=
      hload.mpr ⟨huid, hdefinition, houtput, pretty, hpretty, rfl⟩
    cases hfault.symm.trans hsettings
  · intro hunreadable
    cases hsettings : (machine platform).settings files (.ofTexts environment) with
    | error fault => exact ⟨fault, rfl⟩
    | ok settings =>
        obtain ⟨huid, hdefinition, houtput, pretty, hpretty, -⟩ := hload.mp hsettings
        rcases hunreadable with ⟨field, hfield, value, hwinner, hnone⟩ | ⟨value, hwinner, hnone⟩
        · have hread : ∃ result,
              Option.Rel GivesText (Settings.winner? source environment field) result := by
            simp only [List.mem_cons, List.not_mem_nil, or_false] at hfield
            rcases hfield with rfl | rfl | rfl
            · exact ⟨_, huid⟩
            · exact ⟨_, hdefinition⟩
            · exact ⟨_, houtput⟩
          obtain ⟨text, htext⟩ := exists_rel_iff.mp hread value hwinner
          exact absurd htext (hnone text)
        · obtain ⟨truth, htruth⟩ := exists_rel_iff.mp ⟨pretty, hpretty⟩ value hwinner
          exact absurd htruth (hnone truth)

/-- On every platform each of the four settings is decided by the value of its variable if this is
set, whatever stands in the settings file, and else by that of its key there; if it has neither, the
texts are missing and the document is indented. Nothing else in the file or in the environment has a
say. Loading the settings fails exactly if a deciding value cannot be read as what its field needs. -/
theorem settings_by_field (hothers : files.NoOtherSettings platform)
    (hfile : files.SettingsFile source) (hkeys : ∀ entry ∈ source, IsPlainKey entry.1)
    (hvariables : Settings.PlainVariables environment) :
    (∀ settings, (machine platform).settings files (.ofTexts environment) = .ok settings ↔
      Option.Rel GivesText (Settings.winner? source environment "uid") settings.uid ∧
      Option.Rel GivesText (Settings.winner? source environment "definition_path")
        settings.definitionPath ∧
      Option.Rel GivesText (Settings.winner? source environment "output_path")
        settings.outputPath ∧
      ∃ pretty, Option.Rel GivesTruth (Settings.winner? source environment "pretty") pretty ∧
        settings.pretty = pretty.getD true) ∧
    ((∃ fault, (machine platform).settings files (.ofTexts environment) = .error fault) ↔
      (∃ field ∈ ["uid", "definition_path", "output_path"], ∃ value,
        Settings.winner? source environment field = some value ∧ ∀ text, ¬GivesText value text) ∨
      ∃ value, Settings.winner? source environment "pretty" = some value ∧
        ∀ truth, ¬GivesTruth value truth) :=
  ⟨fun _ => settings_eq_ok_iff hothers hfile hkeys hvariables,
    settings_eq_error_iff hothers hfile hkeys hvariables⟩

/-- Settings with a table where a text is needed, a number and a word that can be read, and an unknown
key. -/
def overriddenText : String := "uid.team='core'\noutput_path=5\npretty='No'\ncolour=[1]"

/-- A settings file with this text. -/
def overriddenFiles : Files where
  entries := [(["config"], .directory),
    (["config", "generator.toml"], .file (Text.encodeUtf8 overriddenText))]
  current := []

/-- An empty text in place of the table, and variables of no setting. -/
def overridingEnvironment : List (String × String) :=
  [("Dashboard_uiD", ""), ("DASHBOARD_COLOUR", "red"), ("HOME", "/")]

/-- The empty text takes the place of the table, and the other settings come from the file; without
the variable the table is what fails. That another format is looked for makes no difference. -/
theorem settings_by_field_overridden :
    overriddenFiles.NoOtherSettings .withObjects ∧
    Settings.PlainVariables overridingEnvironment ∧
    ∃ source, overriddenFiles.SettingsFile source ∧ (∀ entry ∈ source, IsPlainKey entry.1) ∧
      (machine .withObjects).settings overriddenFiles (.ofTexts overridingEnvironment) =
        .ok ⟨some "", none, some "5", false⟩ ∧
      Option.Rel GivesText (Settings.winner? source overridingEnvironment "uid") (some "") ∧
      Option.Rel GivesText (Settings.winner? source overridingEnvironment "output_path")
        (some "5") ∧
      ∃ fault, (machine .withObjects).settings overriddenFiles (.ofTexts []) = .error fault := by
  have hothers : overriddenFiles.NoOtherSettings .withObjects :=
    ⟨by decide +kernel, List.forall_mem_singleton.mpr (by decide +kernel)⟩
  have hvariables : Settings.PlainVariables overridingEnvironment := by decide +kernel
  have hread : overriddenFiles.read Format.toml.settingsPath =
      .ok (Text.encodeUtf8 overriddenText) := by decide +kernel
  have hsettings : (machine .withObjects).settings overriddenFiles (.ofTexts overridingEnvironment) =
      .ok ⟨some "", none, some "5", false⟩ := by decide +kernel
  have hparsed : (ofToml (.file Format.toml.settingsPath) (String.ofList (Toml.skipByteOrderMark
      (Text.decodeUtf8Lossy (Text.encodeUtf8 overriddenText)).toList))).toOption.any fun source =>
        (∀ entry ∈ source, IsPlainKey entry.1) ∧
          (source.lookup "uid").map Value.found = some .map := by decide +kernel
  cases hsource : ofToml (.file Format.toml.settingsPath) (String.ofList (Toml.skipByteOrderMark
      (Text.decodeUtf8Lossy (Text.encodeUtf8 overriddenText)).toList)) with
  | error fault =>
      rw [hsource] at hparsed
      cases hparsed
  | ok source =>
      rw [hsource] at hparsed
      obtain ⟨hkeys, hfound⟩ := of_decide_eq_true hparsed
      have hfile : overriddenFiles.SettingsFile source := .present hread hsource
      obtain ⟨huid, -, houtput, -⟩ :=
        ((settings_by_field hothers hfile hkeys hvariables).1 _).mp hsettings
      refine ⟨hothers, hvariables, source, hfile, hkeys, hsettings, huid, houtput, ?_⟩
      obtain ⟨value, hlookup, htable⟩ := Option.map_eq_some_iff.mp hfound
      have hempty : Settings.PlainVariables [] := by decide
      refine (settings_by_field hothers hfile hkeys hempty).2.mpr
        (.inl ⟨"uid", by decide, value, hlookup, ?_⟩)
      rintro text ⟨origin, scalar⟩
      cases htable

end Files

end DashboardGenerator
