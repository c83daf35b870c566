import DashboardGenerator.Proofs.Generator.Stages
import DashboardGenerator.Proofs.Result

/-!
# A run as functions of its world

The settings file, the definition in a file, the dashboard that settings ask for and its document, each
as a function or relation of the world that a run starts from. The stages of a run compute just
these (`settings_eq`, `made_eq_ok_iff`, `made_eq_error_iff`), so a run that gets as far
as a valid dashboard delivers that dashboard's document (`run_of_valid`).
-/

namespace DashboardGenerator

/-- The document of a dashboard under the external identifier and in the layout of the settings. -/
def Settings.document (settings : Settings) (dashboard : Dashboard) : String :=
  Grafana.render (dashboard.withUid settings.uid) settings.pretty

namespace Machine

variable {World : Type}

section

variable (machine : Machine World) (world : World)

/-- The format of the settings file that counts: the first one that there is a file in, unless
another file hides all of them. -/
def settingsFormat? : Option Config.Format :=
  if machine.isFile world Settings.location then none
  else machine.formats.find? fun format => machine.isFile world format.settingsPath

/-- The format and the text of the settings file, if there is one that counts and can be read. -/
def settingsFile : Option (Config.Format × String) :=
  match machine.settingsFormat? world with
  | none => none
  | some format =>
    match machine.read world format.settingsPath with
    | .ok content =>
      some (format, String.ofList (Toml.skipByteOrderMark (Text.decodeUtf8Lossy content).toList))
    | .error _ => none

/-- The definition in a file. -/
def definition (path : String) : Except DefinitionFault DashboardDefinition :=
  match machine.read world path with
  | .error fault => .error (.unreadable path fault)
  | .ok content =>
    match Text.decodeUtf8? content with
    | none => .error (.unreadable path .notText)
    | some text =>
      (DashboardDefinition.parse machine.definitionHost text).mapError (.invalid path)

/-- The settings ask for a dashboard: for the built-in one, or for the one that the text of their
definition file describes. -/
inductive Asks (settings : Settings) : Dashboard → Prop
  | builtIn (hpath : settings.definitionPath = none) : Asks settings Dashboard.services
  | defined {path : String} {content : List UInt8} {text : String}
      {definition : DashboardDefinition} (hpath : settings.definitionPath = some path)
      (hread : machine.read world path = .ok content) (htext : Text.decodeUtf8? content = some text)
      (hparse : DashboardDefinition.parse machine.definitionHost text = .ok definition) :
      Asks settings definition.build

/-- A run finds the first format that there is a file in. -/
theorem find_format_eq (formats : List Config.Format) :
    ((findFormat machine.access formats).run world).1 =
      formats.find? fun format => machine.isFile world format.settingsPath := by
  induction formats with
  | nil => rfl
  | cons format formats ih =>
      rw [findFormat, (ReadsOnly.of_is_file machine _).run_bind, ← isFile, List.find?_cons]
      cases machine.isFile world format.settingsPath with
      | true => rfl
      | false => exact ih

/-- A run takes the text of a settings file from its bytes, if it can read them. -/
theorem settings_text_eq (path : String) :
    ((settingsText machine.access path).run world).1 =
      match machine.read world path with
      | .ok content =>
        some (String.ofList (Toml.skipByteOrderMark (Text.decodeUtf8Lossy content).toList))
      | .error _ => none := by
  rw [settingsText, (ReadsOnly.of_read machine _).run_bind, ← read]
  cases machine.read world path <;> rfl

/-- A run reads the settings file that counts. -/
theorem settings_file_eq :
    ((DashboardGenerator.settingsFile machine.toPlatform machine.access).run world).1 =
      machine.settingsFile world := by
  rw [DashboardGenerator.settingsFile, (ReadsOnly.of_is_file machine _).run_bind, ← isFile,
    settingsFile, settingsFormat?]
  cases machine.isFile world Settings.location with
  | true => rfl
  | false =>
      rw [if_neg Bool.false_ne_true, if_neg Bool.false_ne_true,
        (ReadsOnly.of_find_format machine _).run_bind, find_format_eq]
      cases machine.formats.find? fun format => machine.isFile world format.settingsPath with
      | none => rfl
      | some format =>
          dsimp only
          rw [(ReadsOnly.of_settings_text machine _).run_bind, settings_text_eq]
          cases machine.read world format.settingsPath <;> rfl

/-- The settings of a run are made from the settings file and the environment. -/
theorem settings_eq (environment : Environment) :
    machine.settings world environment =
      Settings.ofSources machine.settingsHost (machine.settingsFile world) environment := by
  rw [settings, loadSettings, (ReadsOnly.of_settings_file machine).run_bind, settings_file_eq]
  rfl

/-- A run loads the definition in a file. -/
theorem definition_eq (path : String) :
    ((loadDefinition machine.toPlatform machine.access path).run world).1 =
      machine.definition world path := by
  rw [loadDefinition, (ReadsOnly.of_read machine path).run_bind, ← read, definition]
  cases machine.read world path with
  | error fault => rfl
  | ok content =>
      dsimp only
      cases Text.decodeUtf8? content <;> rfl

end

variable {machine : Machine World} {world : World} {settings : Settings}

/-- A file holds the definition that its bytes spell. -/
theorem definition_eq_ok_iff {path : String} {definition : DashboardDefinition} :
    machine.definition world path = .ok definition ↔
      ∃ content text, machine.read world path = .ok content ∧ Text.decodeUtf8? content = some text ∧
        DashboardDefinition.parse machine.definitionHost text = .ok definition := by
  rw [Machine.definition]
  cases machine.read world path with
  | error fault => simp
  | ok content => cases htext : Text.decodeUtf8? content <;> simp [htext, mapError_eq_ok_iff]

/-- The event of a definition file that is going to be read. -/
def reading (path : String) : Log.Event :=
  programEvent .info ("Building dashboard from " ++ path)

/-- A run makes the built-in dashboard, or the one that is built from the definition in a file. -/
theorem made_eq (machine : Machine World) (world : World) (settings : Settings) :
    machine.made world settings =
      match settings.definitionPath with
      | none => ([], .ok Dashboard.services)
      | some path =>
        match machine.definition world path with
        | .error fault => ([reading path], .error fault)
        | .ok definition => ([reading path, builtEvent definition.build], .ok definition.build) := by
  rw [made, makeDashboard]
  cases settings.definitionPath with
  | none => rfl
  | some path =>
      dsimp only
      rw [(ReadsOnly.of_load_definition machine path).run_bind, definition_eq]
      cases machine.definition world path <;> rfl

/-- The dashboard that a run makes. -/
theorem made_snd (machine : Machine World) (world : World) (settings : Settings) :
    (machine.made world settings).2 =
      match settings.definitionPath with
      | none => .ok Dashboard.services
      | some path => (machine.definition world path).map DashboardDefinition.build := by
  rw [made_eq]
  cases settings.definitionPath with
  | none => rfl
  | some path => cases hdefinition : machine.definition world path <;> simp [hdefinition, Except.map]

/-- A run makes the dashboard that the settings ask for. -/
theorem made_eq_ok_iff {dashboard : Dashboard} :
    (machine.made world settings).2 = .ok dashboard ↔ machine.Asks world settings dashboard := by
  rw [made_snd]
  constructor
  · intro hmade
    cases hpath : settings.definitionPath with
    | none =>
        rw [hpath] at hmade
        cases hmade
        exact .builtIn hpath
    | some path =>
        rw [hpath] at hmade
        dsimp only at hmade
        cases hdefinition : machine.definition world path with
        | error fault => rw [hdefinition] at hmade; cases hmade
        | ok definition =>
            rw [hdefinition] at hmade
            cases hmade
            obtain ⟨content, text, hread, htext, hparse⟩ := definition_eq_ok_iff.mp hdefinition
            exact .defined hpath hread htext hparse
  · rintro (hpath | ⟨hpath, hread, htext, hparse⟩)
    · rw [hpath]
    · rw [hpath]
      dsimp only
      rw [definition_eq_ok_iff.mpr ⟨_, _, hread, htext, hparse⟩]
      rfl

/-- Settings ask for one dashboard. -/
theorem Asks.unique {dashboard other : Dashboard} (hasks : machine.Asks world settings dashboard)
    (hother : machine.Asks world settings other) : dashboard = other :=
  Except.ok.inj ((made_eq_ok_iff.mpr hasks).symm.trans (made_eq_ok_iff.mpr hother))

/-- A run makes no dashboard exactly if the settings name a file without a definition. -/
theorem made_eq_error_iff {fault : DefinitionFault} :
    (machine.made world settings).2 = .error fault ↔
      ∃ path, settings.definitionPath = some path ∧ machine.definition world path = .error fault := by
  rw [made_snd]
  cases settings.definitionPath with
  | none => simp
  | some path => cases hdefinition : machine.definition world path <;> simp [Except.map, hdefinition]

/-- A run that gets as far as a valid dashboard prints its document, or writes it to the file that
the settings name. -/
theorem run_of_valid {environment : Environment} {dashboard : Dashboard}
    (hsettings : machine.settings world environment = .ok settings)
    (hasks : machine.Asks world settings dashboard)
    (hvalid : (dashboard.withUid settings.uid).validate = .ok ()) :
    ∃ events, machine.run world environment =
      match settings.outputPath with
      | none => (⟨settings.document dashboard ++ "\n", events, none⟩, world)
      | some path =>
        match machine.write world path (Text.encodeUtf8 (settings.document dashboard)) with
        | .error fault => (⟨"", events, some (.output path fault)⟩, world)
        | .ok after =>
          (⟨"", events ++ [receipt (dashboard.withUid settings.uid) path], none⟩, after) := by
  have hmade := made_eq_ok_iff.mpr hasks
  refine ⟨(machine.made world settings).1, ?_⟩
  rw [run_eq, hsettings]
  rcases hpair : machine.made world settings with ⟨events, result⟩
  rw [hpair] at hmade
  obtain rfl : result = .ok dashboard := hmade
  dsimp only
  rw [hpair]
  dsimp only
  rw [hvalid]
  exact deliver_eq ..

end Machine

end DashboardGenerator
