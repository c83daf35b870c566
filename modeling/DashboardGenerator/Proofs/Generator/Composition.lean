import DashboardGenerator.Proofs.Generator.DefinitionSchema
import DashboardGenerator.Proofs.Generator.Emission

/-!
# A run as the composition of its functions

Once its settings are loaded, a run emits the document of the dashboard that they ask for, on the one
channel that they choose: printed with a line break, or as the whole content of one file, with every
other file as it was (`run_composes`). So the document depends on the output path in no way, and it is
that of the pipeline in memory (`DashboardDefinition.generate`) on the text of the definition file.
Two runs may visit keys in different orders; then the definition has to be one that no order changes
the meaning of (`Host.ReadsAlike`).
-/

namespace DashboardGenerator

open Config

/-- The hosts read the same definition from a text: they are the same, or no top-level key of the text
is a path, so that the order in which its keys are set makes no difference. -/
def Config.Host.ReadsAlike (host other : Host) (text : String) : Prop :=
  host = other ∨
    ∃ source, ofToml .memory text = .ok source ∧ ∀ entry ∈ source, IsPlainKey entry.1

/-- Why a text gives no document. -/
inductive GenerationFault where
  | definition (fault : ConfigFault)
  | validation (error : DashboardError)
deriving Repr, DecidableEq

/-- The document that a text describes, all in memory: the definition is parsed, its dashboard is
built, given an external identifier and validated, and then rendered. -/
def DashboardDefinition.generate (host : Host) (text : String) (uid : Option String)
    (pretty : Bool) : Except GenerationFault String := do
  let definition ← (parse host text).mapError .definition
  let dashboard := definition.build.withUid uid
  dashboard.validate.mapError .validation
  return Grafana.render dashboard pretty

/-- A text gives a definition on a host if it does on one that reads it alike. -/
theorem DashboardDefinition.parse_of_reads_alike {host other : Host} {text : String}
    (halike : host.ReadsAlike other text) {definition : DashboardDefinition}
    (hparse : parse host text = .ok definition) : parse other text = .ok definition := by
  rcases halike with rfl | ⟨source, hsource, hplain⟩
  · exact hparse
  · rw [parse_of_plain_source hsource hplain, mapError_eq_ok_iff, read_entries_eq_ok_iff] at hparse ⊢
    exact hparse

namespace Files

/-- After a change, one place holds a file with the given bytes, and all else is as it was. -/
structure ChangesOnly (before after : Files) (place : List String) (content : List UInt8) :
    Prop where
  content_eq : after.entry? place = some (.file content)
  others_eq : ∀ other, other ≠ place → after.entry? other = before.entry? other
  current_eq : after.current = before.current

/-- Putting a file at a place changes only that place. -/
theorem changes_only_put {files : Files} {place : List String} (hplace : place ≠ [])
    (content : List UInt8) : files.ChangesOnly (files.put place content) place content :=
  ⟨entry_put hplace content, fun _ hne => entry_put_of_ne hne content, rfl⟩

variable {platform : Platform} {files : Files} {environment : Environment} {settings : Settings}
  {dashboard : Dashboard}

/-- A valid dashboard is printed if the settings name no file: its document and one line break, and
no file changes. -/
theorem run_of_no_output_path
    (hsettings : (machine platform).settings files environment = .ok settings)
    (hasks : (machine platform).Asks files settings dashboard)
    (hvalid : (dashboard.withUid settings.uid).validate = .ok ())
    (hpath : settings.outputPath = none) :
    ((machine platform).run files environment).1.exitCode = 0 ∧
      ((machine platform).run files environment).1.output = settings.document dashboard ++ "\n" ∧
      ((machine platform).run files environment).2 = files := by
  obtain ⟨events, hrun⟩ := Machine.run_of_valid hsettings hasks hvalid
  rw [hrun, hpath]
  exact ⟨rfl, rfl, rfl⟩

/-- A valid dashboard is written if the settings name a file and one may be written there: nothing is
printed, the bytes of the document are all that the file holds, and nothing else changes. -/
theorem run_of_output_path (hsettings : (machine platform).settings files environment = .ok settings)
    (hasks : (machine platform).Asks files settings dashboard)
    (hvalid : (dashboard.withUid settings.uid).validate = .ok ()) {path : String}
    {place : List String} (hpath : settings.outputPath = some path)
    (hlocate : files.locateNew path = .ok place) :
    ((machine platform).run files environment).1.exitCode = 0 ∧
      ((machine platform).run files environment).1.output = "" ∧
      ((machine platform).run files environment).2.read path =
        .ok (Text.encodeUtf8 (settings.document dashboard)) ∧
      files.ChangesOnly ((machine platform).run files environment).2 place
        (Text.encodeUtf8 (settings.document dashboard)) := by
  obtain ⟨events, hrun⟩ := Machine.run_of_valid hsettings hasks hvalid
  have hwrite := write_eq_ok_iff.mpr
    ⟨place, hlocate, (rfl : files.put place (Text.encodeUtf8 (settings.document dashboard)) = _)⟩
  rw [hrun, hpath]
  dsimp only
  rw [machine_write, hwrite]
  exact ⟨rfl, rfl, read_write hwrite, changes_only_put (ne_nil_of_locate_new hlocate) _⟩

/-- What settings ask for depends on nothing but their definition file, as long as its text is read
alike. -/
theorem asks_congr {otherPlatform : Platform} {other : Files} {otherSettings : Settings}
    (hasks : (machine platform).Asks files settings dashboard)
    (hpath : otherSettings.definitionPath = settings.definitionPath)
    (hread : ∀ path, settings.definitionPath = some path → other.read path = files.read path)
    (halike : ∀ path content text, settings.definitionPath = some path →
      files.read path = .ok content → Text.decodeUtf8? content = some text →
      platform.definitionHost.ReadsAlike otherPlatform.definitionHost text) :
    (machine otherPlatform).Asks other otherSettings dashboard := by
  cases hasks with
  | builtIn hnone => exact .builtIn (hpath.trans hnone)
  | defined hsome hfile htext hparse =>
      exact .defined (hpath.trans hsome) ((hread _ hsome).trans hfile) htext
        (DashboardDefinition.parse_of_reads_alike (halike _ _ _ hsome hfile htext) hparse)

/-- Two runs whose settings differ in the output path alone, on files with the same definition, emit
the same document if neither of them fails. -/
theorem emits_same_document {otherPlatform : Platform} {other : Files}
    {otherEnvironment : Environment} {outputPath : Option String}
    (hsettings : (machine platform).settings files environment = .ok settings)
    (hother : (machine otherPlatform).settings other otherEnvironment =
      .ok { settings with outputPath })
    (hread : ∀ path, settings.definitionPath = some path → other.read path = files.read path)
    (halike : ∀ path content text, settings.definitionPath = some path →
      files.read path = .ok content → Text.decodeUtf8? content = some text →
      platform.definitionHost.ReadsAlike otherPlatform.definitionHost text)
    (hexit : ((machine platform).run files environment).1.exitCode = 0)
    (hotherExit : ((machine otherPlatform).run other otherEnvironment).1.exitCode = 0) :
    ∃ document, files.Emits platform environment settings document ∧
      other.Emits otherPlatform otherEnvironment { settings with outputPath } document := by
  obtain ⟨dashboard, hasks, -, hemits⟩ := emits_of_exit hsettings hexit
  obtain ⟨otherDashboard, hotherAsks, -, hotherEmits⟩ := emits_of_exit hother hotherExit
  obtain rfl := hotherAsks.unique (asks_congr hasks rfl hread halike)
  -- The document takes the external identifier and the layout from the settings, and no more.
  exact ⟨settings.document otherDashboard, hemits, hotherEmits⟩

/-- A run on the text of a definition file that does not fail emits what the pipeline in memory
makes of that text. -/
theorem emits_generated (hsettings : (machine platform).settings files environment = .ok settings)
    {host : Host} {path : String} {content : List UInt8} {text : String}
    (hpath : settings.definitionPath = some path) (hread : files.read path = .ok content)
    (htext : Text.decodeUtf8? content = some text)
    (halike : platform.definitionHost.ReadsAlike host text)
    (hexit : ((machine platform).run files environment).1.exitCode = 0) :
    ∃ document, DashboardDefinition.generate host text settings.uid settings.pretty = .ok document ∧
      files.Emits platform environment settings document := by
  obtain ⟨dashboard, hasks, hvalid, hemits⟩ := emits_of_exit hsettings hexit
  refine ⟨settings.document dashboard, ?_, hemits⟩
  cases hasks with
  | builtIn hnone => cases hpath.symm.trans hnone
  | @defined _ _ _ definition hsome hfile hspells hparse =>
      cases hpath.symm.trans hsome
      cases hread.symm.trans hfile
      cases htext.symm.trans hspells
      have hparse := DashboardDefinition.parse_of_reads_alike halike hparse
      refine bind_eq_ok_iff.mpr ⟨definition, mapError_eq_ok_iff.mpr hparse, ?_⟩
      exact bind_eq_ok_iff.mpr ⟨(), mapError_eq_ok_iff.mpr hvalid, rfl⟩

/-- A run is the composition of its functions: settings, definition, dashboard, validation, document.
A valid dashboard is printed as its document and one line break, with no file changed, or it is
written to the file that the settings name, where its document is all that stands afterwards, with
nothing printed and nothing else changed. Hence two runs that differ in the output path alone emit the
same document, and a run on a definition file emits that of the pipeline in memory on its text, as
long as both visit keys in the same order or the definition is one that no order changes. -/
theorem run_composes (hsettings : (machine platform).settings files environment = .ok settings) :
    (∀ dashboard, (machine platform).Asks files settings dashboard →
      (dashboard.withUid settings.uid).validate = .ok () →
      (settings.outputPath = none →
        ((machine platform).run files environment).1.exitCode = 0 ∧
          ((machine platform).run files environment).1.output =
            Grafana.render (dashboard.withUid settings.uid) settings.pretty ++ "\n" ∧
          ((machine platform).run files environment).2 = files) ∧
      ∀ path place, settings.outputPath = some path → files.locateNew path = .ok place →
        ((machine platform).run files environment).1.exitCode = 0 ∧
          ((machine platform).run files environment).1.output = "" ∧
          ((machine platform).run files environment).2.read path = .ok (Text.encodeUtf8
            (Grafana.render (dashboard.withUid settings.uid) settings.pretty)) ∧
          files.ChangesOnly ((machine platform).run files environment).2 place (Text.encodeUtf8
            (Grafana.render (dashboard.withUid settings.uid) settings.pretty))) ∧
    (∀ otherPlatform (other : Files) otherEnvironment outputPath,
      (machine otherPlatform).settings other otherEnvironment = .ok { settings with outputPath } →
      (∀ path, settings.definitionPath = some path → other.read path = files.read path) →
      (∀ path content text, settings.definitionPath = some path →
        files.read path = .ok content → Text.decodeUtf8? content = some text →
        platform.definitionHost.ReadsAlike otherPlatform.definitionHost text) →
      ((machine platform).run files environment).1.exitCode = 0 →
      ((machine otherPlatform).run other otherEnvironment).1.exitCode = 0 →
      ∃ document, files.Emits platform environment settings document ∧
        other.Emits otherPlatform otherEnvironment { settings with outputPath } document) ∧
    ∀ host path content text, settings.definitionPath = some path →
      files.read path = .ok content → Text.decodeUtf8? content = some text →
      platform.definitionHost.ReadsAlike host text →
      ((machine platform).run files environment).1.exitCode = 0 →
      ∃ document,
        DashboardDefinition.generate host text settings.uid settings.pretty = .ok document ∧
        files.Emits platform environment settings document := by
  refine ⟨fun dashboard hasks hvalid => ⟨run_of_no_output_path hsettings hasks hvalid,
    fun path place => run_of_output_path hsettings hasks hvalid⟩, ?_, ?_⟩
  · exact fun otherPlatform other otherEnvironment outputPath => emits_same_document hsettings
  · exact fun host path content text => emits_generated hsettings

/-- The settings of the run that reads a definition and writes to a file. -/
def oneQuerySettings : Settings := ⟨none, some "page.toml", some "page.json", true⟩

/-- An environment that asks for the same document on standard output. -/
def oneQueryPrintEnvironment : Environment := .ofTexts [("DASHBOARD_DEFINITION_PATH", "page.toml")]

/-- The run on a definition writes its document to the file that the settings name and changes
nothing else, and the run that names no file emits the same document. -/
theorem run_composes_one_query :
    (machine .plain).settings oneQueryFiles oneQueryEnvironment = .ok oneQuerySettings ∧
      (∃ dashboard, (machine .plain).Asks oneQueryFiles oneQuerySettings dashboard ∧
        (dashboard.withUid none).validate = .ok () ∧
        oneQueryFiles.locateNew "page.json" = .ok ["page.json"] ∧
        ((machine .plain).run oneQueryFiles oneQueryEnvironment).1.output = "" ∧
        oneQueryFiles.ChangesOnly ((machine .plain).run oneQueryFiles oneQueryEnvironment).2
          ["page.json"] (Text.encodeUtf8 (Grafana.render (dashboard.withUid none) true))) ∧
      ∃ document, oneQueryFiles.Emits .plain oneQueryEnvironment oneQuerySettings document ∧
        oneQueryFiles.Emits .plain oneQueryPrintEnvironment
          { oneQuerySettings with outputPath := none } document := by
  have hsettings : (machine .plain).settings oneQueryFiles oneQueryEnvironment =
      .ok oneQuerySettings := by decide +kernel
  have hprint : (machine .plain).settings oneQueryFiles oneQueryPrintEnvironment =
      .ok { oneQuerySettings with outputPath := none } := by decide +kernel
  have hexit : ((machine .plain).run oneQueryFiles oneQueryEnvironment).1.exitCode = 0 := by
    decide +kernel
  have hprintExit : ((machine .plain).run oneQueryFiles oneQueryPrintEnvironment).1.exitCode = 0 := by
    decide +kernel
  have hlocate : oneQueryFiles.locateNew "page.json" = .ok ["page.json"] := by decide +kernel
  obtain ⟨dashboard, hasks, hvalid, -⟩ := emits_of_exit hsettings hexit
  obtain ⟨hdelivered, hsame, -⟩ := run_composes hsettings
  obtain ⟨-, houtput, -, hchanges⟩ :=
    (hdelivered dashboard hasks hvalid).2 "page.json" ["page.json"] rfl hlocate
  exact ⟨hsettings, ⟨dashboard, hasks, hvalid, hlocate, houtput, hchanges⟩,
    hsame .plain oneQueryFiles oneQueryPrintEnvironment none hprint (fun _ _ => rfl)
      (fun _ _ _ _ _ _ => .inl rfl) hexit hprintExit⟩

end Files

end DashboardGenerator
