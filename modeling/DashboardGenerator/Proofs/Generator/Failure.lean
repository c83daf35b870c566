import DashboardGenerator.Proofs.Generator.Snapshot

/-!
# Runs that fail

A run goes through four stages: its settings are loaded, its dashboard is made, the dashboard is
validated, and its document is written if the settings name a file. `Succeeds` says that none of them
fails, and `FailsFirst` which one fails first and why. Just one of the two holds
(`succeeds_or_fails_first`), and either fixes what the run does: `failed_run_leaves_nothing`.
-/

namespace DashboardGenerator

namespace Machine

variable {World : Type}

section

variable (machine : Machine World) (world : World) (environment : Environment)

/-- No stage of a run fails. -/
def Succeeds : Prop :=
  ∃ settings dashboard, machine.settings world environment = .ok settings ∧
    machine.Asks world settings dashboard ∧ (dashboard.withUid settings.uid).validate = .ok () ∧
    ∀ path, settings.outputPath = some path →
      ∃ after, machine.write world path (Text.encodeUtf8 (settings.document dashboard)) = .ok after

/-- The first stage of a run that fails, with its fault: the stages before it succeed. -/
inductive FailsFirst : Failure → Prop
  /-- The settings cannot be loaded. -/
  | settings {fault : ConfigFault} (hsettings : machine.settings world environment = .error fault) :
      FailsFirst (.settings fault)
  /-- The file that the settings name holds no definition. -/
  | definition {settings : Settings} {path : String} {fault : DefinitionFault}
      (hsettings : machine.settings world environment = .ok settings)
      (hpath : settings.definitionPath = some path)
      (hdefinition : machine.definition world path = .error fault) :
      FailsFirst (.definition fault)
  /-- The dashboard is not accepted. -/
  | validation {settings : Settings} {dashboard : Dashboard} {error : DashboardError}
      (hsettings : machine.settings world environment = .ok settings)
      (hasks : machine.Asks world settings dashboard)
      (hinvalid : (dashboard.withUid settings.uid).validate = .error error) :
      FailsFirst (.validation error)
  /-- The file that the settings name cannot be written. -/
  | output {settings : Settings} {dashboard : Dashboard} {path : String} {fault : FileFault}
      (hsettings : machine.settings world environment = .ok settings)
      (hasks : machine.Asks world settings dashboard)
      (hvalid : (dashboard.withUid settings.uid).validate = .ok ())
      (hpath : settings.outputPath = some path)
      (hwrite : machine.write world path (Text.encodeUtf8 (settings.document dashboard)) =
        .error fault) :
      FailsFirst (.output path fault)

/-- A stage fails first, or all of them succeed. -/
theorem succeeds_or_fails_first :
    machine.Succeeds world environment ∨ ∃ failure, machine.FailsFirst world environment failure := by
  cases hsettings : machine.settings world environment with
  | error fault => exact .inr ⟨_, .settings hsettings⟩
  | ok settings =>
  cases hmade : (machine.made world settings).2 with
  | error fault =>
      obtain ⟨path, hpath, hdefinition⟩ := made_eq_error_iff.mp hmade
      exact .inr ⟨_, .definition hsettings hpath hdefinition⟩
  | ok dashboard =>
  have hasks := made_eq_ok_iff.mp hmade
  cases hvalidate : (dashboard.withUid settings.uid).validate with
  | error error => exact .inr ⟨_, .validation hsettings hasks hvalidate⟩
  | ok valid =>
  cases hpath : settings.outputPath with
  | none => exact .inl ⟨settings, dashboard, hsettings, hasks, hvalidate, by simp [hpath]⟩
  | some path =>
  cases hwrite : machine.write world path (Text.encodeUtf8 (settings.document dashboard)) with
  | error fault => exact .inr ⟨_, .output hsettings hasks hvalidate hpath hwrite⟩
  | ok after =>
      refine .inl ⟨settings, dashboard, hsettings, hasks, hvalidate, fun other hother => ?_⟩
      obtain rfl := Option.some.inj (hpath.symm.trans hother)
      exact ⟨after, hwrite⟩

end

variable {machine : Machine World} {world : World} {environment : Environment}

/-- If all stages succeed, the run does not fail. -/
theorem failure_of_succeeds (hsucceeds : machine.Succeeds world environment) :
    (machine.run world environment).1.failure = none := by
  obtain ⟨settings, dashboard, hsettings, hasks, hvalid, hwrites⟩ := hsucceeds
  obtain ⟨events, hrun⟩ := run_of_valid hsettings hasks hvalid
  cases hpath : settings.outputPath with
  | none => rw [hrun, hpath]
  | some path =>
      obtain ⟨after, hwrite⟩ := hwrites path hpath
      rw [hrun, hpath]
      dsimp only
      rw [hwrite]

/-- If a stage fails first, the run reports its fault, prints nothing and leaves the world as it
was. -/
theorem run_of_fails_first {failure : Failure}
    (hfails : machine.FailsFirst world environment failure) :
    ∃ events, machine.run world environment = (⟨"", events, some failure⟩, world) := by
  cases hfails with
  | settings hsettings => exact ⟨[], by rw [run_eq, hsettings]⟩
  | @definition settings path fault hsettings hpath hdefinition =>
      have hmade := made_eq_error_iff.mpr ⟨path, hpath, hdefinition⟩
      rcases hpair : machine.made world settings with ⟨events, result⟩
      obtain rfl : result = .error fault := by rwa [hpair] at hmade
      exact ⟨events, by simp only [run_eq, hsettings, hpair]⟩
  | @validation settings dashboard error hsettings hasks hinvalid =>
      have hmade := made_eq_ok_iff.mpr hasks
      rcases hpair : machine.made world settings with ⟨events, result⟩
      obtain rfl : result = .ok dashboard := by rwa [hpair] at hmade
      exact ⟨events ++ [refusal (dashboard.withUid settings.uid) error], by
        simp only [run_eq, hsettings, hpair, hinvalid]⟩
  | @output settings dashboard path fault hsettings hasks hvalid hpath hwrite =>
      obtain ⟨events, hrun⟩ := run_of_valid hsettings hasks hvalid
      exact ⟨events, by simp only [hrun, hpath, hwrite]⟩

/-- A run reports the fault of the stage that fails first, and none if no stage fails. -/
theorem failure_eq_some_iff {failure : Failure} :
    (machine.run world environment).1.failure = some failure ↔
      machine.FailsFirst world environment failure := by
  constructor
  · intro hfailure
    rcases succeeds_or_fails_first machine world environment with hsucceeds | ⟨first, hfirst⟩
    · rw [failure_of_succeeds hsucceeds] at hfailure
      cases hfailure
    · obtain ⟨events, hrun⟩ := run_of_fails_first hfirst
      rw [hrun] at hfailure
      cases hfailure
      exact hfirst
  · intro hfails
    obtain ⟨events, hrun⟩ := run_of_fails_first hfails
    rw [hrun]

/-- The exit code of a run is zero exactly if no stage fails. -/
theorem run_exit_code_eq_zero_iff :
    (machine.run world environment).1.exitCode = 0 ↔ machine.Succeeds world environment := by
  rw [Outcome.exit_code_eq_zero_iff]
  refine ⟨fun hnone => ?_, failure_of_succeeds⟩
  refine (succeeds_or_fails_first machine world environment).resolve_right ?_
  rintro ⟨failure, hfails⟩
  rw [failure_eq_some_iff.mpr hfails] at hnone
  cases hnone

/-- A run that fails leaves nothing behind: whatever the files and the environment are, and whatever
the machine refuses to read or to write, a run with an exit code other than zero prints nothing and
leaves the world as it was. The exit code is zero exactly if the settings are loaded, the definition
is loaded if they ask for one, the dashboard is accepted, and the document is written if they name a
file. Otherwise the failure that is reported is that of the first of these stages that fails. -/
theorem failed_run_leaves_nothing (machine : Machine World) (world : World)
    (environment : Environment) :
    ((machine.run world environment).1.exitCode ≠ 0 →
        (machine.run world environment).1.output = "" ∧ (machine.run world environment).2 = world) ∧
      ((machine.run world environment).1.exitCode = 0 ↔ machine.Succeeds world environment) ∧
      ((machine.run world environment).1.exitCode ≠ 0 ↔
        ∃ failure, (machine.run world environment).1.failure = some failure) ∧
      ∀ failure, (machine.run world environment).1.failure = some failure ↔
        machine.FailsFirst world environment failure := by
  refine ⟨fun hfailed => ?_, run_exit_code_eq_zero_iff, ?_, fun _ => failure_eq_some_iff⟩
  · obtain ⟨failure, hfails⟩ := (succeeds_or_fails_first machine world environment).resolve_left
      (mt run_exit_code_eq_zero_iff.mpr hfailed)
    obtain ⟨events, hrun⟩ := run_of_fails_first hfails
    rw [hrun]
    exact ⟨rfl, rfl⟩
  · rw [ne_eq, Outcome.exit_code_eq_zero_iff, ← ne_eq, Option.ne_none_iff_exists']

/-- The machine with files that can be read alone: every write is refused. -/
def readOnly (machine : Machine World) (fault : FileFault) : Machine World :=
  { machine with
    access := { machine.access with write := fun _ _ => return .error fault }
    refusal_keeps := fun _ _ _ _ _ => rfl }

/-- Where every write is refused, a run that has a file to write reports the refusal and changes
nothing. -/
theorem run_read_only {settings : Settings} {dashboard : Dashboard} {path : String}
    (hsettings : machine.settings world environment = .ok settings)
    (hasks : machine.Asks world settings dashboard)
    (hvalid : (dashboard.withUid settings.uid).validate = .ok ())
    (hpath : settings.outputPath = some path) (fault : FileFault) :
    ∃ events, (machine.readOnly fault).run world environment =
      (⟨"", events, some (.output path fault)⟩, world) := by
  have hloaded : (machine.readOnly fault).settings world environment = .ok settings := by
    rw [settings_eq] at hsettings ⊢
    exact hsettings
  have hasked : (machine.readOnly fault).Asks world settings dashboard := by
    cases hasks with
    | builtIn hnone => exact .builtIn hnone
    | defined hsome hread htext hparse => exact .defined hsome hread htext hparse
  exact run_of_fails_first (.output hloaded hasked hvalid hpath rfl)

end Machine

/-- A format with one text, that of the object without fields. -/
def Config.Format.emptyObject : Config.Format where
  extension := "json"
  read _ text := if text = "\x7b\x7d" then .ok [] else .error (.foreign "expected value")

/-- The platform that looks for an object without fields before it looks for TOML. -/
def Platform.withObjects : Platform := { Platform.plain with earlierFormats := [.emptyObject] }

/-- A settings file that its format does not know ends the run, whatever stands in the one in TOML. -/
example :
    let files : Files := ⟨[(["config"], .directory),
      (["config", "generator.json"], .file (Text.encodeUtf8 "not json")),
      (["config", "generator.toml"], .file (Text.encodeUtf8 "pretty = false"))], []⟩
    ((Files.machine .withObjects).run files []).1.failure =
      some (.settings (.parse (.foreign "expected value") (.file "config/generator.json"))) := by
  decide +kernel

end DashboardGenerator
