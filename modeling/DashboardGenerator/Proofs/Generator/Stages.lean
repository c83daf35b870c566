import DashboardGenerator.Generator.Machine

/-!
# The stages of a run

On a machine the stages of a run are functions of the world, and none but the last changes it
(`ReadsOnly`). `run_eq` writes a run as the chain of its stages.
-/

namespace DashboardGenerator

/-- No failure ends a run with the exit code of success. -/
theorem Failure.exit_code_ne_zero (failure : Failure) : failure.exitCode ≠ 0 := by
  rw [Failure.exitCode]
  cases failure.crash? with
  | none => exact Nat.one_ne_zero
  | some crash => cases crash <;> simp [Config.Crash.exitCode]

/-- The exit code is zero exactly if no failure is reported. -/
theorem Outcome.exit_code_eq_zero_iff {outcome : Outcome} :
    outcome.exitCode = 0 ↔ outcome.failure = none := by
  rw [Outcome.exitCode]
  cases outcome.failure with
  | none => simp
  | some failure => simp [failure.exit_code_ne_zero]

namespace Machine

variable {World : Type}

/-- The action changes no world. -/
def ReadsOnly {α : Type} (action : StateM World α) : Prop :=
  ∀ world, (action.run world).2 = world

namespace ReadsOnly

variable {α β : Type}

theorem of_pure (value : α) : ReadsOnly (pure value : StateM World α) := fun _ => rfl

theorem of_bind {action : StateM World α} {next : α → StateM World β} (haction : ReadsOnly action)
    (hnext : ∀ value, ReadsOnly (next value)) : ReadsOnly (action >>= next) := by
  intro world
  show ((next (action.run world).1).run (action.run world).2).2 = world
  rw [haction world]
  exact hnext _ world

/-- What comes after such an action starts from the same world. -/
theorem run_bind {action : StateM World α} (haction : ReadsOnly action)
    (next : α → StateM World β) (world : World) :
    (action >>= next).run world = (next (action.run world).1).run world := by
  show (next (action.run world).1).run (action.run world).2 = _
  rw [haction world]

variable (machine : Machine World)

theorem of_is_file (path : String) : ReadsOnly (machine.access.isFile path) :=
  machine.isFile_keeps path

theorem of_read (path : String) : ReadsOnly (machine.access.read path) := machine.read_keeps path

/-- Looking for a settings file changes nothing. -/
theorem of_find_format (formats : List Config.Format) :
    ReadsOnly (findFormat machine.access formats) := by
  induction formats with
  | nil => exact of_pure none
  | cons format formats ih =>
      refine of_bind (of_is_file machine _) fun present => ?_
      cases present with
      | true => exact of_pure _
      | false => exact ih

/-- Reading the text of a settings file changes nothing. -/
theorem of_settings_text (path : String) : ReadsOnly (settingsText machine.access path) := by
  refine of_bind (of_read machine path) fun result => ?_
  cases result <;> exact of_pure _

/-- Reading the settings file changes nothing. -/
theorem of_settings_file : ReadsOnly (settingsFile machine.toPlatform machine.access) := by
  refine of_bind (of_is_file machine _) fun hidden => ?_
  cases hidden with
  | true => exact of_pure none
  | false =>
      refine of_bind (of_find_format machine _) fun found => ?_
      cases found with
      | none => exact of_pure none
      | some format => exact of_bind (of_settings_text machine _) fun text => of_pure _

/-- Loading the settings changes nothing. -/
theorem of_load_settings (environment : Environment) :
    ReadsOnly (loadSettings machine.toPlatform machine.access environment) :=
  of_bind (of_settings_file machine) fun _ => of_pure _

/-- Loading a definition changes nothing. -/
theorem of_load_definition (path : String) :
    ReadsOnly (loadDefinition machine.toPlatform machine.access path) := by
  refine of_bind (of_read machine path) fun result => ?_
  cases result with
  | error fault => exact of_pure _
  | ok content =>
      dsimp only
      cases Text.decodeUtf8? content <;> exact of_pure _

/-- Making the dashboard changes nothing. -/
theorem of_make_dashboard (settings : Settings) :
    ReadsOnly (makeDashboard machine.toPlatform machine.access settings) := by
  unfold makeDashboard
  cases settings.definitionPath with
  | none => exact of_pure _
  | some path =>
      refine of_bind (of_load_definition machine path) fun result => ?_
      cases result <;> exact of_pure _

end ReadsOnly

variable (machine : Machine World) (world : World)

/-- The settings that a run works with. -/
def settings (environment : Environment) : Except ConfigFault Settings :=
  ((loadSettings machine.toPlatform machine.access environment).run world).1

/-- The dashboard that the settings ask for, and the events of making it. -/
def made (settings : Settings) : List Log.Event × Except DefinitionFault Dashboard :=
  ((makeDashboard machine.toPlatform machine.access settings).run world).1

/-- The event of a dashboard that is refused. -/
def refusal (dashboard : Dashboard) (error : DashboardError) : Log.Event :=
  programEvent .error s!"Invalid dashboard {dashboard.title}: {error.message}"

/-- A run is the chain of its stages. -/
theorem run_eq (environment : Environment) :
    machine.run world environment =
      match machine.settings world environment with
      | .error fault => (⟨"", [], some (.settings fault)⟩, world)
      | .ok settings =>
        match machine.made world settings with
        | (events, .error fault) => (⟨"", events, some (.definition fault)⟩, world)
        | (events, .ok built) =>
          match (built.withUid settings.uid).validate with
          | .error error =>
            (⟨"", events ++ [refusal (built.withUid settings.uid) error],
              some (.validation error)⟩, world)
          | .ok () =>
            (deliver machine.access settings (built.withUid settings.uid) events).run world := by
  -- Loading and making only read, so each stage starts from the world of the run.
  rw [Machine.run, DashboardGenerator.run,
    (ReadsOnly.of_load_settings machine environment).run_bind, ← Machine.settings]
  cases machine.settings world environment with
  | error fault => rfl
  | ok settings =>
      dsimp only
      rw [(ReadsOnly.of_make_dashboard machine settings).run_bind, ← made]
      rcases machine.made world settings with ⟨events, fault | built⟩
      · rfl
      · dsimp only
        cases (built.withUid settings.uid).validate <;> rfl

/-- A write is refused and leaves the world as it was, or it gives another one. -/
theorem run_write (path : String) (content : List UInt8) :
    (machine.access.write path content).run world =
      match machine.write world path content with
      | .error fault => (.error fault, world)
      | .ok after => (.ok (), after) := by
  have hrefused := machine.refusal_keeps path content world
  rw [write]
  generalize (machine.access.write path content).run world = result at hrefused
  rcases result with ⟨fault | ⟨⟩, after⟩
  · obtain rfl : after = world := hrefused fault rfl
    rfl
  · rfl

/-- The event of a document that was written to a file. -/
def receipt (dashboard : Dashboard) (path : String) : Log.Event :=
  programEvent .info s!"Wrote {dashboard.title} ({dashboard.panelCount} panels) to {path}"

/-- A document is printed, or written to the file that the settings name. -/
theorem deliver_eq (settings : Settings) (dashboard : Dashboard) (events : List Log.Event) :
    (deliver machine.access settings dashboard events).run world =
      match settings.outputPath with
      | none => (⟨Grafana.render dashboard settings.pretty ++ "\n", events, none⟩, world)
      | some path =>
        match machine.write world path
          (Text.encodeUtf8 (Grafana.render dashboard settings.pretty)) with
        | .error fault => (⟨"", events, some (.output path fault)⟩, world)
        | .ok after => (⟨"", events ++ [receipt dashboard path], none⟩, after) := by
  unfold deliver
  cases settings.outputPath with
  | none => rfl
  | some path =>
      dsimp only
      rw [StateT.run_bind, run_write]
      cases machine.write world path
        (Text.encodeUtf8 (Grafana.render dashboard settings.pretty)) <;> rfl

end Machine

namespace Files

variable (platform : Platform) (files : Files) (path : String)

@[simp] theorem machine_is_file : (machine platform).isFile files path = files.isFile path := rfl

@[simp] theorem machine_read : (machine platform).read files path = files.read path := rfl

@[simp] theorem machine_write (content : List UInt8) :
    (machine platform).write files path content = files.write path content := by
  have hrun : ((machine platform).access.write path content).run files =
      match files.write path content with
      | .error fault => (.error fault, files)
      | .ok after => (.ok (), after) := by
    simp only [machine, access, StateT.run_bind, StateT.run_get, pure_bind]
    cases files.write path content <;> rfl
  rw [Machine.write, hrun]
  cases files.write path content <;> rfl

end Files

end DashboardGenerator
