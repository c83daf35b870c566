import DashboardGenerator.Dashboard.Services
import DashboardGenerator.Dashboard.Validation
import DashboardGenerator.Files
import DashboardGenerator.Generator.Platform
import DashboardGenerator.Generator.Settings
import DashboardGenerator.Grafana.Document
import DashboardGenerator.Text.Utf8

/-!
# A run of the generator

A run reads the settings, builds the dashboard from its definition file or takes the built-in one,
validates it, and writes its document to a file or to standard output. The first stage that fails
ends the run; nothing is written before all earlier stages have passed.

A run acts on files through a `FileAccess`, so that one definition serves a snapshot of a file system
and the file system itself. What a run does not decide is in its `Platform`.
-/

namespace DashboardGenerator

open Config

/-- What a run may do with files. -/
structure FileAccess (m : Type → Type) where
  isFile : String → m Bool
  read : String → m (Except FileFault (List UInt8))
  write : String → List UInt8 → m (Except FileFault Unit)

/-- Access to a snapshot, which is the state. -/
def Files.access : FileAccess (StateM Files) where
  isFile path := do return (← get).isFile path
  read path := do return (← get).read path
  write path content := do
    match (← get).write path content with
    | .ok files =>
      set files
      return .ok ()
    | .error fault => return .error fault

/-- Why a definition file gives no definition. -/
inductive DefinitionFault where
  | unreadable (path : String) (fault : FileFault)
  | invalid (path : String) (fault : ConfigFault)
deriving Repr, DecidableEq

/-- The crash that the fault is, if it is one. -/
def DefinitionFault.crash? : DefinitionFault → Option Crash
  | .unreadable .. => none
  | .invalid _ fault => fault.crash?

/-- What failed, and why. -/
def DefinitionFault.report : DefinitionFault → String × String
  | .unreadable path fault => ("Failed to read dashboard definition " ++ path, fault.message)
  | .invalid path fault => ("Invalid dashboard definition " ++ path, fault.message)

/-- Why a run fails. -/
inductive Failure where
  | settings (fault : ConfigFault)
  | definition (fault : DefinitionFault)
  | validation (error : DashboardError)
  | output (path : String) (fault : FileFault)
deriving Repr, DecidableEq

/-- The crash that the failure is, if it is one. -/
def Failure.crash? : Failure → Option Crash
  | .settings fault => fault.crash?
  | .definition fault => fault.crash?
  | .validation _ | .output .. => none

/-- What failed, and why if that is told apart. -/
def Failure.report : Failure → String × Option String
  | .settings fault => (fault.message, none)
  | .definition fault => (fault.report.1, some fault.report.2)
  | .validation error => (error.message, none)
  | .output path fault => ("Failed to write dashboard to " ++ path, some fault.message)

/-- A text with every line behind the first indented like the first. -/
def indentCause (text : String) : String :=
  String.ofList (text.toList.flatMap fun character =>
    if character = '\n' then "\n    ".toList else [character])

/-- The failure as text: what failed, and below it the cause. A crash says no more than what it is. -/
def Failure.text (failure : Failure) : String :=
  match failure.crash?, failure.report with
  | some crash, _ => crash.message
  | none, (message, none) => message
  | none, (message, some cause) => message ++ "\n\nCaused by:\n    " ++ indentCause cause

/-- The exit code of a failure: one, or that of its crash. -/
def Failure.exitCode (failure : Failure) : Nat :=
  match failure.crash? with
  | some crash => crash.exitCode
  | none => 1

/-- What a run leaves to be seen, apart from files. -/
structure Outcome where
  output : String
  events : List Log.Event
  failure : Option Failure
deriving Repr, DecidableEq

/-- The exit code of a run. -/
def Outcome.exitCode (outcome : Outcome) : Nat :=
  match outcome.failure with
  | some failure => failure.exitCode
  | none => 0

/-- The name under which a run reports. -/
def programName : String := "services_dashboard"

/-- An event of the run itself. -/
def programEvent (level : Log.Level) (message : String) : Log.Event :=
  ⟨level, programName, message⟩

/-- The event of building a dashboard from a definition. -/
def builtEvent (dashboard : Dashboard) : Log.Event :=
  ⟨.debug, programName ++ "::application::dashboard_builder",
    s!"Built dashboard {dashboard.title} from definition: " ++
      s!"{dashboard.rows.length} rows, {dashboard.panelCount} panels"⟩

section

variable {m : Type → Type} [Monad m] (platform : Platform) (access : FileAccess m)

/-- The first format that there is a settings file in. -/
def findFormat : List Format → m (Option Format)
  | [] => return none
  | format :: rest => do
    if ← access.isFile format.settingsPath then return some format
    else findFormat rest

/-- The text of a settings file, if it can be read. -/
def settingsText (path : String) : m (Option String) := do
  match ← access.read path with
  | .ok content =>
    let text := Text.decodeUtf8Lossy content
    return some (String.ofList (Toml.skipByteOrderMark text.toList))
  | .error _ => return none

/-- The format and the text of the settings file, if there is one that counts. -/
def settingsFile : m (Option (Format × String)) := do
  if ← access.isFile Settings.location then return none
  else
    match ← findFormat access platform.formats with
    | none => return none
    | some format =>
      return (← settingsText access format.settingsPath).map fun text => (format, text)

/-- The settings that the settings file and the environment make together. -/
def loadSettings (environment : Environment) : m (Except ConfigFault Settings) := do
  return Settings.ofSources platform.settingsHost (← settingsFile platform access) environment

/-- The definition in a file. -/
def loadDefinition (path : String) : m (Except DefinitionFault DashboardDefinition) := do
  match ← access.read path with
  | .error fault => return .error (.unreadable path fault)
  | .ok content =>
    match Text.decodeUtf8? content with
    | none => return .error (.unreadable path .notText)
    | some text =>
      return (DashboardDefinition.parse platform.definitionHost text).mapError (.invalid path)

/-- The dashboard that the settings ask for, and the events of building it. -/
def makeDashboard (settings : Settings) :
    m (List Log.Event × Except DefinitionFault Dashboard) := do
  match settings.definitionPath with
  | none => return ([], .ok Dashboard.services)
  | some path =>
    let reading := programEvent .info ("Building dashboard from " ++ path)
    match ← loadDefinition platform access path with
    | .error fault => return ([reading], .error fault)
    | .ok definition =>
      return ([reading, builtEvent definition.build], .ok definition.build)

/-- Write a document where the settings ask for it, after the events so far. -/
def deliver (settings : Settings) (dashboard : Dashboard) (events : List Log.Event) :
    m Outcome := do
  let document := Grafana.render dashboard settings.pretty
  match settings.outputPath with
  | none => return ⟨document ++ "\n", events, none⟩
  | some path =>
    match ← access.write path (Text.encodeUtf8 document) with
    | .error fault => return ⟨"", events, some (.output path fault)⟩
    | .ok () =>
      let wrote := programEvent .info
        s!"Wrote {dashboard.title} ({dashboard.panelCount} panels) to {path}"
      return ⟨"", events ++ [wrote], none⟩

/-- Run the generator. -/
def run (environment : Environment) : m Outcome := do
  match ← loadSettings platform access environment with
  | .error fault => return ⟨"", [], some (.settings fault)⟩
  | .ok settings =>
    match ← makeDashboard platform access settings with
    | (events, .error fault) => return ⟨"", events, some (.definition fault)⟩
    | (events, .ok built) =>
      let dashboard := built.withUid settings.uid
      match dashboard.validate with
      | .error error =>
        let invalid := programEvent .error
          s!"Invalid dashboard {dashboard.title}: {error.message}"
        return ⟨"", events ++ [invalid], some (.validation error)⟩
      | .ok () => deliver access settings dashboard events

end

end DashboardGenerator
