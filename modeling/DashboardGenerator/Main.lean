import DashboardGenerator.Generator.Run

/-!
# The command

The generator as a program: it takes its settings from the settings file and from the environment of
the process, writes the document, and reports on standard error. It runs on the plain platform: of the
formats of settings files it reads TOML alone, and of the texts for the log plain names.
-/

namespace DashboardGenerator

/-- The fault that an error of the operating system stands for. -/
def FileFault.ofError : IO.Error → FileFault
  | .noFileOrDirectory .. => .notFound
  | .inappropriateType _ code _ => if code = 21 then .isDirectory else .notDirectory
  | .permissionDenied .. => .refused "Permission denied" 13
  | .unsatisfiedConstraints code details | .resourceBusy code details
  | .otherError code details => .refused details code.toNat
  | other => .refused (toString other) 5

/-- An action on files whose errors are faults. -/
def catchFault {α : Type} (action : IO α) : IO (Except FileFault α) := do
  try return .ok (← action)
  catch error => return .error (.ofError error)

/-- Access to the file system of the process. -/
def processFiles : FileAccess IO where
  isFile path := do return (← catchFault (IO.FS.readBinFile path)).isOk
  read path := do return (← catchFault (IO.FS.readBinFile path)).map fun content => content.toList
  write path content := catchFault (IO.FS.writeBinFile path ⟨content.toArray⟩)

/-- Where the operating system lists the variables of the process. -/
def environmentPath : String := "/proc/self/environ"

/-- The variable that an item of the form `NAME=value` sets, if its name is a text. -/
def variableOf? (item : List UInt8) : Option (String × Text.OsText) :=
  let name := item.takeWhile (· != 0x3D)
  match Text.decodeUtf8? name, item.drop name.length with
  | some text, _ :: value => some (text, .ofBytes value)
  | _, _ => none

/-- The variables of the process. -/
def processEnvironment : IO Environment := do
  match ← catchFault (IO.FS.readBinFile environmentPath) with
  | .ok block => return (block.toList.splitOn 0).filterMap variableOf?
  | .error _ => return []

end DashboardGenerator

open DashboardGenerator in
/-- Run the generator, print the document, report, and give the exit code. -/
def main : IO UInt32 := do
  let environment ← processEnvironment
  let outcome ← run .plain processFiles environment
  for line in Log.lines outcome.events (.ofEnvironment Platform.plain.directives environment) do
    IO.eprintln line
  IO.print outcome.output
  if let some failure := outcome.failure then
    IO.eprintln (if failure.crash?.isSome then failure.text else "Error: " ++ failure.text)
  return outcome.exitCode.toUInt32
