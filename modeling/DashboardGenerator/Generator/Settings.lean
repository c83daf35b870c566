import DashboardGenerator.Config.Format
import DashboardGenerator.Environment
import DashboardGenerator.Generator.Definition
import DashboardGenerator.Text.Lowercase

/-!
# Generator settings

What a run does is set in a file, which may be written in any of several formats, and in the
environment. A variable of the environment whose name starts with `DASHBOARD_`, in any case, gives a
value to the key that the rest of its name spells in lower case, over the one in the file.
-/

namespace DashboardGenerator

open Config Text

/-- The settings of a run. -/
structure Settings where
  uid : Option String
  definitionPath : Option String
  outputPath : Option String
  pretty : Bool
deriving Repr, DecidableEq

namespace Settings

/-- The settings file without the ending that tells its format. A file of this name hides all
others. -/
def location : String := "config/generator"

end Settings

/-- The settings file in a format. -/
def Config.Format.settingsPath (format : Format) : String :=
  Settings.location ++ "." ++ format.extension

namespace Settings

/-- How the names of variables with settings start, in lower case. -/
def variableStart : List Char := "dashboard_".toList

/-- The key that a variable of the environment gives a value to, if it gives one. -/
def variableKey? (name : String) : Option String :=
  let lower := (Text.lowercase name).toList
  if variableStart.isPrefixOf lower then some (String.ofList (lower.drop variableStart.length))
  else none

/-- The keys that the environment gives values to, with the values. -/
def variableEntries (environment : Environment) : List (String × OsText) :=
  environment.filterMap fun (name, value) =>
    (variableKey? name).map fun key => (key, value)

/-- The value that a variable gives to its key, which has to be a text. -/
def variableEntry : String × OsText → Except ConfigFault (String × Value)
  | (key, .text value) => .ok (key, .scalar .environment (.string value))
  | (key, .bytes value) => .error (.notText key value)

/-- The entries with one value for each key, the last one. -/
def latest (entries : List (String × Value)) : List (String × Value) :=
  entries.foldl (fun found (key, value) => changeEntry (fun _ => value) key found) []

/-- The values that the environment gives to keys. The first variable whose value is no text is a
fault of the whole environment. -/
def environmentSource (environment : Environment) :
    Except ConfigFault (List (String × Value)) := do
  let entries ← (variableEntries environment).mapM variableEntry
  return latest entries

/-- Read the settings from the entries of a configuration. -/
def readEntries (order : Order) (entries : List (String × Value)) : Reading Settings := do
  let record := Record.keyed entries
  let uid := record.field? order "uid" (readOptional readString)
  let definitionPath := record.field? order "definition_path" (readOptional readString)
  let outputPath := record.field? order "output_path" (readOptional readString)
  let pretty := record.field? order "pretty" readBoolean
  record.visit order [("uid", fault? uid), ("definition_path", fault? definitionPath),
    ("output_path", fault? outputPath), ("pretty", fault? pretty)]
  let uid ← uid
  let definitionPath ← definitionPath
  let outputPath ← outputPath
  let pretty ← pretty
  return ⟨uid.join, definitionPath.join, outputPath.join, pretty.getD true⟩

/-- The configuration that a settings file makes, if there is one: a text in a format. -/
def ofFile (host : Host) : Option (Format × String) → Except ConfigFault Value
  | none => .ok (.table [])
  | some (format, text) => do
    let origin := Origin.file format.settingsPath
    let source ← (format.read origin text).mapError fun fault => .parse fault origin
    (host.set origin (.table []) source).mapError .crash

/-- The settings that the settings file, if there is one, and the environment make together. -/
def ofSources (host : Host) (file : Option (Format × String)) (environment : Environment) :
    Except ConfigFault Settings := do
  let config ← ofFile host file
  let source ← environmentSource environment
  let config ← (host.set .environment config source).mapError .crash
  (readEntries host.order config.entries).mapError .read

end Settings

end DashboardGenerator
