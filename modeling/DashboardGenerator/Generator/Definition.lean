import DashboardGenerator.Config.Host
import DashboardGenerator.Config.OfToml
import DashboardGenerator.Config.Read
import DashboardGenerator.Dashboard.Definition
import DashboardGenerator.Text.OsText

/-!
# Reading dashboard definitions

A definition is written as a TOML document. Titles, names, queries and data sources must be given;
lists that are missing are empty, and the other fields have defaults. The values of several fields may
be wrong at once, so each is looked at before the first fault in the order of the keys is reported.
-/

namespace DashboardGenerator

open Config

/-- Why a text gives no typed value. -/
inductive ConfigFault where
  | parse (fault : ParseFault) (origin : Origin)
  /-- A variable of the environment has a value that is no text. -/
  | notText (key : String) (value : List UInt8)
  /-- The host has no room for an array. -/
  | crash (fault : Crash)
  | read (error : ReadError)
deriving Repr, DecidableEq

/-- The sentence that reports the fault. -/
def ConfigFault.message : ConfigFault → String
  | .parse fault origin => fault.message ++ origin.suffix
  | .notText key value =>
    "env variable " ++ Text.quoted key ++ " contains non-Unicode data: " ++ Text.quotedBytes value
  | .crash fault => fault.message
  | .read error => error.message

/-- The crash that the fault is, if it is one. -/
def ConfigFault.crash? : ConfigFault → Option Crash
  | .crash fault => some fault
  | .parse .. | .notText .. | .read _ => none

namespace DashboardDefinition

/-- The fields of a query. -/
def targetShape : Shape := ⟨"TargetDefinition", ["expr", "legend_format"]⟩

/-- The fields of a panel. -/
def panelShape : Shape :=
  ⟨"PanelDefinition", ["title", "data_source", "transparent", "targets"]⟩

/-- The fields of a row. -/
def rowShape : Shape := ⟨"RowDefinition", ["panels"]⟩

/-- The fields of a template variable. -/
def templateShape : Shape :=
  ⟨"TemplateDefinition", ["name", "data_source", "query", "regex", "default"]⟩

/-- Read a query. -/
def readTarget : Reader TargetDefinition := fun order value => do
  let record ← targetShape.record value
  let expression := record.field? order "expr" readString
  let legendFormat := record.field? order "legend_format" readString
  record.visit order [("expr", fault? expression), ("legend_format", fault? legendFormat)]
  let expression ← expression
  let legendFormat ← legendFormat
  let expression ← record.require "expr" expression
  return ⟨expression, legendFormat.getD ""⟩

/-- Read a panel. -/
def readPanel : Reader PanelDefinition := fun order value => do
  let record ← panelShape.record value
  let title := record.field? order "title" readString
  let dataSource := record.field? order "data_source" readString
  let transparent := record.field? order "transparent" readBoolean
  let targets := record.field? order "targets" (readList readTarget)
  record.visit order [("title", fault? title), ("data_source", fault? dataSource),
    ("transparent", fault? transparent), ("targets", fault? targets)]
  let title ← title
  let dataSource ← dataSource
  let transparent ← transparent
  let targets ← targets
  let title ← record.require "title" title
  let dataSource ← record.require "data_source" dataSource
  return ⟨title, dataSource, transparent.getD false, targets.getD []⟩

/-- Read a row. -/
def readRow : Reader RowDefinition := fun order value => do
  let record ← rowShape.record value
  let panels ← record.field? order "panels" (readList readPanel)
  return ⟨panels.getD []⟩

/-- Read a template variable. -/
def readTemplate : Reader TemplateDefinition := fun order value => do
  let record ← templateShape.record value
  let name := record.field? order "name" readString
  let dataSource := record.field? order "data_source" readString
  let query := record.field? order "query" readString
  let regex := record.field? order "regex" (readOptional readString)
  let default := record.field? order "default" readString
  record.visit order [("name", fault? name), ("data_source", fault? dataSource),
    ("query", fault? query), ("regex", fault? regex), ("default", fault? default)]
  let name ← name
  let dataSource ← dataSource
  let query ← query
  let regex ← regex
  let default ← default
  let name ← record.require "name" name
  let dataSource ← record.require "data_source" dataSource
  let query ← record.require "query" query
  return ⟨name, dataSource, query, regex.join, default.getD ""⟩

/-- Read a whole definition from the entries of a configuration. -/
def readEntries (order : Order) (entries : List (String × Value)) :
    Reading DashboardDefinition := do
  let record := Record.keyed entries
  let title := record.field? order "title" readString
  let templating := record.field? order "templating" (readList readTemplate)
  let rows := record.field? order "rows" (readList readRow)
  record.visit order [("title", fault? title), ("templating", fault? templating),
    ("rows", fault? rows)]
  let title ← title
  let templating ← templating
  let rows ← rows
  let title ← record.require "title" title
  return ⟨title, templating.getD [], rows.getD []⟩

/-- Read a whole definition from a configuration. -/
def ofConfig (order : Order) (config : Value) : Reading DashboardDefinition :=
  readEntries order config.entries

/-- Read a definition from a TOML text. -/
def parse (host : Host) (text : String) : Except ConfigFault DashboardDefinition := do
  let source ← (ofToml .memory text).mapError fun fault => .parse fault .memory
  let config ← (host.set .memory (.table []) source).mapError .crash
  (ofConfig host.order config).mapError .read

end DashboardDefinition

end DashboardGenerator
