import DashboardGenerator.Dashboard.Basic
import DashboardGenerator.Grafana.ReferenceId
import DashboardGenerator.Json.Printer

/-!
# The Grafana document of a dashboard

The JSON model that Grafana imports. Next to what the dashboard says it holds the fixed settings of
the page, of its rows, panels and queries, and the reference identifiers of the queries.
-/

namespace DashboardGenerator.Grafana

/-- The document of a template variable. -/
def templateJson (template : Template) : Json :=
  .object [
    ("type", .string "query"),
    ("name", .string template.name),
    ("datasource", .string template.dataSource),
    ("query", .string template.query),
    ("regex", .ofOptionString template.regex),
    ("current", .object [
      ("text", .string template.default),
      ("value", .string template.default),
      ("tags", .array [])]),
    ("refresh", .number 1),
    ("hide", .number 0),
    ("includeAll", .bool false),
    ("multi", .bool false),
    ("options", .array []),
    ("sort", .number 0)]

/-- The document of the query at a position of its panel. -/
def targetJson (position : Nat) (target : Target) : Json :=
  .object [
    ("expr", .string target.expression),
    ("legendFormat", .string target.legendFormat),
    ("refId", .string (referenceId position)),
    ("format", .string "time_series"),
    ("intervalFactor", .number 2),
    ("step", .number 10)]

/-- The documents of the queries of a panel. -/
def targetsJson (targets : List Target) : List Json :=
  targets.mapIdx targetJson

/-- The document of a panel. -/
def panelJson (panel : Panel) : Json :=
  .object [
    ("type", .string "graph"),
    ("id", match panel.id with
      | some id => .number id.toNat
      | none => .null),
    ("title", .string panel.title),
    ("datasource", .string panel.dataSource),
    ("transparent", .bool panel.transparent),
    ("editable", .bool true),
    ("lines", .bool true),
    ("linewidth", .number 2),
    ("fill", .number 1),
    ("nullPointMode", .string "connected"),
    ("targets", .array (targetsJson panel.targets))]

/-- The document of a row. -/
def rowJson (row : Row) : Json :=
  .object [
    ("title", .string "New row"),
    ("showTitle", .bool false),
    ("collapse", .bool false),
    ("height", .string "250px"),
    ("panels", .array (row.panels.map panelJson))]

/-- The document of a dashboard. -/
def dashboardJson (dashboard : Dashboard) : Json :=
  .object [
    ("title", .string dashboard.title),
    ("uid", .ofOptionString dashboard.uid),
    ("editable", .bool true),
    ("schemaVersion", .number 12),
    ("style", .string "dark"),
    ("timezone", .string "utc"),
    ("refresh", .string "10s"),
    ("time", .object [("from", .string "now-1h"), ("to", .string "now")]),
    ("tags", .array []),
    ("links", .array []),
    ("annotations", .object [("list", .array [])]),
    ("templating", .object [("list", .array (dashboard.templating.map templateJson))]),
    ("rows", .array (dashboard.rows.map rowJson))]

/-- The text of the document of a dashboard, indented or compact. -/
def render (dashboard : Dashboard) (pretty : Bool) : String :=
  (dashboardJson dashboard).text pretty

end DashboardGenerator.Grafana
