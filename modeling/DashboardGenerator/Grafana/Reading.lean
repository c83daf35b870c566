import DashboardGenerator.Grafana.Document
import DashboardGenerator.Json.Reader

/-!
# Reading the Grafana document of a dashboard

What a dashboard says is read back from the fields of its document that hold it; the fixed settings
are passed over. A field that is missing or of another kind gives nothing.
-/

namespace DashboardGenerator

/-- Read a field of an object. -/
def Json.read? {α : Type} (document : Json) (name : String) (read : Json → Option α) : Option α :=
  (document.field? name).bind read

/-- Read the elements of an array. -/
def Json.list? {α : Type} (read : Json → Option α) (document : Json) : Option (List α) :=
  document.items?.bind (·.mapM read)

namespace Grafana

/-- Read a string or `null`. -/
def optionalString? : Json → Option (Option String)
  | .null => some none
  | .string value => some (some value)
  | _ => none

/-- Read a panel number or `null`. -/
def panelId? : Json → Option (Option UInt32)
  | .null => some none
  | .number value => if value < UInt32.size then some (some (UInt32.ofNat value)) else none
  | _ => none

/-- Read a truth value. -/
def truth? : Json → Option Bool
  | .bool value => some value
  | _ => none

/-- Read a template variable. -/
def templateOf? (document : Json) : Option Template := do
  let name ← document.read? "name" Json.string?
  let dataSource ← document.read? "datasource" Json.string?
  let query ← document.read? "query" Json.string?
  let regex ← document.read? "regex" optionalString?
  let default ← document.read? "current" (·.read? "text" Json.string?)
  return ⟨name, dataSource, query, regex, default⟩

/-- Read a query. -/
def targetOf? (document : Json) : Option Target := do
  let expression ← document.read? "expr" Json.string?
  let legendFormat ← document.read? "legendFormat" Json.string?
  return ⟨expression, legendFormat⟩

/-- Read a panel. -/
def panelOf? (document : Json) : Option Panel := do
  let id ← document.read? "id" panelId?
  let title ← document.read? "title" Json.string?
  let dataSource ← document.read? "datasource" Json.string?
  let transparent ← document.read? "transparent" truth?
  let targets ← document.read? "targets" (Json.list? targetOf?)
  return ⟨id, title, dataSource, transparent, targets⟩

/-- Read a row. -/
def rowOf? (document : Json) : Option Row := do
  let panels ← document.read? "panels" (Json.list? panelOf?)
  return ⟨panels⟩

/-- Read a dashboard. -/
def dashboardOf? (document : Json) : Option Dashboard := do
  let title ← document.read? "title" Json.string?
  let uid ← document.read? "uid" optionalString?
  let templating ← document.read? "templating" (·.read? "list" (Json.list? templateOf?))
  let rows ← document.read? "rows" (Json.list? rowOf?)
  return ⟨title, uid, templating, rows⟩

/-- The dashboard that a text describes. -/
def decode? (text : String) : Option Dashboard :=
  (Json.parse? text).bind dashboardOf?

end Grafana

end DashboardGenerator
