import DashboardGenerator.Grafana.Reading
import Mathlib.Algebra.Group.Nat.Defs

/-!
# The page that a document describes

What the reader of a document goes by: its external identifier, the names in its variable list, and
the panels of its rows with their numbers, expressions and reference identifiers. A page is read
from the document alone, whatever the document was made from.
-/

namespace DashboardGenerator.Grafana

/-- A query as the document shows it. -/
structure PageQuery where
  expression : String
  referenceId : String
deriving Repr, DecidableEq

/-- A panel as the document shows it. -/
structure PagePanel where
  id : Option Nat
  queries : List PageQuery
deriving Repr, DecidableEq

/-- A document as far as its names, numbers and references go. -/
structure Page where
  uid : Option String
  variableNames : List String
  rows : List (List PagePanel)
deriving Repr, DecidableEq

/-- The panels of all rows, row by row. -/
def Page.panels (page : Page) : List PagePanel := page.rows.flatten

/-- Read a number or `null`. -/
def optionalNumber? : Json → Option (Option Nat)
  | .null => some none
  | .number value => some (some value)
  | _ => none

/-- Read a query. -/
def PageQuery.ofJson? (document : Json) : Option PageQuery := do
  let expression ← document.read? "expr" Json.string?
  let referenceId ← document.read? "refId" Json.string?
  return ⟨expression, referenceId⟩

/-- Read a panel. -/
def PagePanel.ofJson? (document : Json) : Option PagePanel := do
  let id ← document.read? "id" optionalNumber?
  let queries ← document.read? "targets" (Json.list? PageQuery.ofJson?)
  return ⟨id, queries⟩

/-- Read a page. -/
def Page.ofJson? (document : Json) : Option Page := do
  let uid ← document.read? "uid" optionalString?
  let variableNames ← document.read? "templating"
    (·.read? "list" (Json.list? (·.read? "name" Json.string?)))
  let rows ← document.read? "rows"
    (Json.list? (·.read? "panels" (Json.list? PagePanel.ofJson?)))
  return ⟨uid, variableNames, rows⟩

end DashboardGenerator.Grafana
