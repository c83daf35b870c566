/-!
# Dashboards

A dashboard is a titled page of panels, laid out in rows, together with the template variables
that its queries may mention. This module holds the document types and the views on them that the
rest of the library uses: the panels in display order and their number.
-/

namespace DashboardGenerator

/-- One query of a panel together with the text that labels its series. -/
structure Target where
  expression : String
  legendFormat : String
deriving Repr, DecidableEq, Inhabited

/-- A graph with its queries. The identifier is absent until the panels are numbered. -/
structure Panel where
  id : Option UInt32
  title : String
  dataSource : String
  transparent : Bool
  targets : List Target
deriving Repr, DecidableEq, Inhabited

/-- Panels that stand side by side. -/
structure Row where
  panels : List Panel
deriving Repr, DecidableEq, Inhabited

/-- A variable that the reader of the dashboard sets, filled from a query. The regular expression
narrows the values that the query returns. -/
structure Template where
  name : String
  dataSource : String
  query : String
  regex : Option String
  default : String
deriving Repr, DecidableEq, Inhabited

/-- A dashboard. The `uid` is an identifier given from outside. -/
structure Dashboard where
  title : String
  uid : Option String
  templating : List Template
  rows : List Row
deriving Repr, DecidableEq, Inhabited

namespace Dashboard

/-- The dashboard with nothing on it. -/
def empty : Dashboard := ⟨"", none, [], []⟩

/-- The panels in display order: rows from top to bottom, then the panels within a row. -/
def panels (dashboard : Dashboard) : List Panel :=
  dashboard.rows.flatMap Row.panels

/-- The number of panels over all rows. -/
def panelCount (dashboard : Dashboard) : Nat :=
  dashboard.rows.foldr (fun row count => row.panels.length + count) 0

/-- The names of the declared template variables, in order of declaration. -/
def templateNames (dashboard : Dashboard) : List String :=
  dashboard.templating.map Template.name

/-- The same dashboard under another external identifier. -/
def withUid (dashboard : Dashboard) (uid : Option String) : Dashboard :=
  { dashboard with uid }

/-- Counting panels row by row counts the panels in display order. -/
theorem panelCount_eq_length_panels (dashboard : Dashboard) :
    dashboard.panelCount = dashboard.panels.length := by
  rw [panelCount, panels, List.length_flatMap, List.sum, List.foldr_map]

end Dashboard

end DashboardGenerator
