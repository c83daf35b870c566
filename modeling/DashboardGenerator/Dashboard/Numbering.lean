import DashboardGenerator.Dashboard.Basic

/-!
# Panel numbers

Panels are numbered from `firstPanelId` through the whole dashboard: the count runs on from one row
to the next, and a number that a panel already carries is overwritten.
-/

namespace DashboardGenerator

/-- The number of the first panel. -/
def firstPanelId : Nat := 1

/-- Number the panels of one row, the first of them with `next`. -/
def Row.number (row : Row) (next : Nat) : Row :=
  ⟨row.panels.mapIdx fun position panel =>
    { panel with id := some (UInt32.ofNat (next + position)) }⟩

/-- Number the panels of all rows, the count running on from row to row. -/
def Row.numberAll : Nat → List Row → List Row
  | _, [] => []
  | next, row :: rows => row.number next :: numberAll (next + row.panels.length) rows

/-- Number every panel of the dashboard. -/
def Dashboard.assignPanelIds (dashboard : Dashboard) : Dashboard :=
  { dashboard with rows := Row.numberAll firstPanelId dashboard.rows }

end DashboardGenerator
