import DashboardGenerator.Dashboard.Basic
import DashboardGenerator.Dashboard.Placeholder

/-!
# Validation

A dashboard is sound when no two template variables share a name and every variable that a query
references is declared. A repeated name is reported before an undeclared variable, and of several
faults of one kind the first in document order is reported.
-/

namespace DashboardGenerator

/-- Why a dashboard is rejected. -/
inductive DashboardError where
  | duplicateTemplate (name : String)
  | undefinedVariable (panel name : String)
deriving Repr, DecidableEq

/-- The sentence that reports the fault. -/
def DashboardError.message : DashboardError → String
  | .duplicateTemplate name => s!"template variable `{name}` is declared more than once"
  | .undefinedVariable panel name =>
    s!"panel `{panel}` references undefined template variable `{name}`"

/-- The first element of a list that also stands before its own place. -/
def firstRepeat? (names : List String) : Option String :=
  go [] names
where
  /-- The first element that stands earlier or among `seen`. -/
  go (seen : List String) : List String → Option String
    | [] => none
    | name :: rest => if name ∈ seen then some name else go (name :: seen) rest

/-- The variables that the panel's queries reference, query by query. -/
def Panel.variables (panel : Panel) : List String :=
  panel.targets.flatMap fun target => Placeholder.referencedVariables target.expression

/-- The first variable of a panel that no template declares, as the fault it is. -/
def Panel.undefinedVariable? (panel : Panel) (declared : List String) : Option DashboardError :=
  (panel.variables.find? fun name => name ∉ declared).map
    (DashboardError.undefinedVariable panel.title)

namespace Dashboard

/-- The first fault of the dashboard, if it has one. -/
def fault? (dashboard : Dashboard) : Option DashboardError :=
  match firstRepeat? dashboard.templateNames with
  | some name => some (.duplicateTemplate name)
  | none =>
    dashboard.panels.findSome? fun panel => panel.undefinedVariable? dashboard.templateNames

/-- Accept a sound dashboard, or report its first fault. -/
def validate (dashboard : Dashboard) : Except DashboardError Unit :=
  match dashboard.fault? with
  | some fault => .error fault
  | none => .ok ()

end Dashboard

end DashboardGenerator
