import DashboardGenerator.Dashboard.Numbering
import DashboardGenerator.Dashboard.Definition
import DashboardGenerator.Dashboard.Services

/-!
# Editing a dashboard

Single changes to a dashboard, each at a place given by indexes that count from zero. A change at a
place that does not exist is refused and leaves nothing behind.
-/

namespace DashboardGenerator

/-- One change to a dashboard. -/
inductive Edit where
  | replace (dashboard : Dashboard)
  | assignIds
  | setUid (uid : Option String)
  | setId (row panel : Nat) (id : Option UInt32)
  | setRegex (template : Nat) (regex : Option String)
  | pushRow (row : Row)
  | pushTemplate (template : Template)
  | pushPanel (row : Nat) (panel : Panel)
  | pushTarget (row panel : Nat) (target : Target)
  | removeRow (row : Nat)
  | removePanel (row panel : Nat)
  | removeTemplate (template : Nat)
  | swapRows (row other : Nat)
  | swapPanels (row panel other : Nat)
deriving Repr, DecidableEq

/-- Change the element at an index, if the list has one there and the change succeeds. -/
def modifyAt? {α : Type} (change : α → Option α) (items : List α) (index : Nat) :
    Option (List α) := do
  let item ← items[index]?
  let changed ← change item
  return items.set index changed

/-- The list without the element at an index, if it has one there. -/
def removeAt? {α : Type} (items : List α) (index : Nat) : Option (List α) :=
  if index < items.length then some (items.eraseIdx index) else none

/-- The list with the elements at two indexes exchanged, if it has both. -/
def swapAt? {α : Type} (items : List α) (index other : Nat) : Option (List α) := do
  let first ← items[index]?
  let second ← items[other]?
  return (items.set index second).set other first

namespace Dashboard

/-- Change one row. -/
def modifyRow? (dashboard : Dashboard) (row : Nat) (change : List Panel → Option (List Panel)) :
    Option Dashboard := do
  let rows ← modifyAt? (fun found => (change found.panels).map Row.mk) dashboard.rows row
  return { dashboard with rows }

/-- Change one panel. -/
def modifyPanel? (dashboard : Dashboard) (row panel : Nat) (change : Panel → Panel) :
    Option Dashboard :=
  dashboard.modifyRow? row fun panels => modifyAt? (some ∘ change) panels panel

/-- Carry out one change; a place that does not exist gives nothing. -/
def edit? (dashboard : Dashboard) : Edit → Option Dashboard
  | .replace other => some other
  | .assignIds => some dashboard.assignPanelIds
  | .setUid uid => some (dashboard.withUid uid)
  | .setId row panel id => dashboard.modifyPanel? row panel fun found => { found with id }
  | .setRegex template regex => do
    let templating ← modifyAt? (fun found => some { found with regex }) dashboard.templating
      template
    return { dashboard with templating }
  | .pushRow row => some { dashboard with rows := dashboard.rows ++ [row] }
  | .pushTemplate template =>
    some { dashboard with templating := dashboard.templating ++ [template] }
  | .pushPanel row panel => dashboard.modifyRow? row fun panels => some (panels ++ [panel])
  | .pushTarget row panel target =>
    dashboard.modifyPanel? row panel fun found =>
      { found with targets := found.targets ++ [target] }
  | .removeRow row => do return { dashboard with rows := ← removeAt? dashboard.rows row }
  | .removePanel row panel => dashboard.modifyRow? row fun panels => removeAt? panels panel
  | .removeTemplate template => do
    return { dashboard with templating := ← removeAt? dashboard.templating template }
  | .swapRows row other => do return { dashboard with rows := ← swapAt? dashboard.rows row other }
  | .swapPanels row panel other =>
    dashboard.modifyRow? row fun panels => swapAt? panels panel other

end Dashboard

end DashboardGenerator
