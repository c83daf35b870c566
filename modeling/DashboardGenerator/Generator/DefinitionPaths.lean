import DashboardGenerator.Config.Host
import DashboardGenerator.Config.PathText
import DashboardGenerator.Generator.DefinitionText

/-!
# Definitions as path keys

A definition as a flat list of assignments, one for every value without parts, each at the path that
leads to it, as in `rows[0].panels[1].title`. A list without elements needs no assignment, except for
the panels of a row, since the row has nothing else. In a text every path is the quoted key of a line.
-/

namespace DashboardGenerator

open Config
open Toml hiding Value

namespace Config

/-- Values that are set in a tree, and the steps to them. -/
abbrev Leaves := List (List Step × Literal)

namespace Leaves

/-- The leaves, one step further away. -/
def behind (step : Step) (leaves : Leaves) : Leaves :=
  leaves.map fun leaf => (step :: leaf.1, leaf.2)

/-- The leaves of a table from its keys and their values. -/
def ofLines (lines : List (String × Literal)) : Leaves :=
  lines.map fun line => ([.key line.1], line.2)

/-- The leaves of the elements of an array from a position on. -/
def ofItems {α : Type} (write : α → Leaves) : Nat → List α → Leaves
  | _, [] => []
  | position, item :: rest =>
    behind (.index position) (write item) ++ ofItems write (position + 1) rest

/-- The leaves as assignments below a root. -/
def rooted (root : String) (leaves : Leaves) : List (Path × Literal) :=
  leaves.map fun leaf => (⟨root, leaf.1⟩, leaf.2)

end Leaves

end Config

/-- The leaves of a query. -/
def TargetDefinition.leaves (target : TargetDefinition) : Leaves :=
  .ofLines target.lines

/-- The leaves of a panel. -/
def PanelDefinition.leaves (panel : PanelDefinition) : Leaves :=
  .ofLines panel.lines ++
    .behind (.key "targets") (.ofItems TargetDefinition.leaves 0 panel.targets)

/-- The leaves of a row. -/
def RowDefinition.leaves (row : RowDefinition) : Leaves :=
  .behind (.key "panels")
    (if row.panels.isEmpty then [([], .array [])] else .ofItems PanelDefinition.leaves 0 row.panels)

/-- The leaves of a template. -/
def TemplateDefinition.leaves (template : TemplateDefinition) : Leaves :=
  .ofLines template.lines

namespace DashboardDefinition

/-- The assignments that make up a definition. -/
def assignments (definition : DashboardDefinition) : List (Path × Literal) :=
  Leaves.rooted "title" [([], .string definition.title)] ++
  Leaves.rooted "templating" (.ofItems TemplateDefinition.leaves 0 definition.templating) ++
  Leaves.rooted "rows" (.ofItems RowDefinition.leaves 0 definition.rows)

/-- Every list is short enough for its indexes to be written, as any list in memory is. -/
structure IndexesFit (definition : DashboardDefinition) : Prop where
  templating : definition.templating.length ≤ indexLimit
  rows : definition.rows.length ≤ indexLimit
  panels : ∀ row ∈ definition.rows, row.panels.length ≤ indexLimit
  targets : ∀ row ∈ definition.rows, ∀ panel ∈ row.panels, panel.targets.length ≤ indexLimit

/-- The host has room for arrays as long as every list. -/
structure HasRoom (definition : DashboardDefinition) (host : Host) : Prop where
  templating : host.HoldsArrays definition.templating.length
  rows : host.HoldsArrays definition.rows.length
  panels : ∀ row ∈ definition.rows, host.HoldsArrays row.panels.length
  targets : ∀ row ∈ definition.rows, ∀ panel ∈ row.panels, host.HoldsArrays panel.targets.length

end DashboardDefinition

/-- The paths of assignments as keys, with their values. -/
def pathLines (assignments : List (Path × Literal)) : List (String × Literal) :=
  assignments.map fun assignment => (assignment.1.text, assignment.2)

/-- The text that gives each path its value on a line of its own. -/
def pathKeyText (assignments : List (Path × Literal)) : String :=
  quotedText (pathLines assignments)

end DashboardGenerator
