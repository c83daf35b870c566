import DashboardGenerator.Dashboard.Numbering

/-!
# Dashboard definitions

A definition describes a dashboard before it is built: it carries no external identifier and no
panel numbers. Building it keeps every element in its place and numbers the panels.
-/

namespace DashboardGenerator

/-- A template variable as a definition describes it. -/
structure TemplateDefinition where
  name : String
  dataSource : String
  query : String
  regex : Option String
  default : String
deriving Repr, DecidableEq, Inhabited

/-- A query as a definition describes it. -/
structure TargetDefinition where
  expression : String
  legendFormat : String
deriving Repr, DecidableEq, Inhabited

/-- A panel as a definition describes it. -/
structure PanelDefinition where
  title : String
  dataSource : String
  transparent : Bool
  targets : List TargetDefinition
deriving Repr, DecidableEq, Inhabited

/-- A row as a definition describes it. -/
structure RowDefinition where
  panels : List PanelDefinition
deriving Repr, DecidableEq, Inhabited

/-- The description of a whole dashboard. -/
structure DashboardDefinition where
  title : String
  templating : List TemplateDefinition
  rows : List RowDefinition
deriving Repr, DecidableEq, Inhabited

/-- The template variable that a definition describes. -/
def TemplateDefinition.toTemplate (definition : TemplateDefinition) : Template :=
  ⟨definition.name, definition.dataSource, definition.query, definition.regex, definition.default⟩

/-- The query that a definition describes. -/
def TargetDefinition.toTarget (definition : TargetDefinition) : Target :=
  ⟨definition.expression, definition.legendFormat⟩

/-- The panel that a definition describes, not yet numbered. -/
def PanelDefinition.toPanel (definition : PanelDefinition) : Panel where
  id := none
  title := definition.title
  dataSource := definition.dataSource
  transparent := definition.transparent
  targets := definition.targets.map TargetDefinition.toTarget

/-- The row that a definition describes. -/
def RowDefinition.toRow (definition : RowDefinition) : Row :=
  ⟨definition.panels.map PanelDefinition.toPanel⟩

/-- The dashboard that a definition describes, its panels numbered. -/
def DashboardDefinition.build (definition : DashboardDefinition) : Dashboard :=
  Dashboard.assignPanelIds {
    title := definition.title
    uid := none
    templating := definition.templating.map TemplateDefinition.toTemplate
    rows := definition.rows.map RowDefinition.toRow }

end DashboardGenerator
