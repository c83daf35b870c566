import DashboardGenerator.Dashboard.Definition
import DashboardGenerator.Toml.Writer

/-!
# Writing dashboard definitions

A definition as a TOML document, in either of two styles: with a section for every template, row,
panel and query, or with all of them inline behind three keys. A regular expression that a template
has not is left out.
-/

namespace DashboardGenerator

open Toml

/-- The two styles of a definition's text. -/
inductive DefinitionStyle where
  | sections
  | inlined
deriving Repr, DecidableEq

/-- The keys of a query. -/
def TargetDefinition.lines (target : TargetDefinition) : List (String × Literal) :=
  [("expr", .string target.expression), ("legend_format", .string target.legendFormat)]

/-- The keys of a panel that are no lists. -/
def PanelDefinition.lines (panel : PanelDefinition) : List (String × Literal) :=
  [("title", .string panel.title), ("data_source", .string panel.dataSource),
    ("transparent", .boolean panel.transparent)]

/-- The keys of a template. -/
def TemplateDefinition.lines (template : TemplateDefinition) : List (String × Literal) :=
  [("name", .string template.name), ("data_source", .string template.dataSource),
    ("query", .string template.query)] ++
  (match template.regex with
    | some regex => [("regex", .string regex)]
    | none => []) ++
  [("default", .string template.default)]

/-! ## Inline -/

/-- A query between braces. -/
def TargetDefinition.literal (target : TargetDefinition) : Literal :=
  .table target.lines

/-- A panel between braces. -/
def PanelDefinition.literal (panel : PanelDefinition) : Literal :=
  .table (panel.lines ++ [("targets", .array (panel.targets.map TargetDefinition.literal))])

/-- A row between braces. -/
def RowDefinition.literal (row : RowDefinition) : Literal :=
  .table [("panels", .array (row.panels.map PanelDefinition.literal))]

/-- A template between braces. -/
def TemplateDefinition.literal (template : TemplateDefinition) : Literal :=
  .table template.lines

/-! ## Sections -/

/-- A query as a section. -/
def TargetDefinition.toSection (target : TargetDefinition) : Section :=
  .mk target.lines []

/-- A panel as a section, its queries below it. -/
def PanelDefinition.toSection (panel : PanelDefinition) : Section :=
  .mk panel.lines [("targets", panel.targets.map TargetDefinition.toSection)]

/-- A row as a section, its panels below it. -/
def RowDefinition.toSection (row : RowDefinition) : Section :=
  .mk [] [("panels", row.panels.map PanelDefinition.toSection)]

/-- A template as a section. -/
def TemplateDefinition.toSection (template : TemplateDefinition) : Section :=
  .mk template.lines []

namespace DashboardDefinition

/-- The document of a definition. -/
def document (definition : DashboardDefinition) : DefinitionStyle → Section
  | .sections =>
    .mk [("title", .string definition.title)]
      [("templating", definition.templating.map TemplateDefinition.toSection),
        ("rows", definition.rows.map RowDefinition.toSection)]
  | .inlined =>
    .mk [("title", .string definition.title),
      ("templating", .array (definition.templating.map TemplateDefinition.literal)),
      ("rows", .array (definition.rows.map RowDefinition.literal))] []

/-- The text of a definition. -/
def write (definition : DashboardDefinition) (style : DefinitionStyle) : String :=
  (definition.document style).text

end DashboardDefinition

end DashboardGenerator
