import DashboardGenerator.Dashboard.Definition
import DashboardGenerator.Proofs.Dashboard.Renumbering
import DashboardGenerator.Proofs.Dashboard.Validation

/-!
# Describing a dashboard

Every dashboard has a definition, which leaves out its external identifier and the numbers of its
panels (`Dashboard.definition`). `Dashboard.Realizes` says field by field what it is for a dashboard
to be as a definition describes it, and holds of no other definition (`Dashboard.realizes_iff`).
Building a definition and describing a dashboard undo each other but for what a definition leaves
out: `build_inverts_definition`.
-/

namespace DashboardGenerator

/-! ## The definition of a dashboard -/

/-- The definition of a template. -/
def Template.definition (template : Template) : TemplateDefinition :=
  ⟨template.name, template.dataSource, template.query, template.regex, template.default⟩

/-- The definition of a query. -/
def Target.definition (target : Target) : TargetDefinition :=
  ⟨target.expression, target.legendFormat⟩

/-- The definition of a panel. -/
def Panel.definition (panel : Panel) : PanelDefinition where
  title := panel.title
  dataSource := panel.dataSource
  transparent := panel.transparent
  targets := panel.targets.map Target.definition

/-- The definition of a row. -/
def Row.definition (row : Row) : RowDefinition :=
  ⟨row.panels.map Panel.definition⟩

/-- The definition of a dashboard. -/
def Dashboard.definition (dashboard : Dashboard) : DashboardDefinition where
  title := dashboard.title
  templating := dashboard.templating.map Template.definition
  rows := dashboard.rows.map Row.definition

/-- The number of panels over all rows. -/
def DashboardDefinition.panelCount (definition : DashboardDefinition) : Nat :=
  definition.rows.foldr (fun row count => row.panels.length + count) 0

/-! ## What a definition fixes -/

/-- The template is as the definition describes it. -/
structure Template.Realizes (template : Template) (definition : TemplateDefinition) : Prop where
  name_eq : template.name = definition.name
  dataSource_eq : template.dataSource = definition.dataSource
  query_eq : template.query = definition.query
  regex_eq : template.regex = definition.regex
  default_eq : template.default = definition.default

/-- The query is as the definition describes it. -/
structure Target.Realizes (target : Target) (definition : TargetDefinition) : Prop where
  expression_eq : target.expression = definition.expression
  legendFormat_eq : target.legendFormat = definition.legendFormat

/-- The panel is as the definition describes it, whatever its number. -/
structure Panel.Realizes (panel : Panel) (definition : PanelDefinition) : Prop where
  title_eq : panel.title = definition.title
  dataSource_eq : panel.dataSource = definition.dataSource
  transparent_eq : panel.transparent = definition.transparent
  targets : List.Forall₂ Target.Realizes panel.targets definition.targets

/-- The row is as the definition describes it. -/
structure Row.Realizes (row : Row) (definition : RowDefinition) : Prop where
  panels : List.Forall₂ Panel.Realizes row.panels definition.panels

/-- The dashboard is as the definition describes it, whatever its external identifier. -/
structure Dashboard.Realizes (dashboard : Dashboard) (definition : DashboardDefinition) :
    Prop where
  title_eq : dashboard.title = definition.title
  templating : List.Forall₂ Template.Realizes dashboard.templating definition.templating
  rows : List.Forall₂ Row.Realizes dashboard.rows definition.rows

/-- Lists are related element by element by what a function says exactly if it maps one to the
other. -/
theorem forall₂_iff_map_eq {α β : Type} {related : α → β → Prop} {view : α → β}
    (hrelated : ∀ item result, related item result ↔ view item = result) {items : List α}
    {results : List β} : List.Forall₂ related items results ↔ items.map view = results := by
  have hview : related = fun item result => view item = result :=
    funext fun item => funext fun result => propext (hrelated item result)
  rw [hview, ← List.forall₂_map_left_iff (f := view) (R := Eq), List.forall₂_eq_eq_eq]

/-- A template realizes its definition alone. -/
theorem Template.realizes_iff (template : Template) (definition : TemplateDefinition) :
    template.Realizes definition ↔ template.definition = definition := by
  constructor
  · rintro ⟨hname, hdataSource, hquery, hregex, hdefault⟩
    rw [Template.definition, hname, hdataSource, hquery, hregex, hdefault]
  · rintro rfl
    exact ⟨rfl, rfl, rfl, rfl, rfl⟩

/-- A query realizes its definition alone. -/
theorem Target.realizes_iff (target : Target) (definition : TargetDefinition) :
    target.Realizes definition ↔ target.definition = definition := by
  constructor
  · rintro ⟨hexpression, hlegendFormat⟩
    rw [Target.definition, hexpression, hlegendFormat]
  · rintro rfl
    exact ⟨rfl, rfl⟩

/-- A panel realizes its definition alone. -/
theorem Panel.realizes_iff (panel : Panel) (definition : PanelDefinition) :
    panel.Realizes definition ↔ panel.definition = definition := by
  have htargets {results} : List.Forall₂ Target.Realizes panel.targets results ↔ _ :=
    forall₂_iff_map_eq Target.realizes_iff
  constructor
  · rintro ⟨htitle, hdataSource, htransparent, hlist⟩
    rw [Panel.definition, htitle, hdataSource, htransparent, htargets.mp hlist]
  · rintro rfl
    exact ⟨rfl, rfl, rfl, htargets.mpr rfl⟩

/-- A row realizes its definition alone. -/
theorem Row.realizes_iff (row : Row) (definition : RowDefinition) :
    row.Realizes definition ↔ row.definition = definition := by
  have hpanels {results} : List.Forall₂ Panel.Realizes row.panels results ↔ _ :=
    forall₂_iff_map_eq Panel.realizes_iff
  constructor
  · rintro ⟨hlist⟩
    rw [Row.definition, hpanels.mp hlist]
  · rintro rfl
    exact ⟨hpanels.mpr rfl⟩

/-- A dashboard realizes its definition alone. -/
theorem Dashboard.realizes_iff (dashboard : Dashboard) (definition : DashboardDefinition) :
    dashboard.Realizes definition ↔ dashboard.definition = definition := by
  have htemplating {results} : List.Forall₂ Template.Realizes dashboard.templating results ↔ _ :=
    forall₂_iff_map_eq Template.realizes_iff
  have hrows {results} : List.Forall₂ Row.Realizes dashboard.rows results ↔ _ :=
    forall₂_iff_map_eq Row.realizes_iff
  constructor
  · rintro ⟨htitle, htemplates, hlist⟩
    rw [Dashboard.definition, htitle, htemplating.mp htemplates, hrows.mp hlist]
  · rintro rfl
    exact ⟨rfl, htemplating.mpr rfl, hrows.mpr rfl⟩

/-! ## Building and describing -/

@[simp] theorem Template.to_template_definition (template : Template) :
    template.definition.toTemplate = template := rfl

@[simp] theorem TemplateDefinition.definition_to_template (definition : TemplateDefinition) :
    definition.toTemplate.definition = definition := rfl

@[simp] theorem Target.to_target_definition (target : Target) :
    target.definition.toTarget = target := rfl

@[simp] theorem TargetDefinition.definition_to_target (definition : TargetDefinition) :
    definition.toTarget.definition = definition := rfl

/-- The panel that is built from the definition of a panel is that panel without its number. -/
@[simp] theorem Panel.to_panel_definition (panel : Panel) :
    panel.definition.toPanel = panel.withoutId := by
  simp [Panel.definition, PanelDefinition.toPanel, withoutId, Function.comp_def]

/-- A panel that is built from a definition has that definition. -/
@[simp] theorem PanelDefinition.definition_to_panel (definition : PanelDefinition) :
    definition.toPanel.definition = definition := by
  simp [Panel.definition, toPanel, Function.comp_def]

/-- The row that is built from the definition of a row is that row without numbers. -/
@[simp] theorem Row.to_row_definition (row : Row) : row.definition.toRow = row.withoutIds := by
  simp [Row.definition, RowDefinition.toRow, withoutIds, Function.comp_def]

/-- A row that is built from a definition has that definition. -/
@[simp] theorem RowDefinition.definition_to_row (definition : RowDefinition) :
    definition.toRow.definition = definition := by
  simp [Row.definition, toRow, Function.comp_def]

/-- The number of a panel is not part of its definition. -/
@[simp] theorem Panel.definition_without_id (panel : Panel) :
    panel.withoutId.definition = panel.definition := rfl

/-- The numbers of panels are not part of the definition of a row. -/
@[simp] theorem Row.definition_without_ids (row : Row) :
    row.withoutIds.definition = row.definition := by
  simp [Row.definition, withoutIds, Function.comp_def]

/-- The numbers of panels are not part of the definition of a dashboard. -/
theorem Dashboard.definition_without_ids (dashboard : Dashboard) :
    dashboard.withoutIds.definition = dashboard.definition := by
  simp [Dashboard.definition, withoutIds, Function.comp_def]

/-- Numbering does not change the definition of a dashboard. -/
theorem Dashboard.definition_assign_panel_ids (dashboard : Dashboard) :
    dashboard.assignPanelIds.definition = dashboard.definition := by
  rw [← definition_without_ids, without_ids_assign_panel_ids, definition_without_ids]

/-- The dashboard that a definition describes, its panels not yet numbered. -/
def DashboardDefinition.unnumbered (definition : DashboardDefinition) : Dashboard where
  title := definition.title
  uid := none
  templating := definition.templating.map TemplateDefinition.toTemplate
  rows := definition.rows.map RowDefinition.toRow

/-- Building a definition numbers the panels of the dashboard that it describes. -/
theorem DashboardDefinition.build_eq (definition : DashboardDefinition) :
    definition.build = definition.unnumbered.assignPanelIds := rfl

/-- A dashboard has as many panels as its definition describes. -/
theorem DashboardDefinition.panelCount_unnumbered (definition : DashboardDefinition) :
    definition.unnumbered.panelCount = definition.panelCount := by
  simp [Dashboard.panelCount, unnumbered, DashboardDefinition.panelCount, List.foldr_map,
    RowDefinition.toRow]

/-- A dashboard that is built from a definition has that definition. -/
theorem DashboardDefinition.definition_build (definition : DashboardDefinition) :
    definition.build.definition = definition := by
  rw [build_eq, Dashboard.definition_assign_panel_ids]
  simp [Dashboard.definition, unnumbered, Function.comp_def]

/-- What the definition of a dashboard describes is that dashboard without its external identifier
and without numbers. -/
theorem Dashboard.unnumbered_definition (dashboard : Dashboard) :
    dashboard.definition.unnumbered = (dashboard.withUid none).withoutIds := by
  simp [Dashboard.definition, DashboardDefinition.unnumbered, withUid, withoutIds,
    Function.comp_def]

/-- Building the definition of a dashboard numbers that dashboard anew. -/
theorem Dashboard.build_definition (dashboard : Dashboard) :
    dashboard.definition.build = (dashboard.withUid none).assignPanelIds := by
  rw [DashboardDefinition.build_eq, unnumbered_definition, assign_panel_ids_without_ids]

/-! ## Validation -/

/-- Validation reads no number. -/
theorem Dashboard.validate_without_ids (dashboard : Dashboard) :
    dashboard.withoutIds.validate = dashboard.validate := by
  refine validate_congr rfl ?_
  have hrow : ∀ row : Row, row.withoutIds.panels.map Panel.outline =
      row.panels.map Panel.outline := by
    intro row
    simp [Row.withoutIds, Panel.outline, Panel.withoutId]
  simp [panels, withoutIds, List.map_flatMap, List.flatMap_map, hrow]

/-- Numbering changes nothing about validation. -/
theorem Dashboard.validate_assign_panel_ids (dashboard : Dashboard) :
    dashboard.assignPanelIds.validate = dashboard.validate := by
  rw [← validate_without_ids, without_ids_assign_panel_ids, validate_without_ids]

/-- Building and describing are inverse up to the external identifier and the numbers. A dashboard
that is built from a definition is field by field as the definition describes it and has no external
identifier; its panels are numbered through from one on, by a counter of thirty-two bits that does
not overflow. Building the definition of a dashboard is numbering that dashboard without its external
identifier, and validation accepts both or rejects both for the same fault. So different definitions
are built into different dashboards. -/
theorem build_inverts_definition :
    (∀ definition : DashboardDefinition, definition.panelCount ≤ 2 ^ 32 - 2 →
      definition.build.definition = definition ∧ definition.build.Realizes definition ∧
      definition.build.uid = none ∧
      definition.build.panels.map (fun panel => panel.id.map UInt32.toNat) =
        (List.range' 1 definition.panelCount).map some ∧
      definition.unnumbered.countPanelIds? =
        some (definition.build, UInt32.ofNat (definition.panelCount + 1))) ∧
    (∀ dashboard : Dashboard, dashboard.panelCount ≤ 2 ^ 32 - 2 →
      dashboard.Realizes dashboard.definition ∧
      dashboard.definition.build = (dashboard.withUid none).assignPanelIds ∧
      dashboard.definition.build.validate = dashboard.validate) ∧
    ∀ definition other : DashboardDefinition, definition.panelCount ≤ 2 ^ 32 - 2 →
      other.panelCount ≤ 2 ^ 32 - 2 → definition.build = other.build → definition = other := by
  refine ⟨fun definition hcount => ?_, fun dashboard _ => ?_, fun definition other _ _ heq => ?_⟩
  · have hunnumbered := definition.panelCount_unnumbered
    have hroom : definition.unnumbered.panelCount ≤ 2 ^ 32 - 2 := hunnumbered ▸ hcount
    refine ⟨definition.definition_build,
      (Dashboard.realizes_iff _ _).mpr definition.definition_build, rfl, ?_, ?_⟩
    · rw [← hunnumbered]
      exact Dashboard.numbers_assign_panel_ids hroom
    · rw [Dashboard.count_panel_ids_eq, if_pos hroom, hunnumbered]
      rfl
  · refine ⟨(dashboard.realizes_iff _).mpr rfl, dashboard.build_definition, ?_⟩
    rw [dashboard.build_definition, Dashboard.validate_assign_panel_ids]
    rfl
  · rw [← definition.definition_build, heq, other.definition_build]

end DashboardGenerator
