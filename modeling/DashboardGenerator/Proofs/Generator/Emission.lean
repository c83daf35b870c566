import DashboardGenerator.Grafana.Page
import DashboardGenerator.Proofs.Dashboard.Numbering
import DashboardGenerator.Proofs.Dashboard.Validation
import DashboardGenerator.Proofs.Files
import DashboardGenerator.Proofs.Generator.Failure
import DashboardGenerator.Proofs.Grafana.ReferenceId
import DashboardGenerator.Proofs.Grafana.RoundTrip

/-!
# The document that a run emits

`Page.Sound` lists what the reader of a document relies on. The page of a numbered dashboard that
was accepted is sound (`page_sound`), its document is read back to that page
(`page_of_dashboard_json`), and every run that does not fail emits the text of such a document
(`emits_of_exit`, `emitted_document_sound`).
-/

namespace DashboardGenerator

namespace Grafana

/-- The variables are named apart, every referenced variable is among them, the panels are numbered
through from one, the queries of a panel can be told apart, and the page carries the external
identifier. The numbering is promised as far as the numbers fit. -/
structure Page.Sound (page : Page) (uid : Option String) : Prop where
  names_nodup : page.variableNames.Nodup
  declared : ∀ row ∈ page.rows, ∀ panel ∈ row, ∀ query ∈ panel.queries,
    ∀ name ∈ Placeholder.referencedVariables query.expression, name ∈ page.variableNames
  numbered : page.panels.length ≤ 2 ^ 32 - 2 →
    page.panels.map PagePanel.id = (List.range' 1 page.panels.length).map some
  labelled : ∀ row ∈ page.rows, ∀ panel ∈ row,
    (panel.queries.map PageQuery.referenceId).Nodup
  uid_eq : page.uid = uid

/-- The query at a position as its document shows it. -/
def PageQuery.ofTarget (position : Nat) (target : Target) : PageQuery :=
  ⟨target.expression, Grafana.referenceId position⟩

/-- A panel as its document shows it. -/
def PagePanel.ofPanel (panel : Panel) : PagePanel :=
  ⟨panel.id.map UInt32.toNat, panel.targets.mapIdx PageQuery.ofTarget⟩

/-- A dashboard as its document shows it. -/
def Page.ofDashboard (dashboard : Dashboard) : Page :=
  ⟨dashboard.uid, dashboard.templateNames,
    dashboard.rows.map fun row => row.panels.map PagePanel.ofPanel⟩

/-- The panel that a document shows is read from it. -/
theorem page_panel_of_panel_json (panel : Panel) :
    PagePanel.ofJson? (panelJson panel) = some (PagePanel.ofPanel panel) := by
  have hid : (panelJson panel).read? "id" optionalNumber? =
      some (panel.id.map UInt32.toNat) := by
    rcases panel with ⟨id, title, dataSource, transparent, targets⟩
    cases id <;> rfl
  -- The fields of a query stand at fixed names, whatever its texts are.
  have hquery : ∀ position target, PageQuery.ofJson? (targetJson position target) =
      some (PageQuery.ofTarget position target) := fun _ _ => rfl
  rw [PagePanel.ofJson?, hid]
  show (Json.list? PageQuery.ofJson? (.array (targetsJson panel.targets))).bind _ = _
  rw [targetsJson, Json.list_of_map_idx hquery]
  rfl

/-- The page that a document shows is read from it. -/
theorem page_of_dashboard_json (dashboard : Dashboard) :
    Page.ofJson? (dashboardJson dashboard) = some (Page.ofDashboard dashboard) := by
  have hname : ∀ template, (templateJson template).read? "name" Json.string? =
      some template.name := fun _ => rfl
  have hrow : ∀ row, (rowJson row).read? "panels" (Json.list? PagePanel.ofJson?) =
      some (row.panels.map PagePanel.ofPanel) :=
    fun row => Json.list_of_map page_panel_of_panel_json row.panels
  show (optionalString? (.ofOptionString dashboard.uid)).bind _ = _
  rw [optional_string_of_option]
  show (Json.list? (·.read? "name" Json.string?)
    (.array (dashboard.templating.map templateJson))).bind _ = _
  rw [Json.list_of_map hname]
  show (Json.list? (·.read? "panels" (Json.list? PagePanel.ofJson?))
    (.array (dashboard.rows.map rowJson))).bind _ = _
  rw [Json.list_of_map hrow]
  rfl

/-- The panels of a page are those of the dashboard in display order. -/
theorem panels_of_dashboard (dashboard : Dashboard) :
    (Page.ofDashboard dashboard).panels = dashboard.panels.map PagePanel.ofPanel := by
  rw [Dashboard.panels, List.map_flatMap]
  rfl

/-- The queries of a panel carry the first reference identifiers, as many as there are queries. -/
theorem reference_ids_of_targets (targets : List Target) :
    (targets.mapIdx PageQuery.ofTarget).map PageQuery.referenceId =
      (List.range targets.length).map referenceId := by
  apply List.ext_getElem
  · simp
  · intro position _ _
    simp [PageQuery.ofTarget]

/-- The queries of a panel carry different reference identifiers. -/
theorem nodup_reference_ids (targets : List Target) :
    ((targets.mapIdx PageQuery.ofTarget).map PageQuery.referenceId).Nodup := by
  rw [reference_ids_of_targets]
  exact (List.nodup_range).map reference_id_injective

/-- The page of a numbered dashboard that is accepted is sound. -/
theorem page_sound {dashboard : Dashboard} {uid : Option String}
    (hvalid : (dashboard.assignPanelIds.withUid uid).validate = .ok ()) :
    (Page.ofDashboard (dashboard.assignPanelIds.withUid uid)).Sound uid := by
  obtain ⟨hnodup, hdeclared⟩ := Dashboard.validate_eq_ok_iff.mp hvalid
  -- What stands on the page comes from the dashboard at the same place.
  refine ⟨hnodup, ?_, ?_, ?_, rfl⟩
  · intro row hrow panel hpanel query hquery name hname
    obtain ⟨source, hsource, rfl⟩ := List.mem_map.mp hrow
    obtain ⟨sourcePanel, hsourcePanel, rfl⟩ := List.mem_map.mp hpanel
    obtain ⟨position, target, htarget, rfl⟩ := List.mem_mapIdx.mp hquery
    exact hdeclared sourcePanel (List.mem_flatMap.mpr ⟨source, hsource, hsourcePanel⟩) _
      (List.getElem_mem target) name hname
  · intro hcount
    -- The count starts at one, so the last number still fits into thirty-two bits.
    rw [panels_of_dashboard, List.length_map] at hcount ⊢
    have hids := Dashboard.ids_assign_panel_ids dashboard
    rw [← toNat_panel_ids_from (by omega)]
    show _ = (panelIdsFrom firstPanelId dashboard.assignPanelIds.panels.length).map _
    rw [← hids, List.map_map, List.map_map]
    rfl
  · intro row hrow panel hpanel
    obtain ⟨source, hsource, rfl⟩ := List.mem_map.mp hrow
    obtain ⟨sourcePanel, hsourcePanel, rfl⟩ := List.mem_map.mp hpanel
    exact nodup_reference_ids sourcePanel.targets

end Grafana

/-- A dashboard that settings ask for has numbered panels. -/
theorem Machine.Asks.is_numbered {World : Type} {machine : Machine World} {world : World}
    {settings : Settings} {dashboard : Dashboard} (hasks : machine.Asks world settings dashboard) :
    ∃ unnumbered : Dashboard, dashboard = unnumbered.assignPanelIds := by
  cases hasks with
  | builtIn hpath => exact ⟨_, rfl⟩
  | defined hpath hread htext hparse => exact ⟨_, rfl⟩

namespace Files

/-- The text that a run emits under its settings: what it prints but for the last line break, or
what stands afterwards in the file that the settings name. -/
def Emits (platform : Platform) (files : Files) (environment : Environment) (settings : Settings)
    (text : String) : Prop :=
  match settings.outputPath with
  | none => ((machine platform).run files environment).1.output = text ++ "\n"
  | some path =>
    ((machine platform).run files environment).2.read path = .ok (Text.encodeUtf8 text)

variable {platform : Platform} {files : Files} {environment : Environment} {settings : Settings}

/-- A run that does not fail emits the document of the dashboard that its settings ask for. -/
theorem emits_of_exit (hsettings : (machine platform).settings files environment = .ok settings)
    (hexit : ((machine platform).run files environment).1.exitCode = 0) :
    ∃ dashboard, (machine platform).Asks files settings dashboard ∧
      (dashboard.withUid settings.uid).validate = .ok () ∧
      files.Emits platform environment settings (settings.document dashboard) := by
  obtain ⟨loaded, dashboard, hloaded, hasks, hvalid, hwrites⟩ :=
    Machine.run_exit_code_eq_zero_iff.mp hexit
  obtain rfl := Except.ok.inj (hsettings.symm.trans hloaded)
  refine ⟨dashboard, hasks, hvalid, ?_⟩
  obtain ⟨events, hrun⟩ := Machine.run_of_valid hsettings hasks hvalid
  -- A document that went to a file is emitted if the file is read back from its path.
  unfold Emits
  rw [hrun]
  cases hpath : settings.outputPath with
  | none => rfl
  | some path =>
      obtain ⟨after, hwrite⟩ := hwrites path hpath
      dsimp only
      rw [hwrite]
      rw [machine_write] at hwrite
      exact read_write hwrite

/-- On every platform every run that does not fail emits a JSON document whose variables are named
apart and declare all that is referenced, whose panels are numbered through from one, whose queries
can be told apart within their panel, and whose external identifier is that of the loaded settings. -/
theorem emitted_document_sound {platform : Platform} {files : Files} {environment : Environment}
    (hexit : ((machine platform).run files environment).1.exitCode = 0) :
    ∃ settings text document page,
      (machine platform).settings files environment = .ok settings ∧
      files.Emits platform environment settings text ∧ Json.parse? text = some document ∧
      Grafana.Page.ofJson? document = some page ∧ page.Sound settings.uid := by
  obtain ⟨settings, _, hsettings, -⟩ := Machine.run_exit_code_eq_zero_iff.mp hexit
  obtain ⟨dashboard, hasks, hvalid, hemits⟩ := emits_of_exit hsettings hexit
  obtain ⟨unnumbered, rfl⟩ := hasks.is_numbered
  exact ⟨settings, _, _, _, hsettings, hemits, Json.parse_text _ settings.pretty,
    Grafana.page_of_dashboard_json _, Grafana.page_sound hvalid⟩

/-- A definition with one template variable and one query that references it. -/
def oneQueryFiles : Files where
  entries := [(["page.toml"], .file (Text.encodeUtf8
    "title='T'\ntemplating=[['z','','']]\nrows=[[[['','',0,[['$z']]]]]]"))]
  current := []

/-- Settings that read the definition and write the document to a file. -/
def oneQueryEnvironment : Environment :=
  .ofTexts [("DASHBOARD_DEFINITION_PATH", "page.toml"), ("Dashboard_Output_Path", "page.json")]

/-- The definition is accepted, so the file that is written holds a sound document. -/
theorem emitted_document_sound_one_query :
    ((machine .plain).run oneQueryFiles oneQueryEnvironment).1.exitCode = 0 ∧
      ∃ settings text document page,
        (machine .plain).settings oneQueryFiles oneQueryEnvironment = .ok settings ∧
        oneQueryFiles.Emits .plain oneQueryEnvironment settings text ∧
        Json.parse? text = some document ∧ Grafana.Page.ofJson? document = some page ∧
        page.Sound settings.uid := by
  have hexit : ((machine .plain).run oneQueryFiles oneQueryEnvironment).1.exitCode = 0 := by
    decide +kernel
  exact ⟨hexit, emitted_document_sound hexit⟩

end Files

end DashboardGenerator
