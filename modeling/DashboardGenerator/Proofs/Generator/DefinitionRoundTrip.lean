import DashboardGenerator.Generator.Definition
import DashboardGenerator.Generator.DefinitionText
import DashboardGenerator.Proofs.Config.Fields
import DashboardGenerator.Proofs.Generator.DefinitionSchema

/-!
# Definitions and their text

In either style the text of a definition is read as that definition: `parse_write`. Every part of a
definition fits what can be written (`document_fits`) and is read from the configuration it stands
for, innermost parts first; a list that is empty and therefore not there is read as empty.
-/

namespace DashboardGenerator

open Config
open Toml hiding Value

/-! ## The parts fit -/

/-- Written elements of an array fit if each of them does. -/
theorem array_fits {α : Type} {write : α → Literal} {room : Nat}
    (hwrite : ∀ item, (write item).Fits room) (items : List α) :
    (Literal.array (items.map write)).Fits (room + 1) := by
  refine .array room _ fun item hmem => ?_
  obtain ⟨source, -, rfl⟩ := List.mem_map.mp hmem
  exact hwrite source

/-- Written elements of an array of tables fit if each of them does. -/
theorem group_fits {α : Type} {write : α → Section} {room : Nat}
    (hwrite : ∀ item, (write item).Fits room) (key : String) (items : List α) :
    ∀ group ∈ [(key, items.map write)], ∀ element ∈ group.2, Section.Fits room element := by
  intro group hgroup element hmem
  rw [List.mem_singleton.mp hgroup] at hmem
  obtain ⟨source, -, rfl⟩ := List.mem_map.mp hmem
  exact hwrite source

namespace TargetDefinition

theorem lines_fit (target : TargetDefinition) (room : Nat) :
    ∀ line ∈ target.lines, line.2.Fits room := by
  simp only [lines, List.forall_mem_cons]
  exact ⟨.string .., .string .., nofun⟩

theorem literal_fits (room : Nat) (target : TargetDefinition) : target.literal.Fits (room + 1) :=
  have hkeys : KeysFit DashboardDefinition.targetShape.fields := by decide
  .table room _ hkeys (target.lines_fit room)

theorem section_fits (room : Nat) (target : TargetDefinition) :
    target.toSection.Fits (room + 1) :=
  have hkeys : KeysFit DashboardDefinition.targetShape.fields := by decide
  .mk room _ _ hkeys (target.lines_fit nestingLimit) nofun

end TargetDefinition

namespace PanelDefinition

theorem lines_fit (panel : PanelDefinition) (room : Nat) :
    ∀ line ∈ panel.lines, line.2.Fits room := by
  simp only [lines, List.forall_mem_cons]
  exact ⟨.string .., .string .., .boolean .., nofun⟩

theorem literal_fits (room : Nat) (panel : PanelDefinition) : panel.literal.Fits (room + 3) := by
  have hkeys : KeysFit DashboardDefinition.panelShape.fields := by decide
  refine .table (room + 2) _ hkeys (List.forall_mem_append.mpr ⟨panel.lines_fit _, ?_⟩)
  exact List.forall_mem_singleton.mpr (array_fits (TargetDefinition.literal_fits room) _)

theorem section_fits (room : Nat) (panel : PanelDefinition) : panel.toSection.Fits (room + 2) :=
  have hkeys : KeysFit DashboardDefinition.panelShape.fields := by decide
  .mk (room + 1) _ _ hkeys (panel.lines_fit nestingLimit)
    (group_fits (TargetDefinition.section_fits room) "targets" panel.targets)

end PanelDefinition

namespace RowDefinition

theorem literal_fits (room : Nat) (row : RowDefinition) : row.literal.Fits (room + 5) := by
  have hkeys : KeysFit DashboardDefinition.rowShape.fields := by decide
  refine .table (room + 4) _ hkeys ?_
  exact List.forall_mem_singleton.mpr (array_fits (PanelDefinition.literal_fits room) _)

theorem section_fits (room : Nat) (row : RowDefinition) : row.toSection.Fits (room + 3) :=
  have hkeys : KeysFit DashboardDefinition.rowShape.fields := by decide
  .mk (room + 2) _ _ hkeys nofun
    (group_fits (PanelDefinition.section_fits room) "panels" row.panels)

end RowDefinition

namespace TemplateDefinition

theorem lines_fit (template : TemplateDefinition) (room : Nat) :
    ∀ line ∈ template.lines, line.2.Fits room := by
  obtain ⟨name, dataSource, query, regex, default⟩ := template
  cases regex with
  | none =>
      simp only [lines, List.append_nil, List.cons_append, List.nil_append, List.forall_mem_cons]
      exact ⟨.string .., .string .., .string .., .string .., nofun⟩
  | some regex =>
      simp only [lines, List.cons_append, List.nil_append, List.forall_mem_cons]
      exact ⟨.string .., .string .., .string .., .string .., .string .., nofun⟩

theorem keys_fit (template : TemplateDefinition) : KeysFit (template.lines.map Prod.fst) := by
  obtain ⟨name, dataSource, query, regex, default⟩ := template
  cases regex with
  | none =>
      have hkeys : KeysFit ["name", "data_source", "query", "default"] := by decide
      exact hkeys
  | some regex =>
      have hkeys : KeysFit DashboardDefinition.templateShape.fields := by decide
      exact hkeys

theorem literal_fits (room : Nat) (template : TemplateDefinition) :
    template.literal.Fits (room + 1) :=
  .table room _ template.keys_fit (template.lines_fit room)

theorem section_fits (room : Nat) (template : TemplateDefinition) :
    template.toSection.Fits (room + 1) :=
  .mk room _ _ (by simpa using template.keys_fit) (template.lines_fit nestingLimit) nofun

end TemplateDefinition

/-- The document of a definition fits in either style. -/
theorem DashboardDefinition.document_fits (definition : DashboardDefinition)
    (style : DefinitionStyle) : (definition.document style).Fits nestingLimit := by
  have hkeys : KeysFit ["title", "templating", "rows"] := by decide
  -- A header has three parts at most, and a line nests six arrays and tables.
  cases style with
  | sections =>
      refine .mk 79 _ _ hkeys (List.forall_mem_singleton.mpr (.string ..)) ?_
      exact List.forall_mem_cons.mpr
        ⟨group_fits (TemplateDefinition.section_fits 78) "templating" definition.templating _
          (List.mem_singleton.mpr rfl),
          group_fits (RowDefinition.section_fits 76) "rows" definition.rows⟩
  | inlined =>
      refine .mk 79 _ _ hkeys ?_ nofun
      simp only [List.forall_mem_cons]
      exact ⟨.string .., array_fits (TemplateDefinition.literal_fits 78) _,
        array_fits (RowDefinition.literal_fits 74) _, nofun⟩

/-! ## The parts are read back -/

theorem TargetDefinition.read_lines (origin : Origin) (order : Order) (target : TargetDefinition) :
    DashboardDefinition.readTarget order (.table (Literal.entryConfigs origin target.lines)) =
      .ok target := by
  refine bind_eq_ok_iff.mpr ⟨_, rfl, bind_eq_ok_iff.mpr ⟨(), visit_eq_ok_iff.mpr ?_, rfl⟩⟩
  simp only [List.forall_mem_cons]
  exact ⟨rfl, rfl, nofun⟩

theorem TargetDefinition.read_section (origin : Origin) (order : Order)
    (target : TargetDefinition) :
    DashboardDefinition.readTarget order (.table (target.toSection.config origin)) = .ok target :=
  target.read_lines origin order

/-- A panel is read from its lines and whatever holds its queries. -/
theorem PanelDefinition.read_lines (origin : Origin) (order : Order) (panel : PanelDefinition)
    {more : List (String × Value)}
    (htargets : HoldsList more "targets" DashboardDefinition.readTarget panel.targets) :
    DashboardDefinition.readPanel order
      (.table (Literal.entryConfigs origin panel.lines ++ more)) = .ok panel := by
  obtain ⟨found, hfield, hfound⟩ := htargets order
  refine bind_eq_ok_iff.mpr ⟨_, rfl, bind_eq_ok_iff.mpr ⟨(), visit_eq_ok_iff.mpr ?_, ?_⟩⟩
  · simp only [List.forall_mem_cons]
    exact ⟨rfl, rfl, rfl, fault_eq_none_iff.mpr ⟨found, hfield⟩, nofun⟩
  · -- The three lines are read from constant places.
    iterate 3 refine bind_eq_ok_iff.mpr ⟨_, rfl, ?_⟩
    refine bind_eq_ok_iff.mpr ⟨found, hfield, ?_⟩
    show Except.ok (PanelDefinition.mk panel.title panel.dataSource panel.transparent _) = _
    rw [hfound]

theorem TemplateDefinition.read_lines (origin : Origin) (order : Order)
    (template : TemplateDefinition) :
    DashboardDefinition.readTemplate order
      (.table (Literal.entryConfigs origin template.lines)) = .ok template := by
  obtain ⟨name, dataSource, query, regex, default⟩ := template
  cases regex with
  | none =>
      refine bind_eq_ok_iff.mpr ⟨_, rfl, bind_eq_ok_iff.mpr ⟨(), visit_eq_ok_iff.mpr ?_, rfl⟩⟩
      simp only [List.forall_mem_cons]
      exact ⟨rfl, rfl, rfl, rfl, rfl, nofun⟩
  | some regex =>
      refine bind_eq_ok_iff.mpr ⟨_, rfl, bind_eq_ok_iff.mpr ⟨(), visit_eq_ok_iff.mpr ?_, rfl⟩⟩
      simp only [List.forall_mem_cons]
      exact ⟨rfl, rfl, rfl, rfl, rfl, nofun⟩

theorem TemplateDefinition.read_section (origin : Origin) (order : Order)
    (template : TemplateDefinition) :
    DashboardDefinition.readTemplate order (.table (template.toSection.config origin)) =
      .ok template := by
  have hentries : template.toSection.config origin =
      Literal.entryConfigs origin template.lines := List.append_nil _
  rw [hentries, template.read_lines]

theorem TemplateDefinition.read_literal (origin : Origin) (order : Order)
    (template : TemplateDefinition) :
    DashboardDefinition.readTemplate order (template.literal.config origin) = .ok template :=
  template.read_lines origin order

theorem PanelDefinition.read_literal (origin : Origin) (order : Order) (panel : PanelDefinition) :
    DashboardDefinition.readPanel order (panel.literal.config origin) = .ok panel :=
  panel.read_lines origin order
    (holds_list_inlined origin (TargetDefinition.read_lines origin) "targets" panel.targets)

theorem PanelDefinition.read_section (origin : Origin) (order : Order) (panel : PanelDefinition) :
    DashboardDefinition.readPanel order (.table (panel.toSection.config origin)) = .ok panel :=
  panel.read_lines origin order
    (holds_list_sections origin (TargetDefinition.read_section origin) "targets" panel.targets)

/-- A row is read from whatever holds its panels. -/
theorem RowDefinition.read_entries {entries : List (String × Value)} (order : Order)
    (row : RowDefinition)
    (hpanels : HoldsList entries "panels" DashboardDefinition.readPanel row.panels) :
    DashboardDefinition.readRow order (.table entries) = .ok row := by
  obtain ⟨found, hfield, hfound⟩ := hpanels order
  refine bind_eq_ok_iff.mpr ⟨.keyed entries, rfl, bind_eq_ok_iff.mpr ⟨found, hfield, ?_⟩⟩
  rw [hfound]
  rfl

theorem RowDefinition.read_literal (origin : Origin) (order : Order) (row : RowDefinition) :
    DashboardDefinition.readRow order (row.literal.config origin) = .ok row :=
  row.read_entries order
    (holds_list_inlined origin (PanelDefinition.read_literal origin) "panels" row.panels)

theorem RowDefinition.read_section (origin : Origin) (order : Order) (row : RowDefinition) :
    DashboardDefinition.readRow order (.table (row.toSection.config origin)) = .ok row :=
  row.read_entries order
    (holds_list_sections origin (PanelDefinition.read_section origin) "panels" row.panels)

namespace DashboardDefinition

/-- A definition is read from its title and whatever holds its templates and rows. -/
theorem read_title_entries (origin : Origin) (order : Order) (definition : DashboardDefinition)
    {more : List (String × Value)}
    (htemplating : HoldsList more "templating" readTemplate definition.templating)
    (hrows : HoldsList more "rows" readRow definition.rows) :
    readEntries order (("title", .scalar origin (.string definition.title)) :: more) =
      .ok definition := by
  obtain ⟨templates, htemplates, hfoundTemplates⟩ := htemplating order
  obtain ⟨rows, hfieldRows, hfoundRows⟩ := hrows order
  refine bind_eq_ok_iff.mpr ⟨(), visit_eq_ok_iff.mpr ?_, bind_eq_ok_iff.mpr
    ⟨some definition.title, rfl, bind_eq_ok_iff.mpr ⟨templates, htemplates, ?_⟩⟩⟩
  · simp only [List.forall_mem_cons]
    exact ⟨rfl, fault_eq_none_iff.mpr ⟨templates, htemplates⟩,
      fault_eq_none_iff.mpr ⟨rows, hfieldRows⟩, nofun⟩
  · refine bind_eq_ok_iff.mpr ⟨rows, hfieldRows, ?_⟩
    show Except.ok (DashboardDefinition.mk definition.title _ _) = _
    rw [hfoundTemplates, hfoundRows]

/-- The document of a definition is read as that definition. -/
theorem read_document (origin : Origin) (order : Order) (definition : DashboardDefinition)
    (style : DefinitionStyle) :
    readEntries order ((definition.document style).config origin) = .ok definition := by
  cases style with
  | sections =>
      have htemplating := holds_list_sections origin (TemplateDefinition.read_section origin)
        "templating" definition.templating
      have hrows := holds_list_sections origin (RowDefinition.read_section origin) "rows"
        definition.rows
      have hdistinct : ["templating", "rows"].Nodup := by decide
      have hkeys : ([("templating", definition.templating.map TemplateDefinition.toSection),
          ("rows", definition.rows.map RowDefinition.toSection)].map Prod.fst).Nodup := hdistinct
      exact definition.read_title_entries origin order
        (htemplating.congr (lookup_group_configs origin hkeys (by simp)))
        (hrows.congr (lookup_group_configs origin hkeys (by simp)))
  | inlined =>
      have htemplating := holds_list_inlined origin (TemplateDefinition.read_literal origin)
        "templating" definition.templating
      have hrows := holds_list_inlined origin (RowDefinition.read_literal origin) "rows"
        definition.rows
      exact definition.read_title_entries origin order (htemplating.congr rfl) (hrows.congr rfl)

/-- The text of a definition, in either style, is read as that definition on every host: whatever its
texts hold and however many templates, rows, panels and queries there are. -/
theorem parse_write (host : Host) (definition : DashboardDefinition) (style : DefinitionStyle) :
    parse host (definition.write style) = .ok definition := by
  have hfits := definition.document_fits style
  -- The three keys at the top are words, so none of them is a path.
  have hplain : ∀ entry ∈ (definition.document style).config .memory, IsPlainKey entry.1 :=
    fun entry hmem => plain_of_bare_key (config_bare .memory hfits entry hmem)
  rw [write, parse_of_plain_source (of_toml_text hfits .memory) hplain,
    definition.read_document .memory host.order style]
  rfl

example : write ⟨"A \"b\"", [], [⟨[⟨"c", "d", true, []⟩]⟩, ⟨[]⟩]⟩ .sections =
    "title = \"A \\u0022b\\u0022\"\n\n[[rows]]\n\n[[rows.panels]]\ntitle = \"c\"\n" ++
      "data_source = \"d\"\ntransparent = true\n\n[[rows]]\n" := by decide +kernel

example : write ⟨"A \"b\"", [], [⟨[⟨"c", "d", true, []⟩]⟩, ⟨[]⟩]⟩ .inlined =
    "title = \"A \\u0022b\\u0022\"\ntemplating = []\nrows = [\x7bpanels = [" ++
      "\x7btitle = \"c\", data_source = \"d\", transparent = true, targets = []\x7d]\x7d, " ++
      "\x7bpanels = []\x7d]\n" := by decide +kernel

end DashboardDefinition

end DashboardGenerator
