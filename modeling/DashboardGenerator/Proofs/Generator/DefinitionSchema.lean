import DashboardGenerator.Generator.Definition
import DashboardGenerator.Proofs.Config.Host
import DashboardGenerator.Proofs.Config.Kinds
import DashboardGenerator.Proofs.Config.Order
import DashboardGenerator.Proofs.Config.Layers

/-!
# What is accepted as a definition

`definitionKind` spells out what a definition is read as, and `DescribesDefinition` which definition a
value describes, field by field. Reading computes just this relation (`read_entries_eq_ok_iff`), it
succeeds exactly on values that fit (`fits_definition_iff`), and it cannot tell alike values apart
(`read_entries_congr`). A text whose top-level keys are no paths is read from its own values
(`parse_of_plain_source`), so all of this holds of texts: `parse_accepts_schema`.
-/

namespace DashboardGenerator

open Config

/-! ## Kinds and relations -/

namespace DashboardDefinition

/-- The fields of a whole definition. -/
def definitionShape : Shape := ⟨"DashboardDefinition", ["title", "templating", "rows"]⟩

/-- A query needs an expression. -/
def targetKind : Kind :=
  .record [("expr", true, .text), ("legend_format", false, .text)]

/-- A panel needs a title and a data source. -/
def panelKind : Kind :=
  .record [("title", true, .text), ("data_source", true, .text), ("transparent", false, .truth),
    ("targets", false, .list targetKind)]

/-- A row needs nothing. -/
def rowKind : Kind :=
  .record [("panels", false, .list panelKind)]

/-- A template variable needs a name, a data source and a query. -/
def templateKind : Kind :=
  .record [("name", true, .text), ("data_source", true, .text), ("query", true, .text),
    ("regex", false, .optionalText), ("default", false, .text)]

/-- A definition needs a title. -/
def definitionKind : Kind :=
  .record [("title", true, .text), ("templating", false, .list templateKind),
    ("rows", false, .list rowKind)]

/-- The value describes the query. -/
structure DescribesTarget (value : Value) (target : TargetDefinition) : Prop where
  record : value.IsRecord
  expression : targetShape.HasField value "expr" GivesText target.expression
  legendFormat : targetShape.HasDefault value "legend_format" GivesText "" target.legendFormat

/-- The value describes the panel. -/
structure DescribesPanel (value : Value) (panel : PanelDefinition) : Prop where
  record : value.IsRecord
  title : panelShape.HasField value "title" GivesText panel.title
  dataSource : panelShape.HasField value "data_source" GivesText panel.dataSource
  transparent : panelShape.HasDefault value "transparent" GivesTruth false panel.transparent
  targets : panelShape.HasDefault value "targets" (GivesList DescribesTarget) [] panel.targets

/-- The value describes the row. -/
structure DescribesRow (value : Value) (row : RowDefinition) : Prop where
  record : value.IsRecord
  panels : rowShape.HasDefault value "panels" (GivesList DescribesPanel) [] row.panels

/-- The value describes the template variable. -/
structure DescribesTemplate (value : Value) (template : TemplateDefinition) : Prop where
  record : value.IsRecord
  name : templateShape.HasField value "name" GivesText template.name
  dataSource : templateShape.HasField value "data_source" GivesText template.dataSource
  query : templateShape.HasField value "query" GivesText template.query
  regex : templateShape.HasDefault value "regex" (GivesOptional GivesText) none template.regex
  default : templateShape.HasDefault value "default" GivesText "" template.default

/-- The value describes the definition. -/
structure DescribesDefinition (value : Value) (definition : DashboardDefinition) : Prop where
  title : definitionShape.HasField value "title" GivesText definition.title
  templating : definitionShape.HasDefault value "templating" (GivesList DescribesTemplate) []
    definition.templating
  rows : definitionShape.HasDefault value "rows" (GivesList DescribesRow) [] definition.rows

/-! ## Reading -/

/-- A query is read from what describes it. -/
theorem computes_target : Reader.Computes readTarget DescribesTarget := by
  intro order value target
  simp only [readTarget, bind_eq_ok_iff, require_eq_ok_iff]
  constructor
  · rintro ⟨record, hrecord, -, -, expression, hexpression, legendFormat, hlegend, _, rfl, ⟨⟩⟩
    exact {
      record := exists_record_iff.mp ⟨record, hrecord⟩
      expression := (Shape.has_field_iff hrecord computes_string order).mpr hexpression
      legendFormat := (Shape.has_default_iff hrecord computes_string order).mpr ⟨_, hlegend, rfl⟩ }
  · intro hdescribes
    obtain ⟨record, hrecord⟩ := exists_record_iff.mpr hdescribes.record
    have hexpression := (Shape.has_field_iff hrecord computes_string order).mp hdescribes.expression
    obtain ⟨legendFormat, hlegend, hresult⟩ :=
      (Shape.has_default_iff hrecord computes_string order).mp hdescribes.legendFormat
    refine ⟨record, hrecord, (), visit_eq_ok_iff.mpr ?_, _, hexpression, _, hlegend, _, rfl, ?_⟩
    · simp [hexpression, hlegend, fault?]
    · rw [hresult]
      rfl

/-- A panel is read from what describes it. -/
theorem computes_panel : Reader.Computes readPanel DescribesPanel := by
  intro order value panel
  have hlist := computes_target.list
  simp only [readPanel, bind_eq_ok_iff, require_eq_ok_iff]
  constructor
  · rintro ⟨record, hrecord, -, -, title, htitle, dataSource, hdata, transparent, htransparent,
      targets, htargets, _, rfl, _, rfl, ⟨⟩⟩
    exact {
      record := exists_record_iff.mp ⟨record, hrecord⟩
      title := (Shape.has_field_iff hrecord computes_string order).mpr htitle
      dataSource := (Shape.has_field_iff hrecord computes_string order).mpr hdata
      transparent := (Shape.has_default_iff hrecord computes_boolean order).mpr ⟨_, htransparent, rfl⟩
      targets := (Shape.has_default_iff hrecord hlist order).mpr ⟨_, htargets, rfl⟩ }
  · intro hdescribes
    obtain ⟨record, hrecord⟩ := exists_record_iff.mpr hdescribes.record
    have htitle := (Shape.has_field_iff hrecord computes_string order).mp hdescribes.title
    have hdata := (Shape.has_field_iff hrecord computes_string order).mp hdescribes.dataSource
    obtain ⟨transparent, htransparent, hresult⟩ :=
      (Shape.has_default_iff hrecord computes_boolean order).mp hdescribes.transparent
    obtain ⟨targets, htargets, hresults⟩ :=
      (Shape.has_default_iff hrecord hlist order).mp hdescribes.targets
    refine ⟨record, hrecord, (), visit_eq_ok_iff.mpr ?_, _, htitle, _, hdata, _, htransparent, _,
      htargets, _, rfl, _, rfl, ?_⟩
    · simp [htitle, hdata, htransparent, htargets, fault?]
    · rw [hresult, hresults]
      rfl

/-- A row is read from what describes it. -/
theorem computes_row : Reader.Computes readRow DescribesRow := by
  intro order value row
  have hlist := computes_panel.list
  simp only [readRow, bind_eq_ok_iff]
  constructor
  · rintro ⟨record, hrecord, panels, hpanels, ⟨⟩⟩
    exact {
      record := exists_record_iff.mp ⟨record, hrecord⟩
      panels := (Shape.has_default_iff hrecord hlist order).mpr ⟨_, hpanels, rfl⟩ }
  · intro hdescribes
    obtain ⟨record, hrecord⟩ := exists_record_iff.mpr hdescribes.record
    obtain ⟨panels, hpanels, hresults⟩ :=
      (Shape.has_default_iff hrecord hlist order).mp hdescribes.panels
    refine ⟨record, hrecord, _, hpanels, ?_⟩
    rw [hresults]
    rfl

/-- A template variable is read from what describes it. -/
theorem computes_template : Reader.Computes readTemplate DescribesTemplate := by
  intro order value template
  have hoptional := computes_string.optional
  have hjoin : ∀ found : Option (Option String), found.join = found.getD none := by
    intro found
    cases found <;> rfl
  simp only [readTemplate, bind_eq_ok_iff, require_eq_ok_iff, hjoin]
  constructor
  · rintro ⟨record, hrecord, -, -, name, hname, dataSource, hdata, query, hquery, regex, hregex,
      default, hdefault, _, rfl, _, rfl, _, rfl, ⟨⟩⟩
    exact {
      record := exists_record_iff.mp ⟨record, hrecord⟩
      name := (Shape.has_field_iff hrecord computes_string order).mpr hname
      dataSource := (Shape.has_field_iff hrecord computes_string order).mpr hdata
      query := (Shape.has_field_iff hrecord computes_string order).mpr hquery
      regex := (Shape.has_default_iff hrecord hoptional order).mpr ⟨_, hregex, rfl⟩
      default := (Shape.has_default_iff hrecord computes_string order).mpr ⟨_, hdefault, rfl⟩ }
  · intro hdescribes
    obtain ⟨record, hrecord⟩ := exists_record_iff.mpr hdescribes.record
    have hname := (Shape.has_field_iff hrecord computes_string order).mp hdescribes.name
    have hdata := (Shape.has_field_iff hrecord computes_string order).mp hdescribes.dataSource
    have hquery := (Shape.has_field_iff hrecord computes_string order).mp hdescribes.query
    obtain ⟨regex, hregex, hregexResult⟩ :=
      (Shape.has_default_iff hrecord hoptional order).mp hdescribes.regex
    obtain ⟨default, hdefault, hresult⟩ :=
      (Shape.has_default_iff hrecord computes_string order).mp hdescribes.default
    refine ⟨record, hrecord, (), visit_eq_ok_iff.mpr ?_, _, hname, _, hdata, _, hquery, _, hregex, _,
      hdefault, _, rfl, _, rfl, _, rfl, ?_⟩
    · simp [hname, hdata, hquery, hregex, hdefault, fault?]
    · rw [hregexResult, hresult]
      rfl

/-- A definition is read from the entries that describe it. -/
theorem read_entries_eq_ok_iff {order : Order} {entries : List (String × Value)}
    {definition : DashboardDefinition} :
    readEntries order entries = .ok definition ↔
      DescribesDefinition (.table entries) definition := by
  have hrecord : definitionShape.record (.table entries) = .ok (.keyed entries) := rfl
  have htemplates := computes_template.list
  have hrowList := computes_row.list
  simp only [readEntries, bind_eq_ok_iff, require_eq_ok_iff]
  constructor
  · rintro ⟨-, -, title, htitle, templating, htemplating, rows, hrows, _, rfl, ⟨⟩⟩
    exact {
      title := (Shape.has_field_iff hrecord computes_string order).mpr htitle
      templating := (Shape.has_default_iff hrecord htemplates order).mpr ⟨_, htemplating, rfl⟩
      rows := (Shape.has_default_iff hrecord hrowList order).mpr ⟨_, hrows, rfl⟩ }
  · intro hdescribes
    have htitle := (Shape.has_field_iff hrecord computes_string order).mp hdescribes.title
    obtain ⟨templating, htemplating, htemplatingResult⟩ :=
      (Shape.has_default_iff hrecord htemplates order).mp hdescribes.templating
    obtain ⟨rows, hrows, hresult⟩ := (Shape.has_default_iff hrecord hrowList order).mp hdescribes.rows
    refine ⟨(), visit_eq_ok_iff.mpr ?_, _, htitle, _, htemplating, _, hrows, _, rfl, ?_⟩
    · simp [htitle, htemplating, hrows, fault?]
    · rw [htemplatingResult, hresult]
      rfl

/-! ## What fits -/

/-- A value fits as a query exactly if it describes one. -/
theorem fits_target_iff {value : Value} :
    targetKind.Fits value ↔ ∃ target, DescribesTarget value target := by
  have hexpression :=
    @Shape.exists_has_field_iff _ targetShape value "expr" _ _ @Kind.fits_text_iff
  have hlegend :=
    @Shape.exists_has_default_iff _ targetShape value "legend_format" _ _ @Kind.fits_text_iff ""
  rw [targetKind, Kind.fits_record_iff]
  simp only [List.forall_mem_cons]
  constructor
  · rintro ⟨hrecord, hexpressionFits, hlegendFits, -⟩
    obtain ⟨expression, hexpression⟩ := hexpression.mpr hexpressionFits
    obtain ⟨legendFormat, hlegend⟩ := hlegend.mpr hlegendFits
    exact ⟨⟨expression, legendFormat⟩, hrecord, hexpression, hlegend⟩
  · rintro ⟨target, hdescribes⟩
    exact ⟨hdescribes.record, hexpression.mp ⟨_, hdescribes.expression⟩,
      hlegend.mp ⟨_, hdescribes.legendFormat⟩, nofun⟩

/-- A value fits as a panel exactly if it describes one. -/
theorem fits_panel_iff {value : Value} :
    panelKind.Fits value ↔ ∃ panel, DescribesPanel value panel := by
  have htitle := @Shape.exists_has_field_iff _ panelShape value "title" _ _ @Kind.fits_text_iff
  have hdata :=
    @Shape.exists_has_field_iff _ panelShape value "data_source" _ _ @Kind.fits_text_iff
  have htransparent :=
    @Shape.exists_has_default_iff _ panelShape value "transparent" _ _ @Kind.fits_truth_iff false
  have htargets := @Shape.exists_has_default_iff _ panelShape value "targets" _ _
    (Kind.fits_list_iff @fits_target_iff) []
  rw [panelKind, Kind.fits_record_iff]
  simp only [List.forall_mem_cons]
  constructor
  · rintro ⟨hrecord, htitleFits, hdataFits, htransparentFits, htargetsFits, -⟩
    obtain ⟨title, htitle⟩ := htitle.mpr htitleFits
    obtain ⟨dataSource, hdata⟩ := hdata.mpr hdataFits
    obtain ⟨transparent, htransparent⟩ := htransparent.mpr htransparentFits
    obtain ⟨targets, htargets⟩ := htargets.mpr htargetsFits
    exact ⟨⟨title, dataSource, transparent, targets⟩, hrecord, htitle, hdata, htransparent,
      htargets⟩
  · rintro ⟨panel, hdescribes⟩
    exact ⟨hdescribes.record, htitle.mp ⟨_, hdescribes.title⟩, hdata.mp ⟨_, hdescribes.dataSource⟩,
      htransparent.mp ⟨_, hdescribes.transparent⟩, htargets.mp ⟨_, hdescribes.targets⟩, nofun⟩

/-- A value fits as a row exactly if it describes one. -/
theorem fits_row_iff {value : Value} : rowKind.Fits value ↔ ∃ row, DescribesRow value row := by
  have hpanels := @Shape.exists_has_default_iff _ rowShape value "panels" _ _
    (Kind.fits_list_iff @fits_panel_iff) []
  rw [rowKind, Kind.fits_record_iff, List.forall_mem_singleton]
  constructor
  · rintro ⟨hrecord, hpanelsFit⟩
    obtain ⟨panels, hpanels⟩ := hpanels.mpr hpanelsFit
    exact ⟨⟨panels⟩, hrecord, hpanels⟩
  · rintro ⟨row, hdescribes⟩
    exact ⟨hdescribes.record, hpanels.mp ⟨_, hdescribes.panels⟩⟩

/-- A value fits as a template variable exactly if it describes one. -/
theorem fits_template_iff {value : Value} :
    templateKind.Fits value ↔ ∃ template, DescribesTemplate value template := by
  have hname := @Shape.exists_has_field_iff _ templateShape value "name" _ _ @Kind.fits_text_iff
  have hdata :=
    @Shape.exists_has_field_iff _ templateShape value "data_source" _ _ @Kind.fits_text_iff
  have hquery := @Shape.exists_has_field_iff _ templateShape value "query" _ _ @Kind.fits_text_iff
  have hregex := @Shape.exists_has_default_iff _ templateShape value "regex" _ _
    @Kind.fits_optional_text_iff none
  have hdefault :=
    @Shape.exists_has_default_iff _ templateShape value "default" _ _ @Kind.fits_text_iff ""
  rw [templateKind, Kind.fits_record_iff]
  simp only [List.forall_mem_cons]
  constructor
  · rintro ⟨hrecord, hnameFits, hdataFits, hqueryFits, hregexFits, hdefaultFits, -⟩
    obtain ⟨name, hname⟩ := hname.mpr hnameFits
    obtain ⟨dataSource, hdata⟩ := hdata.mpr hdataFits
    obtain ⟨query, hquery⟩ := hquery.mpr hqueryFits
    obtain ⟨regex, hregex⟩ := hregex.mpr hregexFits
    obtain ⟨default, hdefault⟩ := hdefault.mpr hdefaultFits
    exact ⟨⟨name, dataSource, query, regex, default⟩, hrecord, hname, hdata, hquery, hregex,
      hdefault⟩
  · rintro ⟨template, hdescribes⟩
    exact ⟨hdescribes.record, hname.mp ⟨_, hdescribes.name⟩, hdata.mp ⟨_, hdescribes.dataSource⟩,
      hquery.mp ⟨_, hdescribes.query⟩, hregex.mp ⟨_, hdescribes.regex⟩,
      hdefault.mp ⟨_, hdescribes.default⟩, nofun⟩

/-- A table fits as a definition exactly if it describes one. -/
theorem fits_definition_iff {entries : List (String × Value)} :
    definitionKind.Fits (.table entries) ↔
      ∃ definition, DescribesDefinition (.table entries) definition := by
  have htitle := @Shape.exists_has_field_iff _ definitionShape (.table entries) "title" _ _
    @Kind.fits_text_iff
  have htemplating := @Shape.exists_has_default_iff _ definitionShape (.table entries) "templating"
    _ _ (Kind.fits_list_iff @fits_template_iff) []
  have hrows := @Shape.exists_has_default_iff _ definitionShape (.table entries) "rows" _ _
    (Kind.fits_list_iff @fits_row_iff) []
  rw [definitionKind, Kind.fits_record_iff]
  simp only [List.forall_mem_cons]
  constructor
  · rintro ⟨-, htitleFits, htemplatingFits, hrowsFit, -⟩
    obtain ⟨title, htitle⟩ := htitle.mpr htitleFits
    obtain ⟨templating, htemplating⟩ := htemplating.mpr htemplatingFits
    obtain ⟨rows, hrows⟩ := hrows.mpr hrowsFit
    exact ⟨⟨title, templating, rows⟩, htitle, htemplating, hrows⟩
  · rintro ⟨definition, hdescribes⟩
    exact ⟨trivial, htitle.mp ⟨_, hdescribes.title⟩, htemplating.mp ⟨_, hdescribes.templating⟩,
      hrows.mp ⟨_, hdescribes.rows⟩, nofun⟩

/-! ## What makes no difference -/

/-- Alike queries are read alike. -/
theorem read_target_congr (order : Order) (value other : Value)
    (halike : targetKind.Alike value other) : readTarget order value = readTarget order other := by
  unfold readTarget
  refine halike.read_record rfl fun record other hrecord => ?_
  have hexpression := hrecord.field_eq ("expr", true, .text) (by simp) readString
    (Kind.read_text_congr _) order
  have hlegend := hrecord.field_eq ("legend_format", false, .text) (by simp) readString
    (Kind.read_text_congr _) order
  simp only [hexpression, hlegend, hrecord.require_eq, hrecord.visit_eq]

/-- Alike panels are read alike. -/
theorem read_panel_congr (order : Order) (value other : Value)
    (halike : panelKind.Alike value other) : readPanel order value = readPanel order other := by
  unfold readPanel
  refine halike.read_record rfl fun record other hrecord => ?_
  have htitle := hrecord.field_eq ("title", true, .text) (by simp) readString
    (Kind.read_text_congr _) order
  have hdata := hrecord.field_eq ("data_source", true, .text) (by simp) readString
    (Kind.read_text_congr _) order
  have htransparent := hrecord.field_eq ("transparent", false, .truth) (by simp) readBoolean
    (Kind.read_truth_congr _) order
  have htargets := hrecord.field_eq ("targets", false, .list targetKind) (by simp)
    (readList readTarget) (fun order _ _ halike => halike.read_list read_target_congr order) order
  simp only [htitle, hdata, htransparent, htargets, hrecord.require_eq, hrecord.visit_eq]

/-- Alike rows are read alike. -/
theorem read_row_congr (order : Order) (value other : Value)
    (halike : rowKind.Alike value other) : readRow order value = readRow order other := by
  unfold readRow
  refine halike.read_record rfl fun record other hrecord => ?_
  have hpanels := hrecord.field_eq ("panels", false, .list panelKind) (by simp)
    (readList readPanel) (fun order _ _ halike => halike.read_list read_panel_congr order) order
  simp only [hpanels]

/-- Alike template variables are read alike. -/
theorem read_template_congr (order : Order) (value other : Value)
    (halike : templateKind.Alike value other) :
    readTemplate order value = readTemplate order other := by
  unfold readTemplate
  refine halike.read_record rfl fun record other hrecord => ?_
  have hname := hrecord.field_eq ("name", true, .text) (by simp) readString
    (Kind.read_text_congr _) order
  have hdata := hrecord.field_eq ("data_source", true, .text) (by simp) readString
    (Kind.read_text_congr _) order
  have hquery := hrecord.field_eq ("query", true, .text) (by simp) readString
    (Kind.read_text_congr _) order
  have hregex := hrecord.field_eq ("regex", false, .optionalText) (by simp)
    (readOptional readString) (Kind.read_optional_text_congr _) order
  have hdefault := hrecord.field_eq ("default", false, .text) (by simp) readString
    (Kind.read_text_congr _) order
  simp only [hname, hdata, hquery, hregex, hdefault, hrecord.require_eq, hrecord.visit_eq]

/-- Alike definitions are read alike. -/
theorem read_entries_congr (order : Order) {entries others : List (String × Value)}
    (halike : definitionKind.Alike (.table entries) (.table others)) :
    readEntries order entries = readEntries order others := by
  have hshape : definitionShape.fields = ["title", "templating", "rows"] := rfl
  obtain hsame | ⟨_, _, ⟨⟩, ⟨⟩, hrecord⟩ := halike.exists_records hshape
  · cases hsame
    rfl
  have htitle := hrecord.field_eq ("title", true, .text) (by simp) readString
    (Kind.read_text_congr _) order
  have htemplating := hrecord.field_eq ("templating", false, .list templateKind) (by simp)
    (readList readTemplate) (fun order _ _ halike => halike.read_list read_template_congr order) order
  have hrows := hrecord.field_eq ("rows", false, .list rowKind) (by simp)
    (readList readRow) (fun order _ _ halike => halike.read_list read_row_congr order) order
  simp only [readEntries, htitle, htemplating, hrows, hrecord.require_eq, hrecord.visit_eq]

/-! ## Texts -/

/-- A text gives the definition that the configuration of its values describes, if the host has room
for this. -/
theorem parse_eq_ok_iff {host : Host} {text : String} {source : List (String × Value)}
    (hsource : ofToml .memory text = .ok source) {definition : DashboardDefinition} :
    parse host text = .ok definition ↔
      ∃ config, host.set .memory (.table []) source = .ok config ∧
        DescribesDefinition (.table config.entries) definition := by
  simp only [parse, hsource, bind_eq_ok_iff, mapError_eq_ok_iff, ofConfig, read_entries_eq_ok_iff]
  simp

/-- A text whose top-level keys are no paths is read from its own values, on every host. -/
theorem parse_of_plain_source {text : String} {source : List (String × Value)}
    (hsource : ofToml .memory text = .ok source) (hplain : ∀ entry ∈ source, IsPlainKey entry.1)
    (host : Host) : parse host text = (readEntries host.order source).mapError .read := by
  have hset := Host.set_of_plain hplain host .memory (.table [])
  generalize applySource _ _ = config at hset
  -- The source is set over nothing, which only opens tables, and no field is read from a table.
  have hfield : ∀ {α : Type} (name : String) (read : Reader α),
      (∀ order value, read order (Value.nil.merge value) = read order value) →
      (Record.keyed config.entries).field? host.order name read =
        (Record.keyed source).field? host.order name read := by
    intro α name read hmerge
    rw [Record.field?, Record.field?]
    rw [Host.lookup_set_of_plain hplain (of_toml_keys_nodup hsource) hset]
    cases source.lookup name with
    | none => rfl
    | some value =>
        dsimp only
        rw [← hmerge _ value]
        rfl
  have htext : ∀ order value, readString order (Value.nil.merge value) = readString order value := by
    rintro order (_ | _ | _ | _) <;> rfl
  have hlist : ∀ {α : Type} (read : Reader α) order value,
      readList read order (Value.nil.merge value) = readList read order value := by
    rintro α read order (_ | _ | _ | _) <;> rfl
  unfold parse
  rw [hsource]
  show (((host.set .memory (.table []) source).mapError _ >>= _ :
    Except ConfigFault DashboardDefinition)) = _
  rw [hset]
  show (readEntries host.order config.entries).mapError _ = _
  unfold readEntries
  simp only [hfield "title" readString htext, hfield "templating" _ (hlist _),
    hfield "rows" _ (hlist _)]
  rfl

/-- A text without paths among its top-level keys gives a definition exactly if its values fit, and
then the definition that they describe; keys that are no fields make no difference, whatever their
number, their values and their depth. -/
theorem parse_accepts_schema (host : Host) {text : String} {source : List (String × Value)}
    (hsource : ofToml .memory text = .ok source) (hplain : ∀ entry ∈ source, IsPlainKey entry.1) :
    ((∃ definition, parse host text = .ok definition) ↔ definitionKind.Fits (.table source)) ∧
    (∀ definition, parse host text = .ok definition ↔
      DescribesDefinition (.table source) definition) ∧
    ∀ other otherSource, ofToml .memory other = .ok otherSource →
      (∀ entry ∈ otherSource, IsPlainKey entry.1) →
      definitionKind.Alike (.table source) (.table otherSource) →
      parse host other = parse host text := by
  have hdescribes : ∀ definition, parse host text = .ok definition ↔
      DescribesDefinition (.table source) definition := by
    intro definition
    rw [parse_of_plain_source hsource hplain, mapError_eq_ok_iff, read_entries_eq_ok_iff]
  refine ⟨?_, hdescribes, ?_⟩
  · rw [fits_definition_iff]
    exact exists_congr hdescribes
  · intro other otherSource hother hotherPlain halike
    rw [parse_of_plain_source hsource hplain, parse_of_plain_source hother hotherPlain,
      read_entries_congr host.order halike]

/-- A single panel, written as an array of its fields. -/
def positionalPanels : Toml.Literal :=
  .array [.array [.string "P", .string "d", .string "Yes"]]

theorem positional_panels_fit (room : Nat) : positionalPanels.Fits (room + 2) := by
  refine .array (room + 1) _ (List.forall_mem_singleton.mpr (.array room _ ?_))
  simp only [List.forall_mem_cons]
  exact ⟨.string .., .string .., .string .., nofun⟩

/-- A title that is a truth value, and a row with such a panel. -/
def positionalDocument : Toml.Section :=
  .mk [("title", .boolean true), ("rows", .array [.table [("panels", positionalPanels)]])] []

/-- The same with keys that are no fields, at the top and in the row. -/
def annotatedDocument : Toml.Section :=
  .mk [("author", .array []), ("title", .boolean true),
    ("rows", .array [.table [("height", .string "3"), ("panels", positionalPanels)]])] []

theorem positional_document_fits : positionalDocument.Fits Toml.nestingLimit := by
  refine .mk 79 _ _ (by decide) ?_ nofun
  simp only [List.forall_mem_cons]
  refine ⟨.boolean .., .array 79 _ (List.forall_mem_singleton.mpr (.table 78 _ (by decide) ?_)),
    nofun⟩
  exact List.forall_mem_singleton.mpr (positional_panels_fit 76)

theorem annotated_document_fits : annotatedDocument.Fits Toml.nestingLimit := by
  refine .mk 79 _ _ (by decide) ?_ nofun
  simp only [List.forall_mem_cons]
  refine ⟨.array 79 _ nofun, .boolean ..,
    .array 79 _ (List.forall_mem_singleton.mpr (.table 78 _ (by decide) ?_)), nofun⟩
  simp only [List.forall_mem_cons]
  exact ⟨.string .., positional_panels_fit 76, nofun⟩

/-- Rows with the same panels are alike, whatever other keys stand in front of them. -/
theorem positional_documents_alike :
    definitionKind.Alike (.table (positionalDocument.config .memory))
      (.table (annotatedDocument.config .memory)) := by
  have hrow : rowKind.Alike (.table [("panels", positionalPanels.config .memory)])
      (.table [("height", .scalar .memory (.string "3")),
        ("panels", positionalPanels.config .memory)]) := by
    refine .record trivial (List.forall_mem_singleton.mpr rfl) (List.forall_mem_singleton.mpr ?_)
    rintro part otherPart ⟨⟩ ⟨⟩
    exact .same ..
  refine .record trivial (by simp only [List.forall_mem_cons]; exact ⟨rfl, rfl, rfl, nofun⟩) ?_
  simp only [List.forall_mem_cons]
  refine ⟨?_, ?_, ?_, nofun⟩
  · rintro part otherPart ⟨⟩ ⟨⟩
    exact .same ..
  · rintro part otherPart ⟨⟩
  · rintro part otherPart ⟨⟩ ⟨⟩
    refine .list .memory rfl ?_
    rintro (_ | position) item other ⟨⟩ ⟨⟩
    exact hrow

/-- A truth value does for a text and an array for a panel, and unknown keys change nothing. -/
theorem parse_accepts_schema_positional :
    ofToml .memory positionalDocument.text = .ok (positionalDocument.config .memory) ∧
    (∀ entry ∈ positionalDocument.config .memory, IsPlainKey entry.1) ∧
    definitionKind.Fits (.table (positionalDocument.config .memory)) ∧
    DescribesDefinition (.table (positionalDocument.config .memory))
      ⟨"true", [], [⟨[⟨"P", "d", true, []⟩]⟩]⟩ ∧
    ofToml .memory annotatedDocument.text = .ok (annotatedDocument.config .memory) ∧
    (∀ entry ∈ annotatedDocument.config .memory, IsPlainKey entry.1) ∧
    definitionKind.Alike (.table (positionalDocument.config .memory))
      (.table (annotatedDocument.config .memory)) ∧
    parse .listed annotatedDocument.text = .ok ⟨"true", [], [⟨[⟨"P", "d", true, []⟩]⟩]⟩ := by
  have hsource := of_toml_text positional_document_fits .memory
  have hother := of_toml_text annotated_document_fits .memory
  have hplain : ∀ entry ∈ positionalDocument.config .memory, IsPlainKey entry.1 := by decide
  have hotherPlain : ∀ entry ∈ annotatedDocument.config .memory, IsPlainKey entry.1 := by decide
  have hparse : parse .listed positionalDocument.text =
      .ok ⟨"true", [], [⟨[⟨"P", "d", true, []⟩]⟩]⟩ := by
    decide +kernel
  obtain ⟨hfits, hdescribes, hsame⟩ := parse_accepts_schema .listed hsource hplain
  have hannotated := hsame _ _ hother hotherPlain positional_documents_alike
  exact ⟨hsource, hplain, hfits.mp ⟨_, hparse⟩, (hdescribes _).mp hparse, hother, hotherPlain,
    positional_documents_alike, hannotated.trans hparse⟩

end DashboardDefinition

end DashboardGenerator
