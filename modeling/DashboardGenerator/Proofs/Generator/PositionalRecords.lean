import DashboardGenerator.Proofs.Config.Positional
import DashboardGenerator.Proofs.Generator.DefinitionSchema

/-!
# Definitions with records as arrays

Templates, rows, panels and queries may be written as arrays of their fields. Rewriting any of them
that are tables of just their first fields, one inside the other or not, makes no difference to what
a value describes (`respects_definition`), and so none to what is read: `positional_records_agree`.
-/

namespace DashboardGenerator

open Config

namespace DashboardDefinition

/-! ## Descriptions
-/

/-- It makes no difference to a query how it is written. -/
theorem respects_target : targetKind.Respects DescribesTarget := by
  intro value other hrecast target
  have hrecord := hrecast.is_record_iff
  have hexpression := hrecast.has_field_iff targetShape rfl "expr" rfl
    (Kind.respects_text GivesText) target.expression
  have hlegend := hrecast.has_default_iff targetShape rfl "legend_format" rfl
    (Kind.respects_text GivesText) "" target.legendFormat
  constructor
  · intro hdescribes
    exact ⟨hrecord.mp hdescribes.record, hexpression.mp hdescribes.expression,
      hlegend.mp hdescribes.legendFormat⟩
  · intro hdescribes
    exact ⟨hrecord.mpr hdescribes.record, hexpression.mpr hdescribes.expression,
      hlegend.mpr hdescribes.legendFormat⟩

/-- It makes no difference to a panel how it and its queries are written. -/
theorem respects_panel : panelKind.Respects DescribesPanel := by
  intro value other hrecast panel
  have hrecord := hrecast.is_record_iff
  have htitle := hrecast.has_field_iff panelShape rfl "title" rfl
    (Kind.respects_text GivesText) panel.title
  have hdata := hrecast.has_field_iff panelShape rfl "data_source" rfl
    (Kind.respects_text GivesText) panel.dataSource
  have htransparent := hrecast.has_default_iff panelShape rfl "transparent" rfl
    (Kind.respects_truth GivesTruth) false panel.transparent
  have htargets := hrecast.has_default_iff panelShape rfl "targets" rfl respects_target.list []
    panel.targets
  constructor
  · intro hdescribes
    exact ⟨hrecord.mp hdescribes.record, htitle.mp hdescribes.title,
      hdata.mp hdescribes.dataSource, htransparent.mp hdescribes.transparent,
      htargets.mp hdescribes.targets⟩
  · intro hdescribes
    exact ⟨hrecord.mpr hdescribes.record, htitle.mpr hdescribes.title,
      hdata.mpr hdescribes.dataSource, htransparent.mpr hdescribes.transparent,
      htargets.mpr hdescribes.targets⟩

/-- It makes no difference to a row how it and its panels are written. -/
theorem respects_row : rowKind.Respects DescribesRow := by
  intro value other hrecast row
  have hrecord := hrecast.is_record_iff
  have hpanels := hrecast.has_default_iff rowShape rfl "panels" rfl respects_panel.list []
    row.panels
  constructor
  · intro hdescribes
    exact ⟨hrecord.mp hdescribes.record, hpanels.mp hdescribes.panels⟩
  · intro hdescribes
    exact ⟨hrecord.mpr hdescribes.record, hpanels.mpr hdescribes.panels⟩

/-- It makes no difference to a template variable how it is written. -/
theorem respects_template : templateKind.Respects DescribesTemplate := by
  intro value other hrecast template
  have hrecord := hrecast.is_record_iff
  have hname := hrecast.has_field_iff templateShape rfl "name" rfl
    (Kind.respects_text GivesText) template.name
  have hdata := hrecast.has_field_iff templateShape rfl "data_source" rfl
    (Kind.respects_text GivesText) template.dataSource
  have hquery := hrecast.has_field_iff templateShape rfl "query" rfl
    (Kind.respects_text GivesText) template.query
  have hregex := hrecast.has_default_iff templateShape rfl "regex" rfl
    (Kind.respects_optional_text (GivesOptional GivesText)) none template.regex
  have hdefault := hrecast.has_default_iff templateShape rfl "default" rfl
    (Kind.respects_text GivesText) "" template.default
  constructor
  · intro hdescribes
    exact ⟨hrecord.mp hdescribes.record, hname.mp hdescribes.name, hdata.mp hdescribes.dataSource,
      hquery.mp hdescribes.query, hregex.mp hdescribes.regex, hdefault.mp hdescribes.default⟩
  · intro hdescribes
    exact ⟨hrecord.mpr hdescribes.record, hname.mpr hdescribes.name,
      hdata.mpr hdescribes.dataSource, hquery.mpr hdescribes.query, hregex.mpr hdescribes.regex,
      hdefault.mpr hdescribes.default⟩

/-- It makes no difference to a definition how its parts are written. -/
theorem respects_definition : definitionKind.Respects DescribesDefinition := by
  intro value other hrecast definition
  have htitle := hrecast.has_field_iff definitionShape rfl "title" rfl
    (Kind.respects_text GivesText) definition.title
  have htemplating := hrecast.has_default_iff definitionShape rfl "templating" rfl
    respects_template.list [] definition.templating
  have hrows := hrecast.has_default_iff definitionShape rfl "rows" rfl respects_row.list []
    definition.rows
  constructor
  · intro hdescribes
    exact ⟨htitle.mp hdescribes.title, htemplating.mp hdescribes.templating,
      hrows.mp hdescribes.rows⟩
  · intro hdescribes
    exact ⟨htitle.mpr hdescribes.title, htemplating.mpr hdescribes.templating,
      hrows.mpr hdescribes.rows⟩

/-! ## What is read -/

/-- The same definition is read from both trees, or none from either, in whatever orders their keys are
visited, and likewise from texts with the same values. -/
structure SameOutcome (tree other : Value) : Prop where
  success : ∀ order otherOrder definition,
    ofConfig order tree = .ok definition ↔ ofConfig otherOrder other = .ok definition
  failure : ∀ order otherOrder,
    (∃ error, ofConfig order tree = .error error) ↔ ∃ error, ofConfig otherOrder other = .error error
  texts : ∀ host otherHost {text otherText source otherSource}, ofToml .memory text = .ok source →
    ofToml .memory otherText = .ok otherSource → tree = .table source → other = .table otherSource →
    (∀ entry ∈ source, IsPlainKey entry.1) → (∀ entry ∈ otherSource, IsPlainKey entry.1) →
    ∀ definition, parse host text = .ok definition ↔ parse otherHost otherText = .ok definition

/-- Rewriting records of a tree makes no difference to what is read from it. -/
theorem same_outcome_of_recast {entries others : List (String × Value)}
    (hrecast : definitionKind.Recast (.table entries) (.table others)) :
    SameOutcome (.table entries) (.table others) := by
  have hsuccess : ∀ order otherOrder definition,
      readEntries order entries = .ok definition ↔
        readEntries otherOrder others = .ok definition := by
    intro order otherOrder definition
    rw [read_entries_eq_ok_iff, read_entries_eq_ok_iff]
    exact respects_definition hrecast definition
  refine ⟨hsuccess, fun order otherOrder => exists_error_congr (hsuccess order otherOrder), ?_⟩
  intro host otherHost text otherText source otherSource hsource hother hentries hothers hplain
    hotherPlain definition
  cases hentries
  cases hothers
  rw [parse_of_plain_source hsource hplain, parse_of_plain_source hother hotherPlain,
    mapError_eq_ok_iff, mapError_eq_ok_iff]
  exact hsuccess host.order otherHost.order definition

/-- A template, row, panel or query that is a table of just its first fields may be written as the
array of their values, with more elements behind it if all fields are there. The outcome is the
same: for one record wherever it is, and for any number of them, one inside the other or not. -/
theorem positional_records_agree (entries : List (String × Value)) :
    (∀ {steps fields record values} origin surplus,
      definitionKind.Place (.table entries) steps (.record fields) (.table record) → steps ≠ [] →
      HoldsFirst (fields.map Prod.fst) record values →
      (surplus ≠ [] → values.length = fields.length) →
      SameOutcome (.table entries)
        ((Value.table entries).replaceAt (.array origin (values ++ surplus)) steps)) ∧
    ∀ others, definitionKind.Recast (.table entries) (.table others) →
      SameOutcome (.table entries) (.table others) := by
  refine ⟨?_, fun others => same_outcome_of_recast⟩
  intro steps fields record values origin surplus hplace hsteps hfirst hsurplus
  have hhere : (Kind.record fields).Recast (.table record) (.array origin (values ++ surplus)) := by
    refine .positional origin hfirst rfl ?_ hsurplus
    intro position field value item _ hvalue hitem
    cases hvalue.symm.trans hitem
    exact .same ..
  have hrecast := hplace.recast (fun _ => .array origin (values ++ surplus)) hhere
  -- Below the root the outermost value stays a table.
  cases steps with
  | nil => exact absurd rfl hsteps
  | cons step steps =>
      cases hplace with
      | field => exact same_outcome_of_recast hrecast

/-- The texts of a panel. -/
def panelTexts : List Value :=
  [.scalar .memory (.string "P"), .scalar .memory (.string "d")]

/-- The panel as a table, its fields in another order. -/
def panelTable : Value :=
  .table [("data_source", .scalar .memory (.string "d")), ("title", .scalar .memory (.string "P"))]

/-- A definition whose row and panel are tables. -/
def tableEntries : List (String × Value) :=
  [("title", .scalar .memory (.string "T")),
    ("rows", .array .memory [.table [("panels", .array .memory [panelTable])]])]

/-- The same with arrays, and another element behind the only field of the row. -/
def arrayEntries : List (String × Value) :=
  [("title", .scalar .memory (.string "T")),
    ("rows", .array .memory
      [.array .memory [.array .memory [.array .memory panelTexts], .nil]])]

/-- The panel holds the first two of its fields. -/
theorem panel_table_holds_first :
    HoldsFirst ["title", "data_source", "transparent", "targets"] panelTable.entries
      panelTexts where
  length_le := by decide
  lookup_eq name := by
    by_cases htitle : name = "title"
    · rw [htitle]
      rfl
    by_cases hdata : name = "data_source"
    · rw [hdata]
      rfl
    have htitle := beq_eq_false_iff_ne.mpr htitle
    have hdata := beq_eq_false_iff_ne.mpr hdata
    simp [panelTable, panelTexts, Value.entries, List.lookup_cons, htitle, hdata]

/-- Writing the row and the panel in it as arrays is a rewriting. -/
theorem array_entries_recast :
    definitionKind.Recast (.table tableEntries) (.table arrayEntries) := by
  have hpanel : panelKind.Recast panelTable (.array .memory (panelTexts ++ [])) := by
    refine .positional .memory panel_table_holds_first rfl ?_ (absurd rfl)
    intro position field value item _ hvalue hitem
    cases hvalue.symm.trans hitem
    exact .same ..
  have hpanels : (Kind.list panelKind).Recast (.array .memory [panelTable])
      (.array .memory [.array .memory panelTexts]) := by
    refine .list .memory rfl ?_
    rintro (_ | position) item other ⟨⟩ ⟨⟩
    exact hpanel
  have hrow : rowKind.Recast (.table [("panels", .array .memory [panelTable])])
      (.array .memory ([.array .memory [.array .memory panelTexts]] ++ [.nil])) := by
    have hfirst : HoldsFirst ["panels"] [("panels", .array .memory [panelTable])]
        [.array .memory [panelTable]] := ⟨Nat.le_refl 1, fun name => rfl⟩
    refine .positional .memory hfirst rfl ?_ fun _ => rfl
    rintro (_ | position) field value item ⟨⟩ ⟨⟩ ⟨⟩
    exact hpanels
  have hplace : definitionKind.Place (.table tableEntries) [.key "rows", .index 0] rowKind
      (.table [("panels", .array .memory [panelTable])]) :=
    .field rfl rfl (.element rfl (.here ..))
  exact hplace.recast
    (fun _ => .array .memory [.array .memory [.array .memory panelTexts], .nil]) hrow

/-- An array in an array is read as a row with a panel, and so is an array in place of the panel
alone. -/
theorem positional_records_agree_nested :
    ofConfig .listed (.table tableEntries) = .ok ⟨"T", [], [⟨[⟨"P", "d", false, []⟩]⟩]⟩ ∧
    ofConfig .listed (.table arrayEntries) = .ok ⟨"T", [], [⟨[⟨"P", "d", false, []⟩]⟩]⟩ ∧
    ofConfig .listed ((Value.table tableEntries).replaceAt (.array .memory panelTexts)
      [.key "rows", .index 0, .key "panels", .index 0]) =
        .ok ⟨"T", [], [⟨[⟨"P", "d", false, []⟩]⟩]⟩ := by
  have hread : ofConfig .listed (.table tableEntries) =
      .ok ⟨"T", [], [⟨[⟨"P", "d", false, []⟩]⟩]⟩ := by decide +kernel
  obtain ⟨hsingle, hall⟩ := positional_records_agree tableEntries
  have hplace : definitionKind.Place (.table tableEntries)
      [.key "rows", .index 0, .key "panels", .index 0] panelKind panelTable :=
    .field rfl rfl (.element rfl (.field rfl rfl (.element rfl (.here ..))))
  have hpanel := hsingle .memory [] hplace nofun panel_table_holds_first (absurd rfl)
  have hnested := hall _ array_entries_recast
  exact ⟨hread, (hnested.success _ _ _).mp hread, (hpanel.success _ _ _).mp hread⟩

end DashboardDefinition

end DashboardGenerator
