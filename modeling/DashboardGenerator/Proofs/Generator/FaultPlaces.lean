import DashboardGenerator.Proofs.Config.Damage
import DashboardGenerator.Proofs.Generator.DefinitionSchema

/-!
# Where faults are reported

The readers of a definition fail with the fault that its kind reports (`refused_of_reports`), so
what holds of damage in general holds of definitions. `faults_located` spells it out for a tree
that is read as a definition: after damage at one place the fault is that of the damage, and its
path leads from the root to just that place.
-/

namespace DashboardGenerator

open Config

/-! ## Paths in words -/

/-- A step as it stands in the text of a path behind another one: a key behind a key has a point in
front, and nothing stands between any other two steps. -/
def Config.Step.textBehind : Option Step → Step → String
  | some (.key _), .key name => "." ++ name
  | some (.index _), .key name | none, .key name => name
  | _, .index position => s!"[{position}]"

/-- The steps one behind the other. -/
def Config.chainText (steps : List Step) : String :=
  String.join (List.zipWith Step.textBehind (none :: steps.map some) steps)

/-- Behind a first step the text of a path is the text of each further step. -/
theorem Config.steps_text_cons (step : Step) (steps : List Step) :
    stepsText (step :: steps) = step.textBehind none ++
      String.join (List.zipWith Step.textBehind (some step :: steps.map some) steps) := by
  induction steps generalizing step with
  | nil => cases step <;> simp [stepsText, Step.textBehind]
  | cons next steps ih =>
      have hnext := ih next
      rw [List.map_cons, List.zipWith_cons_cons, String.join_cons]
      cases step with
      | index position =>
          rw [stepsText, hnext]
          cases next <;> rfl
      | key name =>
          cases next with
          | index position =>
              rw [stepsText, hnext]
              · rfl
              · nofun
          | key other =>
              rw [stepsText, hnext, String.append_assoc]
              simp only [Step.textBehind, String.append_assoc]

/-- The text of a path is the chain of its steps. -/
theorem Config.steps_text_eq_chain_text (steps : List Step) :
    stepsText steps = chainText steps := by
  cases steps with
  | nil => rfl
  | cons step steps =>
      rw [steps_text_cons, chainText, List.zipWith_cons_cons, String.join_cons]
      rfl

namespace DashboardDefinition

/-! ## Readers and their kinds -/

/-- A query is read as its kind says. -/
theorem is_read_by_target : targetKind.IsReadBy readTarget := by
  have hfits {value} order :
      targetKind.Fits value ↔ ∃ target, readTarget order value = .ok target := by
    simp only [fits_target_iff, computes_target order value _]
  refine ⟨hfits, fun {value expected} order hreports => ?_⟩
  have hfaults entries : List.Forall₂ (FieldFault entries) _ _ :=
    .cons (field_fault "expr" true is_read_by_string order)
      (.cons (field_fault "legend_format" false is_read_by_string order) .nil)
  cases hreports with
  | unfit hunfit => exact fails_of_unfit (hfits order) hunfit
  | field hfield hpart hreports hothers =>
      exact (visit_fails (hfaults _) (by decide) hfield hpart hreports hothers).bind _
  | missing hparts hmissing =>
      refine visit_fits (hfaults _) hparts ?_
      simp only [List.forall_mem_cons] at hparts
      obtain ⟨hexpression, hlegend, -⟩ := hparts
      refine read_fitting_field hexpression is_read_by_string fun expression hfound => ?_
      refine read_fitting_field hlegend is_read_by_string fun legendFormat _ => ?_
      refine require_field hmissing hfound fun hmissing result => ?_
      cases hmissing

/-- A panel is read as its kind says. -/
theorem is_read_by_panel : panelKind.IsReadBy readPanel := by
  have hfits {value} order :
      panelKind.Fits value ↔ ∃ panel, readPanel order value = .ok panel := by
    simp only [fits_panel_iff, computes_panel order value _]
  refine ⟨hfits, fun {value expected} order hreports => ?_⟩
  have hfaults entries : List.Forall₂ (FieldFault entries) _ _ :=
    .cons (field_fault "title" true is_read_by_string order)
      (.cons (field_fault "data_source" true is_read_by_string order)
      (.cons (field_fault "transparent" false is_read_by_boolean order)
      (.cons (field_fault "targets" false (is_read_by_list is_read_by_target) order) .nil)))
  cases hreports with
  | unfit hunfit => exact fails_of_unfit (hfits order) hunfit
  | field hfield hpart hreports hothers =>
      exact (visit_fails (hfaults _) (by decide) hfield hpart hreports hothers).bind _
  | missing hparts hmissing =>
      refine visit_fits (hfaults _) hparts ?_
      simp only [List.forall_mem_cons] at hparts
      obtain ⟨htitle, hdata, htransparent, htargets, -⟩ := hparts
      refine read_fitting_field htitle is_read_by_string fun title htitleFound => ?_
      refine read_fitting_field hdata is_read_by_string fun dataSource hdataFound => ?_
      refine read_fitting_field htransparent is_read_by_boolean fun transparent _ => ?_
      refine read_fitting_field htargets (is_read_by_list is_read_by_target) fun targets _ => ?_
      refine require_field hmissing htitleFound fun hmissing title => ?_
      refine require_field hmissing hdataFound fun hmissing dataSource => ?_
      cases hmissing

/-- A row is read as its kind says. -/
theorem is_read_by_row : rowKind.IsReadBy readRow := by
  have hfits {value} order : rowKind.Fits value ↔ ∃ row, readRow order value = .ok row := by
    simp only [fits_row_iff, computes_row order value _]
  refine ⟨hfits, fun {value expected} order hreports => ?_⟩
  cases hreports with
  | unfit hunfit => exact fails_of_unfit (hfits order) hunfit
  | @field _ _ name _ _ _ _ hfield hpart hreports _ =>
      -- There is one field only, so that nothing has to be visited first.
      rw [List.lookup_cons] at hfield
      by_cases hname : name = "panels"
      · subst hname
        cases hfield
        exact (field_fails (is_read_by_list is_read_by_panel) hpart hreports order).bind _
      · rw [beq_eq_false_iff_ne.mpr hname] at hfield
        cases hfield
  | missing _ hmissing => cases hmissing

/-- A template variable is read as its kind says. -/
theorem is_read_by_template : templateKind.IsReadBy readTemplate := by
  have hfits {value} order :
      templateKind.Fits value ↔ ∃ template, readTemplate order value = .ok template := by
    simp only [fits_template_iff, computes_template order value _]
  refine ⟨hfits, fun {value expected} order hreports => ?_⟩
  have hfaults entries : List.Forall₂ (FieldFault entries) _ _ :=
    .cons (field_fault "name" true is_read_by_string order)
      (.cons (field_fault "data_source" true is_read_by_string order)
      (.cons (field_fault "query" true is_read_by_string order)
      (.cons (field_fault "regex" false is_read_by_optional_string order)
      (.cons (field_fault "default" false is_read_by_string order) .nil))))
  cases hreports with
  | unfit hunfit => exact fails_of_unfit (hfits order) hunfit
  | field hfield hpart hreports hothers =>
      exact (visit_fails (hfaults _) (by decide) hfield hpart hreports hothers).bind _
  | missing hparts hmissing =>
      refine visit_fits (hfaults _) hparts ?_
      simp only [List.forall_mem_cons] at hparts
      obtain ⟨hname, hdata, hquery, hregex, hdefault, -⟩ := hparts
      refine read_fitting_field hname is_read_by_string fun name hnameFound => ?_
      refine read_fitting_field hdata is_read_by_string fun dataSource hdataFound => ?_
      refine read_fitting_field hquery is_read_by_string fun query hqueryFound => ?_
      refine read_fitting_field hregex is_read_by_optional_string fun regex _ => ?_
      refine read_fitting_field hdefault is_read_by_string fun default _ => ?_
      refine require_field hmissing hnameFound fun hmissing name => ?_
      refine require_field hmissing hdataFound fun hmissing dataSource => ?_
      refine require_field hmissing hqueryFound fun hmissing query => ?_
      cases hmissing

/-- The entries of a definition fail with a fault as its kind reports. -/
theorem read_entries_fails {entries : List (String × Value)} {expected : ReadError → Prop}
    (hreports : definitionKind.Reports (.table entries) expected) (order : Order) :
    FailsWith expected (readEntries order entries) := by
  have hfaults : List.Forall₂ (FieldFault entries) _ _ :=
    .cons (field_fault "title" true is_read_by_string order)
      (.cons (field_fault "templating" false (is_read_by_list is_read_by_template) order)
      (.cons (field_fault "rows" false (is_read_by_list is_read_by_row) order) .nil))
  cases hreports with
  | unfit hunfit =>
      refine fails_of_unfit ?_ hunfit
      simp only [fits_definition_iff, read_entries_eq_ok_iff]
  | field hfield hpart hreports hothers =>
      exact (visit_fails hfaults (by decide) hfield hpart hreports hothers).bind _
  | missing hparts hmissing =>
      refine visit_fits hfaults hparts ?_
      simp only [List.forall_mem_cons] at hparts
      obtain ⟨htitle, htemplating, hrows, -⟩ := hparts
      refine read_fitting_field htitle is_read_by_string fun title htitleFound => ?_
      refine read_fitting_field htemplating (is_read_by_list is_read_by_template)
        fun templating _ => ?_
      refine read_fitting_field hrows (is_read_by_list is_read_by_row) fun rows _ => ?_
      refine require_field hmissing htitleFound fun hmissing title => ?_
      cases hmissing

/-- A definition fails with a fault as its kind reports. -/
theorem of_config_fails {tree : Value} {expected : ReadError → Prop}
    (hreports : definitionKind.Reports tree expected) (order : Order) :
    FailsWith expected (ofConfig order tree) := by
  cases tree with
  | table entries => exact read_entries_fails hreports order
  | nil | scalar | array =>
      -- What is no table has no fields, and at least the title is missing.
      cases hreports
      have hmissing : definitionKind.Reports (.table []) (Eq ⟨.missing, [.key "title"], .memory⟩) :=
        .missing (fun _ _ _ hpart => nomatch hpart) rfl
      obtain ⟨error, -, hread⟩ := read_entries_fails hmissing order
      exact ⟨error, trivial, hread⟩

/-! ## Damage -/

/-- In whatever order its keys are visited the tree is refused with an expected fault, and so is every
text with the same values. -/
def RefusedWith (tree : Value) (expected : ReadError → Prop) : Prop :=
  (∀ order, FailsWith expected (ofConfig order tree)) ∧
    ∀ host text source, ofToml .memory text = .ok source →
      (∀ entry ∈ source, IsPlainKey entry.1) → tree = .table source →
      ∃ error, expected error ∧ parse host text = .error (.read error)

/-- The tree is refused with a fault as it is reported. -/
theorem refused_of_reports {tree : Value} {expected : ReadError → Prop}
    (hreports : definitionKind.Reports tree expected) : RefusedWith tree expected := by
  refine ⟨of_config_fails hreports, fun host text source hsource hplain hsame => ?_⟩
  subst hsame
  obtain ⟨error, hexpected, hread⟩ := of_config_fails hreports host.order
  refine ⟨error, hexpected, ?_⟩
  rw [parse_of_plain_source hsource hplain, show readEntries host.order source = _ from hread]
  rfl

section Places

variable {order : Order} {entries : List (String × Value)} {definition : DashboardDefinition}
  {steps : List Step} {kind : Kind} {part : Value}

/-- A tree that is read as a definition is refused with the fault of what is changed in it, behind
the steps to that place. -/
theorem refused_of_change (hread : readEntries order entries = .ok definition)
    (hplace : definitionKind.Place (.table entries) steps kind part) (change : Value → Value)
    {rest : List Step} {expected : ReadError → Prop}
    (hreports : kind.Reports (change part) (IsBelow rest expected)) :
    RefusedWith ((Value.table entries).changeAt change steps)
      (IsBelow (steps ++ rest) expected) := by
  have hfits := fits_definition_iff.mpr ⟨definition, read_entries_eq_ok_iff.mp hread⟩
  have hchanged := hplace.reports hfits hreports
  rw [is_below_append] at hchanged
  exact refused_of_reports hchanged

/-- If the fault of what is changed is known, it is the one that is reported. -/
theorem refused_with_of_change (hread : readEntries order entries = .ok definition)
    (hplace : definitionKind.Place (.table entries) steps kind part) (change : Value → Value)
    {error : ReadError} (hreports : kind.Reports (change part) (Eq error)) :
    RefusedWith ((Value.table entries).changeAt change steps) (Eq (error.below steps)) := by
  rw [← is_below_nil (Eq error)] at hreports
  have hrefused := refused_of_change hread hplace change hreports
  rw [List.append_nil, is_below_eq] at hrefused
  exact hrefused

/-- If the value of a place is replaced by one that is wrong itself, the steps to the place are the
path. -/
theorem refused_of_replacement (hread : readEntries order entries = .ok definition)
    (hplace : definitionKind.Place (.table entries) steps kind part) {bad : Value}
    {fault : ReadFault} {origin : Origin} (hreports : kind.Reports bad (Eq ⟨fault, [], origin⟩)) :
    RefusedWith ((Value.table entries).replaceAt bad steps) (Eq ⟨fault, steps, origin⟩) := by
  have hrefused := refused_with_of_change hread hplace (fun _ => bad) hreports
  rw [ReadError.below, List.append_nil] at hrefused
  exact hrefused

end Places

/-- The sentence about a place below the root has the chain of steps to it. -/
theorem message_of_path {error : ReadError} (hpath : error.path ≠ []) :
    error.message = if error.fault = .missing
      then "missing configuration field \"" ++ chainText error.path ++ "\""
      else error.fault.text ++ " for key `" ++ chainText error.path ++ "`" ++
        error.origin.suffix := by
  have hsteps : error.path.isEmpty = false := by simpa using hpath
  rw [ReadError.message, steps_text_eq_chain_text, hsteps]
  cases error.fault with
  | missing => rfl
  | wrongType | wrongShape | tooShort =>
      simp only [Bool.false_eq_true, reduceCtorEq, if_false, String.append_assoc]

/-- Wherever a definition is damaged, just that place is reported, in whatever order the keys of
tables are visited. A text, a truth value or a list that is of another form is named, and so is the
first required field that is gone. A fault in the value of a field comes before missing fields around
it, and of the elements of an array the first that does not fit counts. The reported path is the
chain of keys and indexes from the root. -/
theorem faults_located {order : Order} {entries : List (String × Value)}
    {definition : DashboardDefinition} (hread : readEntries order entries = .ok definition) :
    (∀ {steps kind old} bad, definitionKind.Place (.table entries) steps kind old → bad.IsRecord →
      (kind = .text ∨ kind = .optionalText → RefusedWith ((Value.table entries).replaceAt bad steps)
        (Eq ⟨.wrongType bad.found .string, steps, bad.origin⟩)) ∧
      (kind = .truth → RefusedWith ((Value.table entries).replaceAt bad steps)
        (Eq ⟨.wrongType bad.found .boolean, steps, bad.origin⟩))) ∧
    (∀ {steps old} origin word, definitionKind.Place (.table entries) steps .truth old →
      word.toLower ∉ truthWords →
      RefusedWith ((Value.table entries).replaceAt (.scalar origin (.string word)) steps)
        (Eq ⟨.wrongType (.scalar (.string (Text.lowercase word))) .boolean, steps, origin⟩)) ∧
    (∀ {steps element old} bad, definitionKind.Place (.table entries) steps (.list element) old →
      (∀ origin items, bad ≠ .array origin items) →
      RefusedWith ((Value.table entries).replaceAt bad steps)
        (Eq ⟨.wrongShape bad.found .sequence, steps, .memory⟩)) ∧
    (∀ {steps fields record gone name},
      definitionKind.Place (.table entries) steps (.record fields) (.table record) →
      FirstRequired fields gone name →
      RefusedWith ((Value.table entries).changeAt (·.without gone) steps)
        (Eq ⟨.missing, steps ++ [.key name], .memory⟩)) ∧
    (∀ {steps fields record name inner part gone bad expected},
      definitionKind.Place (.table entries) steps (.record fields) record →
      (Kind.record fields).Place record [.key name] inner part → name ∉ gone →
      inner.Reports bad expected →
      RefusedWith ((Value.table entries).changeAt
        (fun record => (record.replaceAt bad [.key name]).without gone) steps)
        (IsBelow (steps ++ [.key name]) expected)) ∧
    (∀ {steps element old} origin items {position item expected},
      definitionKind.Place (.table entries) steps (.list element) old →
      (∀ other ∈ items.take position, element.Fits other) → items[position]? = some item →
      element.Reports item expected →
      RefusedWith ((Value.table entries).replaceAt (.array origin items) steps)
        (IsBelow (steps ++ [.index position]) expected)) ∧
    ∀ error : ReadError, error.path ≠ [] →
      error.message = if error.fault = .missing
        then "missing configuration field \"" ++ chainText error.path ++ "\""
        else error.fault.text ++ " for key `" ++ chainText error.path ++ "`" ++
          error.origin.suffix := by
  refine ⟨?_, ?_, ?_, ?_, ?_, ?_, fun error => message_of_path⟩
  · intro steps kind old bad hplace hrecord
    constructor
    · rintro (rfl | rfl)
      · exact refused_of_replacement hread hplace (.text hrecord)
      · exact refused_of_replacement hread hplace (.optionalText hrecord)
    · rintro rfl
      exact refused_of_replacement hread hplace (.truth hrecord)
  · intro steps old origin word hplace hword
    exact refused_of_replacement hread hplace (.word origin hword)
  · intro steps element old bad hplace hother
    exact refused_of_replacement hread hplace (.list hother)
  · intro steps fields record gone name hplace hfirst
    have hfits := hplace.fits (fits_definition_iff.mpr ⟨_, read_entries_eq_ok_iff.mp hread⟩)
    exact refused_with_of_change hread hplace (·.without gone) (reports_without hfits hfirst)
  · intro steps fields record name inner part gone bad expected hplace hfield hkept hbad
    have hfits := hplace.fits (fits_definition_iff.mpr ⟨_, read_entries_eq_ok_iff.mp hread⟩)
    exact refused_of_change hread hplace _ (reports_changed_without hfits hfield hkept hbad)
  · intro steps element old origin items position item expected hplace hbefore hitem hreports
    exact refused_of_change hread hplace _ (.element hbefore hitem hreports)

/-- A text that was written in memory. -/
def textValue (text : String) : Value :=
  .scalar .memory (.string text)

/-- A definition with one row, one panel and one query. -/
def singlePanelEntries : List (String × Value) :=
  [("title", textValue "T"),
    ("rows", .array .memory [.table [("panels", .array .memory [.table [("title", textValue "P"),
      ("data_source", textValue "d"),
      ("targets", .array .memory [.table [("expr", textValue "up")]])]])]])]

/-- The steps to its panel. -/
def singlePanelSteps : List Step :=
  [.key "rows", .index 0, .key "panels", .index 0]

/-- An array in place of the expression is reported there, and of two fields that are gone the
title. -/
theorem faults_located_single_panel :
    readEntries .listed singlePanelEntries = .ok ⟨"T", [], [⟨[⟨"P", "d", false, [⟨"up", ""⟩]⟩]⟩]⟩ ∧
    (ReadError.message ⟨.wrongType .sequence .string,
      singlePanelSteps ++ [.key "targets", .index 0, .key "expr"], .memory⟩) =
      "invalid type: sequence, expected a string for key `rows[0]panels[0]targets[0]expr`" ∧
    RefusedWith ((Value.table singlePanelEntries).replaceAt (.array .memory [])
        (singlePanelSteps ++ [.key "targets", .index 0, .key "expr"]))
      (Eq ⟨.wrongType .sequence .string,
        singlePanelSteps ++ [.key "targets", .index 0, .key "expr"], .memory⟩) ∧
    RefusedWith ((Value.table singlePanelEntries).changeAt
        (·.without ["data_source", "title"]) singlePanelSteps)
      (Eq ⟨.missing, singlePanelSteps ++ [.key "title"], .memory⟩) := by
  have hread : readEntries .listed singlePanelEntries =
      .ok ⟨"T", [], [⟨[⟨"P", "d", false, [⟨"up", ""⟩]⟩]⟩]⟩ := by decide +kernel
  obtain ⟨hform, -, -, hmissing, -, -, -⟩ := faults_located hread
  have hexpression : definitionKind.Place (.table singlePanelEntries)
      (singlePanelSteps ++ [.key "targets", .index 0, .key "expr"]) .text (textValue "up") :=
    .field rfl rfl (.element rfl (.field rfl rfl (.element rfl (.field rfl rfl (.element rfl
      (.field rfl rfl (.here ..)))))))
  have hpanel : definitionKind.Place (.table singlePanelEntries) singlePanelSteps panelKind
      (.table [("title", textValue "P"), ("data_source", textValue "d"),
        ("targets", .array .memory [.table [("expr", textValue "up")]])]) :=
    .field rfl rfl (.element rfl (.field rfl rfl (.element rfl (.here ..))))
  refine ⟨hread, by decide +kernel, ?_, ?_⟩
  · exact (hform (.array .memory []) hexpression trivial).1 (.inl rfl)
  · exact hmissing hpanel ⟨[], _, _, rfl, by decide, nofun⟩

end DashboardDefinition

end DashboardGenerator
