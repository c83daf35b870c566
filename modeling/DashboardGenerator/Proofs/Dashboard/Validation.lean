import DashboardGenerator.Dashboard.Validation
import Mathlib.Data.List.Nodup

/-!
# When a dashboard is accepted

`validate_eq_ok_iff`: a dashboard is accepted exactly if the names of its templates are pairwise
distinct and every variable that a query references is one of them. `validate_congr`: nothing but the
names of the templates and the titles and expressions of the panels has a say in that.
-/

namespace DashboardGenerator

/-- Nothing repeats behind `seen` exactly if the names are new and pairwise distinct. -/
theorem first_repeat_go_eq_none_iff {seen names : List String} :
    firstRepeat?.go seen names = none ↔ names.Nodup ∧ ∀ name ∈ names, name ∉ seen := by
  -- Every name joins those that were seen, so `seen` varies in the induction.
  induction names generalizing seen with
  | nil => simp [firstRepeat?.go]
  | cons name names ih =>
      rw [firstRepeat?.go]
      by_cases hseen : name ∈ seen
      · simp [hseen]
      · rw [if_neg hseen, ih, List.nodup_cons]
        constructor
        · rintro ⟨hnodup, hnew⟩
          refine ⟨⟨fun hmem => hnew name hmem (by simp), hnodup⟩, ?_⟩
          rintro other hother
          rcases List.mem_cons.mp hother with rfl | hmem
          · exact hseen
          · exact fun h => hnew other hmem (List.mem_cons_of_mem _ h)
        · rintro ⟨⟨hname, hnodup⟩, hnew⟩
          refine ⟨hnodup, fun other hother h => ?_⟩
          rcases List.mem_cons.mp h with rfl | h
          · exact hname hother
          · exact hnew other (List.mem_cons_of_mem _ hother) h

/-- No name repeats exactly if the names are pairwise distinct. -/
theorem first_repeat_eq_none_iff {names : List String} :
    firstRepeat? names = none ↔ names.Nodup := by
  simp [firstRepeat?, first_repeat_go_eq_none_iff]

/-- A panel has no undefined variable exactly if all it references are declared. -/
theorem Panel.undefined_variable_eq_none_iff {panel : Panel} {declared : List String} :
    panel.undefinedVariable? declared = none ↔
      ∀ target ∈ panel.targets,
        ∀ name ∈ Placeholder.referencedVariables target.expression, name ∈ declared := by
  simp only [undefinedVariable?, Panel.variables, Option.map_eq_none_iff, List.find?_eq_none,
    List.mem_flatMap, decide_not, Bool.not_eq_true', decide_eq_false_iff_not, not_not]
  constructor
  · intro h target htarget name hname
    exact h name ⟨target, htarget, hname⟩
  · rintro h name ⟨target, htarget, hname⟩
    exact h target htarget name hname

/-- A dashboard is accepted exactly if its template names are pairwise distinct and every variable
that a query references is one of them. -/
theorem Dashboard.validate_eq_ok_iff {dashboard : Dashboard} :
    dashboard.validate = .ok () ↔
      dashboard.templateNames.Nodup ∧
        ∀ panel ∈ dashboard.panels, ∀ target ∈ panel.targets,
          ∀ name ∈ Placeholder.referencedVariables target.expression,
            name ∈ dashboard.templateNames := by
  have hvalidate : dashboard.validate = .ok () ↔ dashboard.fault? = none := by
    unfold validate
    cases dashboard.fault? <;> simp
  rw [hvalidate, fault?, ← first_repeat_eq_none_iff]
  cases firstRepeat? dashboard.templateNames with
  | some name => simp
  | none => simp [List.findSome?_eq_none_iff, Panel.undefined_variable_eq_none_iff]

/-! ## What validation reads -/

/-- The title of a panel and the expressions of its queries. -/
def Panel.outline (panel : Panel) : String × List String :=
  (panel.title, panel.targets.map Target.expression)

/-- Panels with one outline have the same undefined variable. -/
theorem Panel.undefined_variable_of_outline (panel : Panel) (declared : List String) :
    panel.undefinedVariable? declared =
      ((panel.outline.2.flatMap Placeholder.referencedVariables).find? fun name =>
        name ∉ declared).map (.undefinedVariable panel.outline.1) := by
  rw [outline, List.flatMap_map]
  rfl

/-- Dashboards with the same template names and the same outlines of panels are accepted alike, or
rejected for the same fault. -/
theorem Dashboard.validate_congr {dashboard other : Dashboard}
    (hnames : other.templateNames = dashboard.templateNames)
    (hpanels : other.panels.map Panel.outline = dashboard.panels.map Panel.outline) :
    other.validate = dashboard.validate := by
  have hfind : ∀ (subject : Dashboard) (declared : List String),
      subject.panels.findSome? (·.undefinedVariable? declared) =
        (subject.panels.map Panel.outline).findSome? fun outline =>
          ((outline.2.flatMap Placeholder.referencedVariables).find? fun name =>
            name ∉ declared).map (.undefinedVariable outline.1) := by
    intro subject declared
    simp only [List.findSome?_map, Function.comp_def, Panel.undefined_variable_of_outline]
  rw [validate, validate, fault?, fault?, hnames, hfind, hfind, hpanels]

end DashboardGenerator
