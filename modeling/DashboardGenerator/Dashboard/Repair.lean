import DashboardGenerator.Dashboard.Validation

/-!
# Repairing a dashboard

A dashboard that references undeclared variables can be repaired fault by fault: it is validated,
the variable that is reported gets a template, and so on until there is nothing left to report.
What a new template holds besides its name is free. A repeated template name is not repaired.
-/

namespace DashboardGenerator.Dashboard

/-- The variables that the queries reference, in document order, as often as they do. -/
def references (dashboard : Dashboard) : List String :=
  dashboard.panels.flatMap Panel.variables

/-- Those of them that no template declares. -/
def undeclared (dashboard : Dashboard) : List String :=
  dashboard.references.filter fun name => name ∉ dashboard.templateNames

/-- The dashboard with a template of the name behind the others, otherwise as `filling`. -/
def declare (dashboard : Dashboard) (name : String) (filling : Template) : Dashboard :=
  { dashboard with templating := dashboard.templating ++ [{ filling with name }] }

variable {dashboard : Dashboard} {title name : String} {filling : Template}

@[simp] theorem template_names_declare :
    (dashboard.declare name filling).templateNames = dashboard.templateNames ++ [name] := by
  simp [declare, templateNames]

/-- A new template takes away the references to its name and no others. -/
theorem undeclared_declare :
    (dashboard.declare name filling).undeclared =
      dashboard.undeclared.filter fun other => !other == name := by
  have hreferences : (dashboard.declare name filling).references = dashboard.references := rfl
  rw [undeclared, undeclared, hreferences, List.filter_filter]
  refine List.filter_congr fun other _ => ?_
  by_cases hother : other = name
  · simp [hother]
  · simp [hother]

/-- The variable that is reported as undefined is the first one that is undeclared. -/
theorem head_undeclared
    (hreported : dashboard.validate = .error (.undefinedVariable title name)) :
    dashboard.undeclared.head? = some name := by
  rw [validate, fault?] at hreported
  cases hrepeat : firstRepeat? dashboard.templateNames with
  | some repeated => simp [hrepeat] at hreported
  | none =>
      have hsearch : dashboard.panels.findSome?
          (fun panel => panel.undefinedVariable? dashboard.templateNames) =
            some (.undefinedVariable title name) := by
        cases hfound : dashboard.panels.findSome?
            fun panel => panel.undefinedVariable? dashboard.templateNames with
        | none => simp [hrepeat, hfound] at hreported
        | some fault => simpa [hrepeat, hfound] using hreported
      -- Up to the panel of that variable nothing is found, as a fault or as a name.
      obtain ⟨before, panel, after, hpanels, hpanel, hbefore⟩ :=
        List.findSome?_eq_some_iff.mp hsearch
      rw [Panel.undefinedVariable?, Option.map_eq_some_iff] at hpanel
      obtain ⟨found, hfound, heq⟩ := hpanel
      cases heq
      rw [undeclared, references, List.head?_filter, List.find?_flatMap, hpanels]
      refine List.findSome?_eq_some_iff.mpr ⟨before, panel, after, rfl, hfound, ?_⟩
      intro other hother
      exact Option.map_eq_none_iff.mp (hbefore other hother)

/-- A template for the reported variable leaves fewer undeclared references. -/
theorem length_undeclared_lt
    (hreported : dashboard.validate = .error (.undefinedVariable title name)) :
    (dashboard.declare name filling).undeclared.length < dashboard.undeclared.length := by
  rw [undeclared_declare]
  refine List.length_filter_lt_length_iff_exists.mpr ⟨name, ?_, by simp⟩
  exact List.mem_of_head? (head_undeclared hreported)

/-- Validate, and as long as a variable is reported as undefined add a template for it, filled in by
`fill`. The result holds the faults that were reported and the dashboard at the end. -/
def repair (fill : Dashboard → String → Template) (dashboard : Dashboard) :
    List DashboardError × Dashboard :=
  match _validated : dashboard.validate with
  | .ok () => ([], dashboard)
  | .error (.duplicateTemplate name) => ([.duplicateTemplate name], dashboard)
  | .error (.undefinedVariable title name) =>
    let repaired := repair fill (dashboard.declare name (fill dashboard name))
    (.undefinedVariable title name :: repaired.1, repaired.2)
termination_by dashboard.undeclared.length
decreasing_by exact length_undeclared_lt _validated

end DashboardGenerator.Dashboard
