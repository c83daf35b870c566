import DashboardGenerator.Dashboard.Repair
import DashboardGenerator.Proofs.Dashboard.Definition
import Mathlib.Data.List.Flatten
import Mathlib.Logic.Relation

/-!
# What validation depends on

Validation reads the names of the templates, and of every panel the title and the expressions. So it
gives the same result however the panels are divided into rows (`Row.panels_of_regroups`). Whether a
dashboard is accepted depends on less: template names have to be distinct and every reference one of
them (`validate_eq_ok_iff_references`), in whatever order both stand. A change to one list of the
document does to the references what it does to that list (`ChangesList.references`), which settles
reordering and removal alike.
-/

namespace DashboardGenerator

/-! ## Dividing panels into rows -/

/-- The rows hold the same panels in the same order: one row has been split in two, two rows have
been joined, or a row without panels has come in between. -/
inductive Row.Regroups : List Row → List Row → Prop
  | split (before after : List Row) (first second : List Panel) :
      Regroups (before ++ ⟨first ++ second⟩ :: after) (before ++ ⟨first⟩ :: ⟨second⟩ :: after)
  | join (before after : List Row) (first second : List Panel) :
      Regroups (before ++ ⟨first⟩ :: ⟨second⟩ :: after) (before ++ ⟨first ++ second⟩ :: after)
  | insertEmpty (before after : List Row) :
      Regroups (before ++ after) (before ++ ⟨[]⟩ :: after)

/-- Dividing the panels otherwise leaves their sequence as it is. -/
theorem Row.Regroups.panels {rows others : List Row} (hregroups : Regroups rows others) :
    others.flatMap Row.panels = rows.flatMap Row.panels := by
  cases hregroups with
  | split before after first second | join before after first second =>
      simp only [List.flatMap_append, List.flatMap_cons, List.append_assoc]
  | insertEmpty before after =>
      rw [List.flatMap_append, List.flatMap_append, List.flatMap_cons, List.nil_append]

/-- Dividing the panels otherwise any number of times leaves their sequence as it is. -/
theorem Row.panels_of_regroups {rows others : List Row}
    (hregroups : Relation.ReflTransGen Regroups rows others) :
    others.flatMap Row.panels = rows.flatMap Row.panels := by
  induction hregroups with
  | refl => rfl
  | tail _ hstep ih => rw [hstep.panels, ih]

/-! ## Changing one list -/

/-- One list in the rows of the dashboard has been replaced by a related one: the list of all rows,
the panels of one row, or the queries of one panel. -/
inductive Dashboard.ChangesList (related : ∀ {α : Type}, List α → List α → Prop)
    (dashboard : Dashboard) : Dashboard → Prop
  | rows {rows : List Row} (hrelated : related dashboard.rows rows) :
      ChangesList related dashboard { dashboard with rows }
  | panels {before after : List Row} {panels others : List Panel}
      (hrows : dashboard.rows = before ++ ⟨panels⟩ :: after) (hrelated : related panels others) :
      ChangesList related dashboard { dashboard with rows := before ++ ⟨others⟩ :: after }
  | targets {before after : List Row} {left right : List Panel} {panel : Panel}
      {targets : List Target} (hrows : dashboard.rows = before ++ ⟨left ++ panel :: right⟩ :: after)
      (hrelated : related panel.targets targets) :
      ChangesList related dashboard
        { dashboard with rows := before ++ ⟨left ++ { panel with targets } :: right⟩ :: after }

/-- One list of the dashboard has been put in another order: that of its templates, or one in its
rows. -/
inductive Dashboard.Reorders (dashboard : Dashboard) : Dashboard → Prop
  | templates {templating : List Template} (hperm : dashboard.templating.Perm templating) :
      Reorders dashboard { dashboard with templating }
  | contents {other : Dashboard} (hchanges : dashboard.ChangesList List.Perm other) :
      Reorders dashboard other

/-- Some rows of the dashboard, some panels of one row or some queries of one panel are gone. -/
def Dashboard.Thins (dashboard other : Dashboard) : Prop :=
  dashboard.ChangesList (fun items kept => kept.Sublist items) other

/-- A relation between lists that goes over to the parts of their elements, and from a piece of a
list to the whole list. -/
structure IsLocal (related : ∀ {α : Type}, List α → List α → Prop) : Prop where
  parts : ∀ {α β : Type} {items others : List α} (part : α → List β), related items others →
    related (items.flatMap part) (others.flatMap part)
  inside : ∀ {α : Type} {items others : List α} (before after : List α), related items others →
    related (before ++ items ++ after) (before ++ others ++ after)

theorem is_local_perm : IsLocal List.Perm where
  parts part hperm := hperm.flatMap_right part
  inside before after hperm := (hperm.append_left before).append_right after

theorem is_local_sublist : IsLocal fun items kept => kept.Sublist items where
  parts part hsublist := hsublist.flatMap part
  inside before after hsublist :=
    ((List.Sublist.refl before).append hsublist).append (List.Sublist.refl after)

namespace Dashboard

variable {dashboard other : Dashboard}

/-- The variables that the queries reference, row by row. -/
theorem references_eq (dashboard : Dashboard) :
    dashboard.references =
      dashboard.rows.flatMap fun row => row.panels.flatMap Panel.variables := by
  rw [references, panels, List.flatMap_assoc]

/-- A change to one list does the same to the references. -/
theorem ChangesList.references {related : ∀ {α : Type}, List α → List α → Prop}
    (hlocal : IsLocal related) (hchanges : dashboard.ChangesList related other) :
    related dashboard.references other.references := by
  rw [references_eq, references_eq]
  cases hchanges with
  | rows hrelated => exact hlocal.parts _ hrelated
  | @panels before after _ _ hrows hrelated =>
      rw [hrows]
      simp only [List.flatMap_append, List.flatMap_cons, ← List.append_assoc]
      exact hlocal.inside _ _ (hlocal.parts _ hrelated)
  | @targets before after left right panel targets hrows hrelated =>
      rw [hrows]
      simp only [List.flatMap_append, List.flatMap_cons, ← List.append_assoc]
      -- What stands around the queries of the panel comes from before and behind it.
      have hinside := hlocal.inside
        (before.flatMap (fun row => row.panels.flatMap Panel.variables) ++
          left.flatMap Panel.variables) (right.flatMap Panel.variables ++
          after.flatMap fun row => row.panels.flatMap Panel.variables)
        (hlocal.parts (fun target => Placeholder.referencedVariables target.expression) hrelated)
      simpa only [List.append_assoc, Panel.variables] using hinside

/-- A change to a list in the rows leaves the templates alone. -/
theorem ChangesList.template_names {related : ∀ {α : Type}, List α → List α → Prop}
    (hchanges : dashboard.ChangesList related other) :
    other.templateNames = dashboard.templateNames := by
  cases hchanges <;> rfl

/-! ## Acceptance -/

/-- A dashboard is accepted exactly if its template names are pairwise distinct and every reference
is one of them. -/
theorem validate_eq_ok_iff_references :
    dashboard.validate = .ok () ↔
      dashboard.templateNames.Nodup ∧ dashboard.references ⊆ dashboard.templateNames := by
  rw [validate_eq_ok_iff]
  simp only [List.subset_def, references, Panel.variables, List.mem_flatMap]
  refine and_congr_right fun _ => ⟨?_, ?_⟩
  · rintro hdeclared name ⟨panel, hpanel, target, htarget, hname⟩
    exact hdeclared panel hpanel target htarget name hname
  · intro hdeclared panel hpanel target htarget name hname
    exact hdeclared ⟨panel, hpanel, target, htarget, hname⟩

/-- A dashboard that has the template names of an accepted one, in any order, and no other
references than that one is accepted. -/
theorem accepted_of_perm (hnames : dashboard.templateNames.Perm other.templateNames)
    (hreferences : other.references ⊆ dashboard.references)
    (haccepted : dashboard.validate = .ok ()) : other.validate = .ok () := by
  obtain ⟨hnodup, hdeclared⟩ := validate_eq_ok_iff_references.mp haccepted
  exact validate_eq_ok_iff_references.mpr
    ⟨hnames.nodup_iff.mp hnodup, fun name hname => hnames.subset (hdeclared (hreferences hname))⟩

/-- One reordering makes no difference to acceptance. -/
theorem Reorders.accepted_iff (hreorders : dashboard.Reorders other) :
    other.validate = .ok () ↔ dashboard.validate = .ok () := by
  have hperm : dashboard.templateNames.Perm other.templateNames ∧
      dashboard.references.Perm other.references := by
    cases hreorders with
    | templates hperm => exact ⟨hperm.map Template.name, List.Perm.refl _⟩
    | contents hchanges =>
        exact ⟨.of_eq hchanges.template_names.symm, hchanges.references is_local_perm⟩
  obtain ⟨hnames, hreferences⟩ := hperm
  constructor
  · exact accepted_of_perm hnames.symm hreferences.subset
  · exact accepted_of_perm hnames hreferences.symm.subset

/-- Taking something out of the rows keeps a dashboard accepted. -/
theorem Thins.accepted (hthins : dashboard.Thins other) (haccepted : dashboard.validate = .ok ()) :
    other.validate = .ok () :=
  accepted_of_perm (.of_eq (ChangesList.template_names hthins).symm)
    (ChangesList.references is_local_sublist hthins).subset haccepted

section Templates

variable {before after : List Template} {template : Template}

/-- A template with a new name keeps a dashboard accepted. -/
theorem accepted_of_new_template (htemplating : dashboard.templating = before ++ after)
    (hnew : template.name ∉ dashboard.templateNames) (haccepted : dashboard.validate = .ok ()) :
    ({ dashboard with templating := before ++ template :: after } : Dashboard).validate =
      .ok () := by
  obtain ⟨hnodup, hdeclared⟩ := validate_eq_ok_iff_references.mp haccepted
  have hnames : (({ dashboard with templating := before ++ template :: after } : Dashboard)
      ).templateNames.Perm (template.name :: dashboard.templateNames) := by
    simp only [templateNames, htemplating, List.map_append, List.map_cons]
    exact List.perm_middle
  refine validate_eq_ok_iff_references.mpr ⟨?_, fun name hname => ?_⟩
  · exact hnames.nodup_iff.mpr (List.nodup_cons.mpr ⟨hnew, hnodup⟩)
  · exact hnames.symm.subset (List.mem_cons_of_mem _ (hdeclared hname))

/-- Without one of its templates an accepted dashboard is accepted exactly if no query references
the name of that template. -/
theorem accepted_without_template_iff
    (htemplating : dashboard.templating = before ++ template :: after)
    (haccepted : dashboard.validate = .ok ()) :
    ({ dashboard with templating := before ++ after } : Dashboard).validate = .ok () ↔
      template.name ∉ dashboard.references := by
  obtain ⟨hnodup, hdeclared⟩ := validate_eq_ok_iff_references.mp haccepted
  have hnames : dashboard.templateNames.Perm (template.name ::
      (({ dashboard with templating := before ++ after } : Dashboard)).templateNames) := by
    simp only [templateNames, htemplating, List.map_append, List.map_cons]
    exact List.perm_middle
  obtain ⟨hgone, hrest⟩ := List.nodup_cons.mp (hnames.nodup_iff.mp hnodup)
  rw [validate_eq_ok_iff_references]
  constructor
  · exact fun hkept hname => hgone (hkept.2 hname)
  · refine fun hunused => ⟨hrest, fun name hname => ?_⟩
    rcases List.mem_cons.mp (hnames.subset (hdeclared hname)) with rfl | hmem
    · exact absurd hname hunused
    · exact hmem

end Templates

/-- What validation depends on. Its result, faults included, depends on the template names and on
the titles and expressions of the panels in display order alone, so numbering, another external
identifier and another division into rows make no difference to it. Acceptance does not depend on
the order of templates, rows, panels of a row and queries of a panel either. It is kept when rows,
panels or queries are taken out and when a template with a new name comes in, and without a template
exactly if no query references its name. -/
theorem validation_depends_on (dashboard : Dashboard) :
    (∀ other : Dashboard, other.templateNames = dashboard.templateNames →
      other.panels.map Panel.outline = dashboard.panels.map Panel.outline →
      other.validate = dashboard.validate) ∧
    dashboard.assignPanelIds.validate = dashboard.validate ∧
    (∀ uid, (dashboard.withUid uid).validate = dashboard.validate) ∧
    (∀ rows, Relation.ReflTransGen Row.Regroups dashboard.rows rows →
      ({ dashboard with rows } : Dashboard).validate = dashboard.validate) ∧
    (∀ other, Relation.ReflTransGen Reorders dashboard other →
      (other.validate = .ok () ↔ dashboard.validate = .ok ())) ∧
    (∀ other, Relation.ReflTransGen Thins dashboard other → dashboard.validate = .ok () →
      other.validate = .ok ()) ∧
    (∀ before template after, dashboard.templating = before ++ after →
      template.name ∉ dashboard.templateNames → dashboard.validate = .ok () →
      ({ dashboard with templating := before ++ template :: after } : Dashboard).validate =
        .ok ()) ∧
    ∀ before template after, dashboard.templating = before ++ template :: after →
      dashboard.validate = .ok () →
      (({ dashboard with templating := before ++ after } : Dashboard).validate = .ok () ↔
        ∀ panel ∈ dashboard.panels, ∀ target ∈ panel.targets,
          template.name ∉ Placeholder.referencedVariables target.expression) := by
  refine ⟨fun other => validate_congr, validate_assign_panel_ids dashboard, fun _ => rfl,
    ?_, ?_, ?_, fun before template after => accepted_of_new_template, ?_⟩
  · intro rows hregroups
    refine validate_congr rfl ?_
    exact congrArg (List.map Panel.outline) (Row.panels_of_regroups hregroups)
  · intro other hreorders
    induction hreorders with
    | refl => rfl
    | tail _ hstep ih => rw [hstep.accepted_iff, ih]
  · intro other hthins haccepted
    induction hthins with
    | refl => exact haccepted
    | tail _ hstep ih => exact hstep.accepted ih
  · intro before template after htemplating haccepted
    rw [accepted_without_template_iff htemplating haccepted]
    simp only [references, Panel.variables, List.mem_flatMap, not_exists, not_and]

/-- A panel with one query. -/
def singleQuery (title expression : String) : Panel :=
  ⟨none, title, "p", false, [⟨expression, ""⟩]⟩

/-- Two templates, and a row with two panels that reference one of them each. -/
def crossed : Dashboard where
  title := "Edge"
  uid := none
  templating := [⟨"a", "p", "up", none, ""⟩, ⟨"b", "p", "up", none, ""⟩]
  rows := [⟨[singleQuery "P" "$a", singleQuery "Q" "[[b]]"]⟩]

/-- The dashboard stays accepted with its row split, its templates swapped, without its second panel
and with a third template, but not without the second template, which is referenced. -/
theorem validation_depends_on_crossed :
    crossed.validate = .ok () ∧
    ({ crossed with rows := [⟨[singleQuery "P" "$a"]⟩, ⟨[singleQuery "Q" "[[b]]"]⟩] } :
      Dashboard).validate = .ok () ∧
    ({ crossed with templating := crossed.templating.reverse } : Dashboard).validate = .ok () ∧
    ({ crossed with rows := [⟨[singleQuery "P" "$a"]⟩] } : Dashboard).validate = .ok () ∧
    "c" ∉ crossed.templateNames ∧
    ({ crossed with templating := ⟨"c", "p", "up", none, ""⟩ :: crossed.templating } :
      Dashboard).validate = .ok () ∧
    ({ crossed with templating := [⟨"a", "p", "up", none, ""⟩] } : Dashboard).validate ≠ .ok () := by
  obtain ⟨hsame, -, -, hregroups, hreorders, hthins, hnew, hwithout⟩ :=
    validation_depends_on crossed
  have haccepted : crossed.validate = .ok () := by decide +kernel
  have hfresh : "c" ∉ crossed.templateNames := by decide
  have hrows := Row.Regroups.split [] [] [singleQuery "P" "$a"] [singleQuery "Q" "[[b]]"]
  refine ⟨haccepted, (hregroups _ (.single hrows)).trans haccepted, ?_, ?_, hfresh,
    hnew [] _ _ rfl hfresh haccepted, ?_⟩
  · exact (hreorders _ (.single (.templates (List.reverse_perm _).symm))).mpr haccepted
  · have hpanels : crossed.Thins { crossed with rows := [⟨[singleQuery "P" "$a"]⟩] } :=
      @ChangesList.panels _ crossed [] [] _ _ rfl (List.sublist_append_left [_] [_])
    exact hthins _ (.single hpanels) haccepted
  · intro hkept
    have hunused := (hwithout [_] _ [] rfl haccepted).mp hkept
    exact hunused (singleQuery "Q" "[[b]]") (by decide) ⟨"[[b]]", ""⟩ (by decide)
      (by decide +kernel)

end Dashboard

end DashboardGenerator
