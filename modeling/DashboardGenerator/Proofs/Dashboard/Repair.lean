import DashboardGenerator.Dashboard.Repair
import DashboardGenerator.Proofs.Dashboard.FirstAppearance
import DashboardGenerator.Proofs.Dashboard.FirstFault
import Mathlib.Data.Finset.Card
import Mathlib.Data.Finset.SDiff

/-!
# Repairing fault by fault

Validation reports the first undeclared reference (`head_undeclared`), and a template for it takes
away all references to that name. If template names are pairwise distinct they stay so, and
repairing reports every undeclared name once, in the order of first appearance, and ends with a
dashboard that is accepted: `repair_reports_undeclared`.
-/

namespace DashboardGenerator.Dashboard

variable {dashboard : Dashboard}

/-! ## One round -/

/-- A dashboard declares all that it mentions exactly if nothing is undeclared. -/
theorem declares_all_iff : dashboard.DeclaresAll ↔ dashboard.undeclared = [] := by
  simp only [DeclaresAll, undeclared, references, panels, Panel.variables, List.filter_eq_nil_iff,
    List.mem_flatMap, decide_eq_true_eq, not_not]
  constructor
  · intro h name hmem
    obtain ⟨panel, ⟨row, hrow, hpanel⟩, target, htarget, hname⟩ := hmem
    exact h row hrow panel hpanel target htarget name hname
  · intro h row hrow panel hpanel target htarget name hname
    exact h name ⟨panel, ⟨row, hrow, hpanel⟩, target, htarget, hname⟩

/-- A template for an undeclared name keeps template names distinct. -/
theorem nodup_declare {name : String} (hnodup : dashboard.templateNames.Nodup)
    (hnew : name ∉ dashboard.templateNames) (filling : Template) :
    (dashboard.declare name filling).templateNames.Nodup := by
  rw [template_names_declare]
  refine List.nodup_append.mpr ⟨hnodup, List.nodup_singleton _, ?_⟩
  intro other hother last hlast heq
  rw [List.mem_singleton.mp hlast] at heq
  exact hnew (heq ▸ hother)

/-! ## All rounds -/

/-- The fault is that a panel references the name without a template for it. -/
def IsUndefined (fault : DashboardError) (name : String) : Prop :=
  ∃ title, fault = .undefinedVariable title name

/-- Round by round the undeclared names are reported, each once. At the end there is a template for
each of them behind the others, nothing else has changed, and the dashboard is accepted. -/
theorem repair_of_nodup (fill : Dashboard → String → Template)
    (hnodup : dashboard.templateNames.Nodup) :
    List.Forall₂ IsUndefined (dashboard.repair fill).1 dashboard.undeclared.eraseDups ∧
      (∃ added, (dashboard.repair fill).2 =
          { dashboard with templating := dashboard.templating ++ added } ∧
        added.map Template.name = dashboard.undeclared.eraseDups) ∧
      (dashboard.repair fill).2.validate = .ok () := by
  -- The induction is on the rounds; distinct template names are what every round keeps.
  fun_induction repair fill dashboard with
  | case1 dashboard haccepted =>
      have hnil := declares_all_iff.mp (validate_eq_ok_iff_declares_all.mp haccepted).2
      rw [hnil]
      exact ⟨.nil, ⟨[], by simp⟩, haccepted⟩
  | case2 dashboard name hrepeats =>
      exact absurd hnodup (exists_validate_eq_duplicate_iff.mp ⟨name, hrepeats⟩)
  | case3 dashboard title name hreported repaired ih =>
      obtain ⟨rest, hcons⟩ := List.head?_eq_some_iff.mp (head_undeclared hreported)
      have hnew : name ∉ dashboard.templateNames := by
        have hmem : name ∈ dashboard.undeclared := hcons ▸ List.mem_cons_self
        simpa using (List.mem_filter.mp hmem).2
      have herased : dashboard.undeclared.eraseDups =
          name :: (dashboard.declare name (fill dashboard name)).undeclared.eraseDups := by
        rw [undeclared_declare, hcons, List.eraseDups_cons, List.filter_cons_of_neg (by simp)]
      obtain ⟨hfaults, ⟨added, hrepaired, hadded⟩, haccepted⟩ := ih (nodup_declare hnodup hnew _)
      rw [herased]
      refine ⟨.cons ⟨title, rfl⟩ hfaults,
        ⟨{ fill dashboard name with name } :: added, ?_, ?_⟩, haccepted⟩
      · show (repair fill _).2 = _
        rw [hrepaired, declare, List.append_assoc]
        rfl
      · rw [List.map_cons, hadded]

/-- Undefined variables are repaired one by one. From a dashboard with distinct template names,
repairing ends with one that is accepted, after as many rounds as there are names that a query
references and no template declares. It reports no repeated template and none of those names twice,
and it reports them in the order in which they first appear in the document. -/
theorem repair_reports_undeclared (fill : Dashboard → String → Template)
    (hnodup : dashboard.templateNames.Nodup) :
    (dashboard.repair fill).2.validate = .ok () ∧
      (dashboard.repair fill).1.length =
        (dashboard.references.toFinset \ dashboard.templateNames.toFinset).card ∧
      ∃ reported,
        ListsFirst (fun name => name ∉ dashboard.templateNames) dashboard.references reported ∧
        List.Forall₂ IsUndefined (dashboard.repair fill).1 reported ∧
        ∃ added, added.map Template.name = reported ∧
          (dashboard.repair fill).2 =
            { dashboard with templating := dashboard.templating ++ added } := by
  obtain ⟨hfaults, ⟨added, hrepaired, hadded⟩, haccepted⟩ := repair_of_nodup fill hnodup
  have hlists : ListsFirst (fun name => name ∉ dashboard.templateNames) dashboard.references
      dashboard.undeclared.eraseDups :=
    eraseDups_lists_first (fun _ => decide_eq_true_iff) _
  have hnames : dashboard.undeclared.eraseDups.toFinset =
      dashboard.references.toFinset \ dashboard.templateNames.toFinset := by
    ext name
    rw [List.mem_toFinset, hlists.mem_iff, Finset.mem_sdiff, List.mem_toFinset, List.mem_toFinset]
  refine ⟨haccepted, ?_, _, hlists, hfaults, added, hadded, hrepaired⟩
  rw [hfaults.length_eq, ← hnames, List.toFinset_card_of_nodup hlists.nodup]

/-- One template and queries that reference three variables, one of them twice. -/
def halfDeclared : Dashboard where
  title := "Edge"
  uid := none
  templating := [⟨"a", "p", "up", none, ""⟩]
  rows := [⟨[⟨none, "P", "p", false, [⟨"$b - $a", ""⟩]⟩]⟩, ⟨[]⟩,
    ⟨[⟨none, "Q", "p", true, [⟨"[[c]] / $b", ""⟩]⟩]⟩]

/-- Both variables without a template take a round, in the order of their rows. -/
theorem repair_reports_undeclared_two :
    halfDeclared.templateNames.Nodup ∧
      (halfDeclared.repair fun _ _ => default).2.validate = .ok () ∧
      (halfDeclared.repair fun _ _ => default).1.length = 2 ∧
      ∃ reported,
        ListsFirst (fun name => name ∉ ["a"]) ["b", "a", "c", "b"] reported ∧
        List.Forall₂ IsUndefined (halfDeclared.repair fun _ _ => default).1 reported := by
  have hnodup : halfDeclared.templateNames.Nodup := by decide
  have hreferences : halfDeclared.references = ["b", "a", "c", "b"] := by decide +kernel
  obtain ⟨haccepted, hrounds, reported, hlists, hfaults, -⟩ :=
    repair_reports_undeclared (fun _ _ => default) hnodup
  rw [hreferences] at hrounds hlists
  exact ⟨hnodup, haccepted, hrounds, reported, hlists, hfaults⟩

end DashboardGenerator.Dashboard
