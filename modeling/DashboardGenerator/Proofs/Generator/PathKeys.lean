import DashboardGenerator.Proofs.Config.Host
import DashboardGenerator.Proofs.Config.Leaves
import DashboardGenerator.Proofs.Config.PathText
import DashboardGenerator.Proofs.Generator.DefinitionRoundTrip
import DashboardGenerator.Proofs.Generator.DefinitionSchema
import DashboardGenerator.Proofs.Toml.QuotedLines
import Mathlib.Data.List.Nodup
import Mathlib.Data.List.Perm.Basic

/-!
# Definitions from path keys

The leaves of a definition describe it in whatever order they are set, from the leaves of a query
upwards (`describes_set_all`). As quoted keys of a text the paths are distinct and are read back, so
the text gives the definition as well, on every host that has room for its lists: `parse_path_keys`.
-/

namespace DashboardGenerator

open Config
open Toml hiding Value

/-! ## Leaves in any order -/

/-- The leaves of a query give that query. -/
theorem TargetDefinition.gives_leaves (target : TargetDefinition) :
    GivesInAnyOrder DashboardDefinition.DescribesTarget target.leaves target := by
  refine ⟨List.cons_ne_nil _ _, fun order horder => ?_⟩
  have hsets : SetsTable .nil target.leaves order :=
    ⟨rfl, Leaves.start_with_of_lines _, List.cons_ne_nil _ _, horder⟩
  have hexpression : Leaves.below (.key "expr") target.leaves =
    [([], .string target.expression)] := rfl
  have hlegend : Leaves.below (.key "legend_format") target.leaves =
    [([], .string target.legendFormat)] := rfl
  exact {
    record := hsets.is_record
    expression := hsets.has_field (hexpression ▸ gives_single (.scalar ..))
    legendFormat := hsets.has_default (hlegend ▸ gives_single (.scalar ..)) }

/-- The leaves of a panel give that panel. -/
theorem PanelDefinition.gives_leaves (panel : PanelDefinition) :
    GivesInAnyOrder DashboardDefinition.DescribesPanel panel.leaves panel := by
  refine ⟨List.cons_ne_nil _ _, fun order horder => ?_⟩
  have hsets : SetsTable .nil panel.leaves order :=
    ⟨rfl, (Leaves.start_with_of_lines _).append (Leaves.start_with_behind ⟨_, rfl⟩ _),
      List.cons_ne_nil _ _, horder⟩
  -- A line has its own key alone, and the queries lie behind another one.
  have hline : ∀ key, key ≠ "targets" →
      Leaves.below (.key key) panel.leaves = Leaves.below (.key key) (.ofLines panel.lines) := by
    intro key hkey
    rw [PanelDefinition.leaves, Leaves.below_append, Leaves.below_behind_key (Ne.symm hkey),
      List.append_nil]
  have htitle : Leaves.below (.key "title") panel.leaves = [([], .string panel.title)] :=
    hline "title" (by decide)
  have hdata : Leaves.below (.key "data_source") panel.leaves = [([], .string panel.dataSource)] :=
    hline "data_source" (by decide)
  have htransparent : Leaves.below (.key "transparent") panel.leaves =
    [([], .boolean panel.transparent)] := hline "transparent" (by decide)
  have htargets : Leaves.below (.key "targets") panel.leaves =
      Leaves.ofItems TargetDefinition.leaves 0 panel.targets := by
    rw [PanelDefinition.leaves, Leaves.below_append, Leaves.below_behind]
    rfl
  exact {
    record := hsets.is_record
    title := hsets.has_field (htitle ▸ gives_single (.scalar ..))
    dataSource := hsets.has_field (hdata ▸ gives_single (.scalar ..))
    transparent := hsets.has_default (htransparent ▸ gives_single (.boolean ..))
    targets := hsets.has_items htargets fun target _ => target.gives_leaves }

/-- The leaves of a row give that row. -/
theorem RowDefinition.gives_leaves (row : RowDefinition) :
    GivesInAnyOrder DashboardDefinition.DescribesRow row.leaves row := by
  obtain ⟨panels⟩ := row
  have hstart : Leaves.StartWith Leaves.IsKey (RowDefinition.leaves ⟨panels⟩) :=
    Leaves.start_with_behind ⟨_, rfl⟩ _
  cases panels with
  | nil =>
      refine ⟨List.cons_ne_nil _ _, fun order horder => ?_⟩
      have hsets : SetsTable .nil (RowDefinition.leaves ⟨[]⟩) order :=
        ⟨rfl, hstart, List.cons_ne_nil _ _, horder⟩
      have hpanels : Leaves.below (.key "panels") (RowDefinition.leaves ⟨[]⟩) =
        [([], .array [])] := rfl
      exact {
        record := hsets.is_record
        panels := hsets.has_default (hpanels ▸ gives_single (.array .memory .nil)) }
  | cons panel panels =>
      have hpanels : Leaves.below (.key "panels") (RowDefinition.leaves ⟨panel :: panels⟩) =
          Leaves.ofItems PanelDefinition.leaves 0 (panel :: panels) :=
        Leaves.below_behind _ _
      refine ⟨List.cons_ne_nil _ _, fun order horder => ?_⟩
      have hsets : SetsTable .nil (RowDefinition.leaves ⟨panel :: panels⟩) order :=
        ⟨rfl, hstart, List.cons_ne_nil _ _, horder⟩
      exact {
        record := hsets.is_record
        panels := hsets.has_items hpanels fun panel _ => panel.gives_leaves }

/-- The leaves of a template variable give that template variable. -/
theorem TemplateDefinition.gives_leaves (template : TemplateDefinition) :
    GivesInAnyOrder DashboardDefinition.DescribesTemplate template.leaves template := by
  obtain ⟨name, dataSource, query, regex, default⟩ := template
  refine ⟨List.cons_ne_nil _ _, fun order horder => ?_⟩
  have hsets : SetsTable .nil (leaves ⟨name, dataSource, query, regex, default⟩) order :=
    ⟨rfl, Leaves.start_with_of_lines _, List.cons_ne_nil _ _, horder⟩
  -- The regular expression has a line only if there is one, and no other key depends on it.
  have htext : ∀ key text, (key, text) ∈ [("name", name), ("data_source", dataSource),
      ("query", query), ("default", default)] →
      Leaves.below (.key key) (leaves ⟨name, dataSource, query, regex, default⟩) =
        [([], .string text)] := by
    intro key text hmem
    simp only [List.mem_cons, Prod.mk.injEq, List.not_mem_nil, or_false] at hmem
    rcases hmem with ⟨rfl, rfl⟩ | ⟨rfl, rfl⟩ | ⟨rfl, rfl⟩ | ⟨rfl, rfl⟩ <;> (cases regex <;> rfl)
  have hregex : DashboardDefinition.templateShape.HasDefault (Value.nil.setAll order) "regex"
      (GivesOptional GivesText) none regex := by
    cases regex with
    | none => exact hsets.has_default_missing rfl
    | some regex =>
        have hbelow : Leaves.below (.key "regex")
          (leaves ⟨name, dataSource, query, some regex, default⟩) = [([], .string regex)] := rfl
        exact hsets.has_default (hbelow ▸ gives_single (.present nofun (.scalar ..)))
  exact {
    record := hsets.is_record
    name := hsets.has_field (htext "name" name (by simp) ▸ gives_single (.scalar ..))
    dataSource :=
      hsets.has_field (htext "data_source" dataSource (by simp) ▸ gives_single (.scalar ..))
    query := hsets.has_field (htext "query" query (by simp) ▸ gives_single (.scalar ..))
    regex := hregex
    default := hsets.has_default (htext "default" default (by simp) ▸ gives_single (.scalar ..)) }

namespace DashboardDefinition

/-- The leaves that assignments set. -/
def placed (assignments : List (Path × Literal)) : Leaves :=
  assignments.map fun assignment => (assignment.1.allSteps, assignment.2)

/-- The assignments of a definition set its title, its templates and its rows, each behind its
key. -/
theorem placed_assignments (definition : DashboardDefinition) :
    placed definition.assignments =
      Leaves.behind (.key "title") [([], .string definition.title)] ++
        (Leaves.behind (.key "templating")
            (.ofItems TemplateDefinition.leaves 0 definition.templating) ++
          Leaves.behind (.key "rows") (.ofItems RowDefinition.leaves 0 definition.rows)) := by
  have hrooted : ∀ root leaves, placed (Leaves.rooted root leaves) =
      Leaves.behind (.key root) leaves := by
    intro root leaves
    rw [placed, Leaves.rooted, List.map_map]
    rfl
  rw [← hrooted, ← hrooted, ← hrooted, assignments, List.append_assoc, placed, List.map_append,
    List.map_append]
  rfl

/-- The assignments of a definition, set in any order, make a table that describes it. -/
theorem describes_set_all (definition : DashboardDefinition) {order : List (Path × Literal)}
    (horder : order.Perm definition.assignments) :
    ∃ entries, (Value.table []).setAll (placed order) = .table entries ∧
      DescribesDefinition (.table entries) definition := by
  have hkeys : Leaves.StartWith Leaves.IsKey (placed definition.assignments) := by
    rw [placed_assignments]
    exact (Leaves.start_with_behind ⟨_, rfl⟩ _).append
      ((Leaves.start_with_behind ⟨_, rfl⟩ _).append (Leaves.start_with_behind ⟨_, rfl⟩ _))
  have hsets : SetsTable (.table []) (placed definition.assignments) (placed order) :=
    ⟨rfl, hkeys, List.cons_ne_nil _ _, horder.map _⟩
  have htitle : Leaves.below (.key "title") (placed definition.assignments) =
      [([], .string definition.title)] := by
    rw [placed_assignments, Leaves.below_append, Leaves.below_append, Leaves.below_behind,
      Leaves.below_behind_key (by decide), Leaves.below_behind_key (by decide)]
    rfl
  have htemplating : Leaves.below (.key "templating") (placed definition.assignments) =
      Leaves.ofItems TemplateDefinition.leaves 0 definition.templating := by
    rw [placed_assignments, Leaves.below_append, Leaves.below_append, Leaves.below_behind,
      Leaves.below_behind_key (by decide), Leaves.below_behind_key (by decide),
      List.nil_append, List.append_nil]
  have hrows : Leaves.below (.key "rows") (placed definition.assignments) =
      Leaves.ofItems RowDefinition.leaves 0 definition.rows := by
    rw [placed_assignments, Leaves.below_append, Leaves.below_append, Leaves.below_behind,
      Leaves.below_behind_key (by decide), Leaves.below_behind_key (by decide),
      List.nil_append, List.nil_append]
  obtain ⟨entries, hentries⟩ := Leaves.set_all_table (hkeys.perm hsets.perm) hsets.order_ne_nil
    (.table [])
  refine ⟨entries, hentries, ?_⟩
  rw [← hentries]
  exact {
    title := hsets.has_field (htitle ▸ gives_single (.scalar ..))
    templating := hsets.has_items htemplating fun template _ => template.gives_leaves
    rows := hsets.has_items hrows fun row _ => row.gives_leaves }

/-- So they are read as that definition. -/
theorem read_set_all (definition : DashboardDefinition) (visiting : Order)
    {order : List (Path × Literal)} (horder : order.Perm definition.assignments) :
    ofConfig visiting ((Value.table []).setAll (placed order)) = .ok definition := by
  obtain ⟨entries, hentries, hdescribes⟩ := definition.describes_set_all horder
  rw [hentries]
  exact read_entries_eq_ok_iff.mpr hdescribes

end DashboardDefinition

/-! ## Paths as keys -/

section

variable {IsAllowed : Step → Prop}

/-- The paths of leaves are distinct and made up of steps that are allowed, and their values fit. -/
structure LeavesFit (IsAllowed : Step → Prop) (leaves : Leaves) : Prop where
  allowed : ∀ leaf ∈ leaves, ∀ step ∈ leaf.1, IsAllowed step
  distinct : (leaves.map Prod.fst).Nodup
  values : ∀ leaf ∈ leaves, leaf.2.Fits nestingLimit

theorem leaves_fit_nil : LeavesFit IsAllowed [] :=
  ⟨nofun, .nil, nofun⟩

theorem leaves_fit_single {value : Literal} (hvalue : value.Fits nestingLimit) :
    LeavesFit IsAllowed [([], value)] := by
  refine ⟨?_, List.nodup_singleton _, List.forall_mem_singleton.mpr hvalue⟩
  exact List.forall_mem_singleton.mpr nofun

/-- Leaves behind a step fit together with others that lie behind other steps. -/
theorem LeavesFit.behind_append {leaves others : Leaves} {step : Step} (hstep : IsAllowed step)
    (hleaves : LeavesFit IsAllowed leaves) (hothers : LeavesFit IsAllowed others)
    (hbelow : Leaves.below step others = []) :
    LeavesFit IsAllowed (Leaves.behind step leaves ++ others) where
  allowed := by
    refine List.forall_mem_append.mpr ⟨fun leaf hmem => ?_, hothers.allowed⟩
    obtain ⟨inner, hinner, rfl⟩ := List.mem_map.mp hmem
    exact List.forall_mem_cons.mpr ⟨hstep, hleaves.allowed inner hinner⟩
  distinct := by
    have hpaths : (Leaves.behind step leaves).map Prod.fst =
        (leaves.map Prod.fst).map (step :: ·) := by
      rw [Leaves.behind, List.map_map, List.map_map]
      rfl
    rw [List.map_append, List.nodup_append, hpaths]
    refine ⟨List.Nodup.map (List.cons_injective) hleaves.distinct, hothers.distinct, ?_⟩
    rintro _ hmem _ hother rfl
    obtain ⟨rest, -, rfl⟩ := List.mem_map.mp hmem
    obtain ⟨leaf, hleaf, hsteps⟩ := List.mem_map.mp hother
    exact Leaves.ne_of_below_eq_nil hbelow leaf hleaf rest hsteps
  values := by
    refine List.forall_mem_append.mpr ⟨fun leaf hmem => ?_, hothers.values⟩
    obtain ⟨inner, hinner, rfl⟩ := List.mem_map.mp hmem
    exact hleaves.values inner hinner

theorem LeavesFit.perm {leaves order : Leaves} (hfits : LeavesFit IsAllowed leaves)
    (horder : order.Perm leaves) : LeavesFit IsAllowed order where
  allowed leaf hmem := hfits.allowed leaf (horder.mem_iff.mp hmem)
  distinct := (horder.map Prod.fst).nodup_iff.mpr hfits.distinct
  values leaf hmem := hfits.values leaf (horder.mem_iff.mp hmem)

theorem LeavesFit.behind {leaves : Leaves} {step : Step} (hstep : IsAllowed step)
    (hleaves : LeavesFit IsAllowed leaves) : LeavesFit IsAllowed (Leaves.behind step leaves) := by
  have hfits := hleaves.behind_append hstep leaves_fit_nil rfl
  rwa [List.append_nil] at hfits

/-- Words are allowed as keys. -/
def KeysAllowed (IsAllowed : Step → Prop) : Prop :=
  ∀ name, IsBareKey name → IsAllowed (.key name)

/-- The indexes of a list of some length are allowed. -/
def IndexesAllowed (IsAllowed : Step → Prop) (length : Nat) : Prop :=
  ∀ position < length, IsAllowed (.index ↑position)

variable (hallowed : KeysAllowed IsAllowed)

include hallowed

/-- Lines fit in front of leaves behind other keys. -/
theorem LeavesFit.lines_append {lines : List (String × Literal)} {others : Leaves}
    (hkeys : KeysFit (lines.map Prod.fst)) (hvalues : ∀ line ∈ lines, line.2.Fits nestingLimit)
    (hothers : LeavesFit IsAllowed others)
    (hbelow : ∀ key ∈ lines.map Prod.fst, Leaves.below (.key key) others = []) :
    LeavesFit IsAllowed (Leaves.ofLines lines ++ others) := by
  induction lines with
  | nil => exact hothers
  | cons line lines ih =>
      obtain ⟨hbare, hkeysBare⟩ := List.forall_mem_cons.mp hkeys.bare
      obtain ⟨hnew, hdistinct⟩ := List.nodup_cons.mp hkeys.distinct
      obtain ⟨hvalue, hvalues⟩ := List.forall_mem_cons.mp hvalues
      obtain ⟨hfirst, hbelow⟩ := List.forall_mem_cons.mp hbelow
      have hnone : Leaves.below (.key line.1) (Leaves.ofLines lines ++ others) = [] := by
        rw [Leaves.below_append, Leaves.below_of_lines_of_not_mem hnew, hfirst, List.append_nil]
      exact (leaves_fit_single hvalue).behind_append (hallowed line.1 hbare)
        (ih ⟨hkeysBare, hdistinct⟩ hvalues hbelow) hnone

theorem leaves_fit_of_lines {lines : List (String × Literal)} (hkeys : KeysFit (lines.map Prod.fst))
    (hvalues : ∀ line ∈ lines, line.2.Fits nestingLimit) :
    LeavesFit IsAllowed (Leaves.ofLines lines) := by
  have hfits := leaves_fit_nil.lines_append hallowed hkeys hvalues fun _ _ => rfl
  rwa [List.append_nil] at hfits

omit hallowed in
/-- Elements fit if each of them does and their indexes are allowed. -/
theorem leaves_fit_of_items {α : Type} {write : α → Leaves} {items : List α}
    (hitems : ∀ item ∈ items, LeavesFit IsAllowed (write item)) {start : Nat}
    (hindexes : IndexesAllowed IsAllowed (start + items.length)) :
    LeavesFit IsAllowed (Leaves.ofItems write start items) := by
  induction items generalizing start with
  | nil => exact leaves_fit_nil
  | cons item items ih =>
      obtain ⟨hitem, hitems⟩ := List.forall_mem_cons.mp hitems
      rw [List.length_cons] at hindexes
      have hfirst := hindexes start (by omega)
      have hrest : IndexesAllowed IsAllowed (start + 1 + items.length) :=
        fun position hposition => hindexes position (by omega)
      exact hitem.behind_append hfirst (ih hitems hrest)
        (Leaves.below_of_items_before write items (Nat.lt_succ_self start))

theorem TargetDefinition.leaves_fit (target : TargetDefinition) :
    LeavesFit IsAllowed target.leaves :=
  have hkeys : KeysFit ["expr", "legend_format"] := by decide
  leaves_fit_of_lines hallowed hkeys (target.lines_fit nestingLimit)

theorem PanelDefinition.leaves_fit (panel : PanelDefinition)
    (htargets : IndexesAllowed IsAllowed panel.targets.length) :
    LeavesFit IsAllowed panel.leaves := by
  have hkeys : KeysFit ["title", "data_source", "transparent"] := by decide
  have hstep := hallowed "targets" (by decide)
  have htargets : LeavesFit IsAllowed (Leaves.ofItems TargetDefinition.leaves 0 panel.targets) :=
    leaves_fit_of_items (fun target _ => target.leaves_fit hallowed) (by rwa [Nat.zero_add])
  refine (htargets.behind hstep).lines_append hallowed hkeys (panel.lines_fit nestingLimit) ?_
  have hnew : "targets" ∉ ["title", "data_source", "transparent"] := by decide
  intro key hkey
  refine Leaves.below_behind_key ?_ _
  rintro rfl
  exact hnew hkey

theorem RowDefinition.leaves_fit (row : RowDefinition)
    (hpanels : IndexesAllowed IsAllowed row.panels.length)
    (htargets : ∀ panel ∈ row.panels, IndexesAllowed IsAllowed panel.targets.length) :
    LeavesFit IsAllowed row.leaves := by
  refine LeavesFit.behind (hallowed "panels" (by decide)) ?_
  split
  · exact leaves_fit_single (.array 79 [] nofun)
  · exact leaves_fit_of_items (fun panel hmem => panel.leaves_fit hallowed (htargets panel hmem))
      (by rwa [Nat.zero_add])

theorem TemplateDefinition.leaves_fit (template : TemplateDefinition) :
    LeavesFit IsAllowed template.leaves :=
  leaves_fit_of_lines hallowed template.keys_fit (template.lines_fit nestingLimit)

/-- The assignments of a definition fit if the indexes of its lists are allowed. -/
theorem DashboardDefinition.assignments_fit {definition : DashboardDefinition}
    (htemplating : IndexesAllowed IsAllowed definition.templating.length)
    (hrows : IndexesAllowed IsAllowed definition.rows.length)
    (hpanels : ∀ row ∈ definition.rows, IndexesAllowed IsAllowed row.panels.length)
    (htargets : ∀ row ∈ definition.rows, ∀ panel ∈ row.panels,
      IndexesAllowed IsAllowed panel.targets.length) :
    LeavesFit IsAllowed (placed definition.assignments) := by
  have htemplates : LeavesFit IsAllowed
      (.ofItems TemplateDefinition.leaves 0 definition.templating) :=
    leaves_fit_of_items (fun template _ => template.leaves_fit hallowed) (by rwa [Nat.zero_add])
  have hrowLeaves : LeavesFit IsAllowed (.ofItems RowDefinition.leaves 0 definition.rows) :=
    leaves_fit_of_items
      (fun row hmem => row.leaves_fit hallowed (hpanels row hmem) (htargets row hmem))
      (by rwa [Nat.zero_add])
  rw [placed_assignments]
  refine (leaves_fit_single (.string ..)).behind_append (hallowed "title" (by decide))
    (htemplates.behind_append (hallowed "templating" (by decide))
      (hrowLeaves.behind (hallowed "rows" (by decide))) (Leaves.below_behind_key (by decide) _)) ?_
  rw [Leaves.below_append, Leaves.below_behind_key (by decide),
    Leaves.below_behind_key (by decide), List.append_nil]

end

namespace DashboardDefinition

/-- Indexes that fit are spelled. -/
theorem IndexesFit.leaves_fit {definition : DashboardDefinition} (hfit : definition.IndexesFit) :
    LeavesFit Step.IsSpelled (placed definition.assignments) := by
  have hspelled {length : Nat} (hlength : length ≤ indexLimit) :
      IndexesAllowed Step.IsSpelled length := fun position hposition =>
    ⟨Int.natCast_nonneg position, by exact_mod_cast Nat.lt_of_lt_of_le hposition hlength⟩
  exact assignments_fit (fun _ hname => hname) (hspelled hfit.templating) (hspelled hfit.rows)
    (fun row hrow => hspelled (hfit.panels row hrow))
    fun row hrow panel hpanel => hspelled (hfit.targets row hrow panel hpanel)

/-- A host that has room for the lists has room behind each of their indexes. -/
theorem HasRoom.leaves_fit {definition : DashboardDefinition} {host : Host}
    (hroom : definition.HasRoom host) :
    LeavesFit (Step.HasRoom host) (placed definition.assignments) := by
  have hindexes {length : Nat} (hlength : host.HoldsArrays length) :
      IndexesAllowed (Step.HasRoom host) length := fun position hposition =>
    ⟨Int.natCast_nonneg position, hlength (position + 1) hposition⟩
  exact assignments_fit (fun _ _ => trivial) (hindexes hroom.templating) (hindexes hroom.rows)
    (fun row hrow => hindexes (hroom.panels row hrow))
    fun row hrow panel hpanel => hindexes (hroom.targets row hrow panel hpanel)

end DashboardDefinition

/-! ## Texts of path keys -/

theorem entry_configs_path_lines (order : List (Path × Literal)) :
    Literal.entryConfigs .memory (pathLines order) =
      order.map fun assignment => (assignment.1.text, assignment.2.config .memory) := by
  induction order with
  | nil => rfl
  | cons assignment order ih => exact congrArg (_ :: ·) ih

namespace DashboardDefinition

variable {order : List (Path × Literal)}

/-- Path keys set the leaves that their paths lead to. -/
theorem apply_path_lines
    (hspelled : ∀ assignment ∈ order, ∀ step ∈ assignment.1.allSteps, step.IsSpelled)
    (tree : Value) :
    applySource tree (Literal.entryConfigs .memory (pathLines order)) =
      tree.setAll (placed order) := by
  induction order generalizing tree with
  | nil => rfl
  | cons assignment order ih =>
      obtain ⟨hpath, hothers⟩ := List.forall_mem_cons.mp hspelled
      refine Eq.trans ?_ (ih hothers _)
      show applySource (Value.assign (assignment.2.config .memory)
        (Path.ofKey assignment.1.text).allSteps tree) _ = _
      rw [path_of_text hpath]
      rfl

/-- The keys of paths that fit are distinct. -/
theorem path_lines_nodup (hfits : LeavesFit Step.IsSpelled (placed order)) :
    ((pathLines order).map Prod.fst).Nodup := by
  have hpaths : ((pathLines order).map Prod.fst).map (fun key => (Path.ofKey key).allSteps) =
      (placed order).map Prod.fst := by
    rw [pathLines, placed, List.map_map, List.map_map, List.map_map]
    refine List.map_congr_left fun assignment hmem => ?_
    show (Path.ofKey assignment.1.text).allSteps = _
    rw [path_of_text (hfits.allowed _ (List.mem_map_of_mem hmem))]
    rfl
  exact List.Nodup.of_map _ (hpaths ▸ hfits.distinct)

/-- A source with the same entries in another order comes from the same assignments in another
order. -/
theorem exists_order_of_perm {source : List (String × Value)}
    (hsource : source.Perm (Literal.entryConfigs .memory (pathLines order))) :
    ∃ other, other.Perm order ∧ source = Literal.entryConfigs .memory (pathLines other) := by
  have hself : List.Forall₂
      (fun entry assignment => entry = (assignment.1.text, assignment.2.config .memory))
      (order.map fun assignment => (assignment.1.text, assignment.2.config .memory)) order :=
    List.forall₂_map_left_iff.mpr (List.forall₂_same.mpr fun _ _ => rfl)
  rw [entry_configs_path_lines] at hsource
  obtain ⟨other, hentries, hother⟩ := List.perm_comp_forall₂ hsource hself
  refine ⟨other, hother, ?_⟩
  rw [entry_configs_path_lines]
  exact List.forall₂_eq_eq_eq ▸ List.forall₂_map_right_iff.mpr hentries

/-- A source with the entries of the path keys, in whatever order, is set without a crash on a host that
has room for the lists of the definition. -/
theorem set_path_lines {definition : DashboardDefinition} {host : Host}
    (hroom : definition.HasRoom host) (hfits : LeavesFit Step.IsSpelled (placed order))
    (horder : order.Perm definition.assignments) (origin : Origin) (tree : Value) :
    host.set origin tree (Literal.entryConfigs .memory (pathLines order)) =
      .ok (applySource tree (arrange (host.sourceRank origin)
        (Literal.entryConfigs .memory (pathLines order)))) := by
  refine Host.set_of_room (fun entry hmem => ?_) origin tree
  rw [entry_configs_path_lines] at hmem
  obtain ⟨assignment, hassignment, rfl⟩ := List.mem_map.mp hmem
  have hplaced := List.mem_map_of_mem (f := fun assignment : Path × Literal =>
    (assignment.1.allSteps, assignment.2)) hassignment
  rw [path_of_text (hfits.allowed _ hplaced)]
  have hsteps := (hroom.leaves_fit.perm (horder.map _)).allowed _ hplaced
  exact (List.forall_mem_cons.mp hsteps).2

/-- The assignments of a definition give that definition in every order: set one after the other,
and, where their indexes can be written, as the quoted path keys of a text, in whatever order the
entries of the text are taken. So a host that has room for the lists reads it from the text, and
the text of sections gives the same. -/
theorem parse_path_keys (definition : DashboardDefinition)
    (horder : order.Perm definition.assignments) :
    (∀ visiting, ofConfig visiting ((Value.table []).setAll (placed order)) = .ok definition) ∧
    (definition.IndexesFit →
      (∃ source, ofToml .memory (pathKeyText order) = .ok source ∧
        ∀ other, other.Perm source → ∀ visiting,
          ofConfig visiting (applySource (.table []) other) = .ok definition) ∧
      ∀ host, definition.HasRoom host →
        parse host (pathKeyText order) = .ok definition ∧
        parse host (pathKeyText order) = parse host (definition.write .sections)) := by
  refine ⟨fun visiting => definition.read_set_all visiting horder, fun hindexes => ?_⟩
  have hfits : ∀ order : List (Path × Literal), order.Perm definition.assignments →
      LeavesFit Step.IsSpelled (placed order) :=
    fun order horder => hindexes.leaves_fit.perm (horder.map _)
  have hsource : ofToml .memory (pathKeyText order) =
      .ok (Literal.entryConfigs .memory (pathLines order)) := by
    refine of_toml_quoted_text (path_lines_nodup (hfits order horder)) (fun line hmem => ?_) .memory
    obtain ⟨assignment, hassignment, rfl⟩ := List.mem_map.mp hmem
    exact (hfits order horder).values _ (List.mem_map_of_mem hassignment)
  have hread : ∀ other, other.Perm (Literal.entryConfigs .memory (pathLines order)) →
      ∀ visiting, ofConfig visiting (applySource (.table []) other) = .ok definition := by
    intro other hother visiting
    obtain ⟨otherOrder, hotherOrder, rfl⟩ := exists_order_of_perm hother
    rw [apply_path_lines fun assignment hmem =>
      (hfits otherOrder (hotherOrder.trans horder)).allowed _ (List.mem_map_of_mem hmem)]
    exact definition.read_set_all visiting (hotherOrder.trans horder)
  refine ⟨⟨_, hsource, hread⟩, fun host hroom => ?_⟩
  have hset := set_path_lines hroom (hfits order horder) horder .memory (.table [])
  have hparse : parse host (pathKeyText order) = .ok definition := by
    rw [parse, hsource, bind_eq_ok_iff]
    refine ⟨_, rfl, ?_⟩
    rw [hset, bind_eq_ok_iff]
    exact ⟨_, rfl, mapError_eq_ok_iff.mpr (hread _ (arrange_perm _ _) host.order)⟩
  exact ⟨hparse, hparse.trans (parse_write host definition .sections).symm⟩

example : pathKeyText (assignments ⟨"A", [], [⟨[]⟩, ⟨[⟨"b", "c", true, [⟨"d", ""⟩]⟩]⟩]⟩) =
    "\"title\" = \"A\"\n\"rows[0].panels\" = []\n\"rows[1].panels[0].title\" = \"b\"\n" ++
      "\"rows[1].panels[0].data_source\" = \"c\"\n" ++
      "\"rows[1].panels[0].transparent\" = true\n" ++
      "\"rows[1].panels[0].targets[0].expr\" = \"d\"\n" ++
      "\"rows[1].panels[0].targets[0].legend_format\" = \"\"\n" := by decide +kernel

/-- A template without a regular expression, a row without panels and a panel with two queries. -/
def nestedDefinition : DashboardDefinition :=
  ⟨"A", [⟨"b", "c", "d", none, ""⟩],
    [⟨[]⟩, ⟨[⟨"e", "c", true, [⟨"f", ""⟩, ⟨"g", "h"⟩]⟩, ⟨"i", "c", false, []⟩]⟩]⟩

/-- From the last leaf to the first one, every higher index is set before a lower one. -/
theorem parse_path_keys_reversed :
    nestedDefinition.assignments.reverse.Perm nestedDefinition.assignments ∧
    nestedDefinition.IndexesFit ∧
    nestedDefinition.assignments.reverse.head?.map (·.1.text) =
      some "rows[1].panels[1].transparent" ∧
    nestedDefinition.HasRoom .listed ∧
    ofConfig .listed ((Value.table []).setAll (placed nestedDefinition.assignments.reverse)) =
      .ok nestedDefinition ∧
    parse .listed (pathKeyText nestedDefinition.assignments.reverse) = .ok nestedDefinition ∧
    parse .listed (pathKeyText nestedDefinition.assignments.reverse) =
      parse .listed (nestedDefinition.write .sections) := by
  have horder := List.reverse_perm nestedDefinition.assignments
  have hindexes : nestedDefinition.IndexesFit :=
    ⟨by decide, by decide, by decide, by decide⟩
  have hfirst : nestedDefinition.assignments.reverse.head?.map (·.1.text) =
      some "rows[1].panels[1].transparent" := by decide +kernel
  obtain ⟨hset, hread⟩ := parse_path_keys nestedDefinition horder
  have hroom : nestedDefinition.HasRoom .listed :=
    ⟨by decide, by decide, by decide, by decide⟩
  obtain ⟨hparse, hsame⟩ := (hread hindexes).2 .listed hroom
  exact ⟨horder, hindexes, hfirst, hroom, hset .listed, hparse, hsame⟩

end DashboardDefinition

end DashboardGenerator
