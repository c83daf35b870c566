import DashboardGenerator.Proofs.Dashboard.Validation

/-!
# Which fault is reported

Faults are ordered by where they stand: names of templates by their index, and mentions of variables
by row, panel, query and place in the query (`Place.Precedes`). `validate_first_fault` says that
validation gives the first fault of that order, a repeated template name before any mention of an
undeclared variable. Two first faults stand at the same place, so it is enough to show that what
validation reports is a first one.
-/

namespace DashboardGenerator

/-! ## Repeated names -/

/-- The name at the index already stands at an earlier one. -/
def RepeatsAt (names : List String) (index : Nat) : Prop :=
  ∃ earlier < index, ∃ name, names[earlier]? = some name ∧ names[index]? = some name

/-- The name stands at the smallest index whose name already stands at an earlier one. -/
def IsFirstRepeat (names : List String) (name : String) : Prop :=
  ∃ index, names[index]? = some name ∧ RepeatsAt names index ∧
    ∀ before < index, ¬ RepeatsAt names before

/-- Names that are pairwise distinct do not repeat. -/
theorem not_repeats_at_of_nodup {names : List String} (hnodup : names.Nodup) (index : Nat) :
    ¬ RepeatsAt names index := by
  rintro ⟨earlier, hearlier, name, hname, hrepeat⟩
  obtain ⟨hindex, -⟩ := List.getElem?_eq_some_iff.mp hrepeat
  exact List.nodup_iff_getElem?_ne_getElem?.mp hnodup earlier index hearlier hindex
    (hname.trans hrepeat.symm)

/-- What is found to repeat stands behind names that are new and pairwise distinct, and is one of
them or of those that were seen. -/
theorem first_repeat_go_split {seen names : List String} {name : String}
    (hfound : firstRepeat?.go seen names = some name) :
    ∃ before after, names = before ++ name :: after ∧ before.Nodup ∧
      (∀ other ∈ before, other ∉ seen) ∧ (name ∈ seen ∨ name ∈ before) := by
  induction names generalizing seen with
  | nil => cases hfound
  | cons head names ih =>
      rw [firstRepeat?.go] at hfound
      by_cases hseen : head ∈ seen
      · rw [if_pos hseen] at hfound
        cases hfound
        exact ⟨[], names, rfl, List.nodup_nil, by simp, .inl hseen⟩
      · rw [if_neg hseen] at hfound
        obtain ⟨before, after, rfl, hnodup, hnew, hrepeat⟩ := ih hfound
        have hhead : head ∉ before := fun hmem => hnew head hmem List.mem_cons_self
        refine ⟨head :: before, after, rfl, List.nodup_cons.mpr ⟨hhead, hnodup⟩, ?_, ?_⟩
        · exact List.forall_mem_cons.mpr
            ⟨hseen, fun other hmem h => hnew other hmem (List.mem_cons_of_mem _ h)⟩
        · rcases hrepeat with hold | hmem
          · rcases List.mem_cons.mp hold with rfl | hold
            · exact .inr List.mem_cons_self
            · exact .inl hold
          · exact .inr (List.mem_cons_of_mem _ hmem)

/-- What is found to repeat is the first name that does. -/
theorem is_first_repeat_of_first_repeat {names : List String} {name : String}
    (hfound : firstRepeat? names = some name) : IsFirstRepeat names name := by
  obtain ⟨before, after, rfl, hnodup, -, hrepeat⟩ := first_repeat_go_split hfound
  have hmem : name ∈ before := hrepeat.resolve_left List.not_mem_nil
  obtain ⟨earlier, hearlier, hname⟩ := List.getElem_of_mem hmem
  refine ⟨before.length, by simp, ⟨earlier, hearlier, name, ?_, by simp⟩, ?_⟩
  · rw [List.getElem?_append_left hearlier, List.getElem?_eq_getElem hearlier, hname]
  · -- Up to there the names are those of a list without repetitions.
    rintro index hindex ⟨other, hother, found, hfirst, hsecond⟩
    rw [List.getElem?_append_left (Nat.lt_trans hother hindex)] at hfirst
    rw [List.getElem?_append_left hindex] at hsecond
    exact not_repeats_at_of_nodup hnodup index ⟨other, hother, found, hfirst, hsecond⟩

/-- Only one name is the first that repeats. -/
theorem IsFirstRepeat.unique {names : List String} {name other : String}
    (hname : IsFirstRepeat names name) (hother : IsFirstRepeat names other) : name = other := by
  obtain ⟨index, hindex, hrepeat, hfirst⟩ := hname
  obtain ⟨otherIndex, hotherIndex, hotherRepeat, hotherFirst⟩ := hother
  obtain hlt | rfl | hlt := Nat.lt_trichotomy index otherIndex
  · exact absurd hrepeat (hotherFirst index hlt)
  · exact Option.some.inj (hindex.symm.trans hotherIndex)
  · exact absurd hotherRepeat (hfirst otherIndex hlt)

/-- The name that is found to repeat is the first one that does. -/
theorem first_repeat_eq_some_iff {names : List String} {name : String} :
    firstRepeat? names = some name ↔ IsFirstRepeat names name := by
  refine ⟨is_first_repeat_of_first_repeat, fun hfirst => ?_⟩
  cases hfound : firstRepeat? names with
  | none =>
      obtain ⟨index, -, hrepeat, -⟩ := hfirst
      exact absurd hrepeat (not_repeats_at_of_nodup (first_repeat_eq_none_iff.mp hfound) index)
  | some found => rw [(is_first_repeat_of_first_repeat hfound).unique hfirst]

/-! ## Mentioned variables -/

/-- A place where a query may mention a variable: the indexes of the row, of the panel in it, of the
query in that, and of the name among those that the query references. -/
structure Place where
  row : Nat
  panel : Nat
  target : Nat
  name : Nat
deriving Repr, DecidableEq

/-- One place comes before another: in an earlier row, or in an earlier panel of the same row, and
so on. -/
def Place.Precedes (first second : Place) : Prop :=
  first.row < second.row ∨ first.row = second.row ∧
    (first.panel < second.panel ∨ first.panel = second.panel ∧
      (first.target < second.target ∨ first.target = second.target ∧ first.name < second.name))

/-- Of two places one comes before the other, or they are the same. -/
theorem Place.trichotomy (first second : Place) :
    first.Precedes second ∨ first = second ∨ second.Precedes first := by
  obtain ⟨row, panel, target, name⟩ := first
  obtain ⟨otherRow, otherPanel, otherTarget, otherName⟩ := second
  simp only [Precedes, mk.injEq]
  omega

/-- At a place, a panel mentions a name. -/
def Dashboard.Mentions (dashboard : Dashboard) (place : Place) (panel : Panel) (name : String) :
    Prop :=
  ∃ row target, dashboard.rows[place.row]? = some row ∧ row.panels[place.panel]? = some panel ∧
    panel.targets[place.target]? = some target ∧
    (Placeholder.referencedVariables target.expression)[place.name]? = some name

/-- The name is undeclared and mentioned by a panel with the title at a place before which only
declared names are mentioned. -/
def Dashboard.IsFirstUndeclared (dashboard : Dashboard) (title name : String) : Prop :=
  ∃ place panel, dashboard.Mentions place panel name ∧ panel.title = title ∧
    name ∉ dashboard.templateNames ∧
    ∀ earlier otherPanel other, earlier.Precedes place →
      dashboard.Mentions earlier otherPanel other → other ∈ dashboard.templateNames

/-- At one place only one panel mentions one name. -/
theorem Dashboard.Mentions.unique {dashboard : Dashboard} {place : Place} {panel otherPanel : Panel}
    {name other : String} (hname : dashboard.Mentions place panel name)
    (hother : dashboard.Mentions place otherPanel other) : panel = otherPanel ∧ name = other := by
  obtain ⟨row, target, hrow, hpanel, htarget, hname⟩ := hname
  obtain ⟨otherRow, otherTarget, hotherRow, hotherPanel, hotherTarget, hother⟩ := hother
  obtain rfl := Option.some.inj (hrow.symm.trans hotherRow)
  obtain rfl := Option.some.inj (hpanel.symm.trans hotherPanel)
  obtain rfl := Option.some.inj (htarget.symm.trans hotherTarget)
  exact ⟨rfl, Option.some.inj (hname.symm.trans hother)⟩

/-- Only one undeclared name is mentioned first, and by one panel. -/
theorem Dashboard.IsFirstUndeclared.unique {dashboard : Dashboard}
    {title otherTitle name other : String} (hname : dashboard.IsFirstUndeclared title name)
    (hother : dashboard.IsFirstUndeclared otherTitle other) :
    title = otherTitle ∧ name = other := by
  obtain ⟨place, panel, hmentions, rfl, hundeclared, hfirst⟩ := hname
  obtain ⟨otherPlace, otherPanel, hotherMentions, rfl, hotherUndeclared, hotherFirst⟩ := hother
  obtain hprecedes | rfl | hprecedes := place.trichotomy otherPlace
  · exact absurd (hotherFirst place panel name hprecedes hmentions) hundeclared
  · obtain ⟨rfl, rfl⟩ := hmentions.unique hotherMentions
    exact ⟨rfl, rfl⟩
  · exact absurd (hfirst otherPlace otherPanel other hprecedes hotherMentions) hotherUndeclared

/-! ## Searching level by level -/

section

variable {α β γ : Type}

/-- A search finds its result at the first index where there is one. -/
theorem find_some_index {f : α → Option β} {items : List α} {found : β}
    (hfound : items.findSome? f = some found) :
    ∃ (index : Nat) (item : α), items[index]? = some item ∧ f item = some found ∧
      ∀ before < index, ∀ other, items[before]? = some other → f other = none := by
  obtain ⟨before, item, after, rfl, hitem, hnone⟩ := List.findSome?_eq_some_iff.mp hfound
  refine ⟨before.length, item, by simp, hitem, fun index hindex other hother => hnone other ?_⟩
  rw [List.getElem?_append_left hindex] at hother
  exact List.mem_of_getElem? hother

/-- Searching the parts of items in a row is searching item by item. -/
theorem find_some_flat_map (f : β → Option γ) (parts : α → List β) (items : List α) :
    (items.flatMap parts).findSome? f = items.findSome? fun item => (parts item).findSome? f := by
  induction items with
  | nil => rfl
  | cons item items ih =>
      rw [List.flatMap_cons, List.findSome?_append, List.findSome?_cons, ih]
      cases (parts item).findSome? f <;> rfl

end

/-- A panel's undefined variable is the first undeclared name of the first query that references
one. -/
theorem Panel.undefined_variable_eq_some {panel : Panel} {declared : List String}
    {fault : DashboardError} (hfault : panel.undefinedVariable? declared = some fault) :
    ∃ (target : Target) (index : Nat) (name : String) (position : Nat),
      panel.targets[index]? = some target ∧
      (Placeholder.referencedVariables target.expression)[position]? = some name ∧
      fault = .undefinedVariable panel.title name ∧ name ∉ declared ∧
      (∀ before < index, ∀ other, panel.targets[before]? = some other →
        ∀ mentioned ∈ Placeholder.referencedVariables other.expression, mentioned ∈ declared) ∧
      ∀ before < position, ∀ mentioned,
        (Placeholder.referencedVariables target.expression)[before]? = some mentioned →
          mentioned ∈ declared := by
  rw [undefinedVariable?, Panel.variables, List.find?_flatMap, Option.map_eq_some_iff] at hfault
  obtain ⟨name, hsearch, rfl⟩ := hfault
  obtain ⟨index, target, htarget, hname, hbefore⟩ := find_some_index hsearch
  obtain ⟨hundeclared, position, hposition, hat, hearlier⟩ :=
    List.find?_eq_some_iff_getElem.mp hname
  refine ⟨target, index, name, position, htarget, ?_, rfl, of_decide_eq_true hundeclared, ?_, ?_⟩
  · rw [List.getElem?_eq_getElem hposition, hat]
  · intro before hlt other hother mentioned hmem
    simpa using List.find?_eq_none.mp (hbefore before hlt other hother) mentioned hmem
  · intro before hlt mentioned hmentioned
    obtain ⟨_, rfl⟩ := List.getElem?_eq_some_iff.mp hmentioned
    simpa using hearlier before hlt

namespace Dashboard

/-- What the search through the panels finds is the first undeclared name. -/
theorem is_first_undeclared_of_find {dashboard : Dashboard} {fault : DashboardError}
    (hfault : dashboard.panels.findSome?
      (fun panel => panel.undefinedVariable? dashboard.templateNames) = some fault) :
    ∃ title name, fault = .undefinedVariable title name ∧
      dashboard.IsFirstUndeclared title name := by
  rw [panels, find_some_flat_map] at hfault
  obtain ⟨rowIndex, row, hrow, hrowFault, hrowsBefore⟩ := find_some_index hfault
  obtain ⟨panelIndex, panel, hpanel, hpanelFault, hpanelsBefore⟩ := find_some_index hrowFault
  obtain ⟨target, targetIndex, name, position, htarget, hname, rfl, hundeclared, htargetsBefore,
    hnamesBefore⟩ := Panel.undefined_variable_eq_some hpanelFault
  refine ⟨panel.title, name, rfl, ⟨rowIndex, panelIndex, targetIndex, position⟩, panel,
    ⟨row, target, hrow, hpanel, htarget, hname⟩, rfl, hundeclared, ?_⟩
  -- An earlier mention lies in an earlier row, panel, query or name, and each level was searched.
  rintro ⟨earlierRow, earlierPanel, earlierTarget, earlierName⟩ otherPanel other hprecedes
    ⟨otherRow, otherTarget, hotherRow, hotherPanel, hotherTarget, hother⟩
  have hpanelDeclared : otherPanel.undefinedVariable? dashboard.templateNames = none →
      other ∈ dashboard.templateNames := fun hnone =>
    Panel.undefined_variable_eq_none_iff.mp hnone otherTarget (List.mem_of_getElem? hotherTarget)
      other (List.mem_of_getElem? hother)
  rcases hprecedes with hlt | ⟨hsame, hprecedes⟩
  · exact hpanelDeclared (List.findSome?_eq_none_iff.mp (hrowsBefore _ hlt _ hotherRow) otherPanel
      (List.mem_of_getElem? hotherPanel))
  obtain rfl : earlierRow = rowIndex := hsame
  obtain rfl : row = otherRow := Option.some.inj (hrow.symm.trans hotherRow)
  rcases hprecedes with hlt | ⟨hsame, hprecedes⟩
  · exact hpanelDeclared (hpanelsBefore _ hlt _ hotherPanel)
  obtain rfl : earlierPanel = panelIndex := hsame
  obtain rfl : panel = otherPanel := Option.some.inj (hpanel.symm.trans hotherPanel)
  rcases hprecedes with hlt | ⟨hsame, hlt⟩
  · exact htargetsBefore _ hlt _ hotherTarget other (List.mem_of_getElem? hother)
  obtain rfl : earlierTarget = targetIndex := hsame
  obtain rfl : target = otherTarget := Option.some.inj (htarget.symm.trans hotherTarget)
  exact hnamesBefore _ hlt other hother

/-- A dashboard is rejected for its first repeated template name. -/
theorem validate_eq_duplicate_iff {dashboard : Dashboard} {name : String} :
    dashboard.validate = .error (.duplicateTemplate name) ↔
      IsFirstRepeat dashboard.templateNames name := by
  rw [← first_repeat_eq_some_iff, validate, fault?]
  cases firstRepeat? dashboard.templateNames with
  | some found => simp
  | none =>
      -- What is found in the panels is an undefined variable and no repeated name.
      cases hsearch : dashboard.panels.findSome?
          fun panel => panel.undefinedVariable? dashboard.templateNames with
      | none => simp
      | some fault =>
          obtain ⟨title, other, rfl, -⟩ := is_first_undeclared_of_find hsearch
          simp

/-- Every variable that a query of the dashboard references names a template. -/
def DeclaresAll (dashboard : Dashboard) : Prop :=
  ∀ row ∈ dashboard.rows, ∀ panel ∈ row.panels, ∀ target ∈ panel.targets,
    ∀ name ∈ Placeholder.referencedVariables target.expression, name ∈ dashboard.templateNames

/-- A dashboard is accepted exactly if its template names are pairwise distinct and declare all
that its rows mention. -/
theorem validate_eq_ok_iff_declares_all {dashboard : Dashboard} :
    dashboard.validate = .ok () ↔ dashboard.templateNames.Nodup ∧ dashboard.DeclaresAll := by
  rw [validate_eq_ok_iff]
  refine and_congr_right fun _ => ⟨fun h row hrow panel hpanel => ?_, fun h panel hpanel => ?_⟩
  · exact h panel (List.mem_flatMap.mpr ⟨row, hrow, hpanel⟩)
  · obtain ⟨row, hrow, hmem⟩ := List.mem_flatMap.mp hpanel
    exact h row hrow panel hmem

/-- A dashboard with pairwise distinct template names that is not accepted is rejected for the first
undeclared name that it mentions. -/
theorem validate_first_undeclared {dashboard : Dashboard} (hnodup : dashboard.templateNames.Nodup)
    (hrejected : dashboard.validate ≠ .ok ()) :
    ∃ title name, dashboard.validate = .error (.undefinedVariable title name) ∧
      dashboard.IsFirstUndeclared title name := by
  rw [validate, fault?, first_repeat_eq_none_iff.mpr hnodup] at hrejected ⊢
  cases hsearch : dashboard.panels.findSome?
      fun panel => panel.undefinedVariable? dashboard.templateNames with
  | none => simp [hsearch] at hrejected
  | some fault =>
      obtain ⟨title, name, rfl, hfirst⟩ := is_first_undeclared_of_find hsearch
      exact ⟨title, name, rfl, hfirst⟩

/-- A dashboard that mentions an undeclared name does not declare all that it mentions. -/
theorem IsFirstUndeclared.not_declares_all {dashboard : Dashboard} {title name : String}
    (hfirst : dashboard.IsFirstUndeclared title name) : ¬ dashboard.DeclaresAll := by
  obtain ⟨place, panel, ⟨row, target, hrow, hpanel, htarget, hname⟩, -, hundeclared, -⟩ := hfirst
  exact fun hdeclares => hundeclared <|
    hdeclares row (List.mem_of_getElem? hrow) panel (List.mem_of_getElem? hpanel) target
      (List.mem_of_getElem? htarget) name (List.mem_of_getElem? hname)

/-- A dashboard is rejected for a name that repeats exactly if one does. -/
theorem exists_validate_eq_duplicate_iff {dashboard : Dashboard} :
    (∃ name, dashboard.validate = .error (.duplicateTemplate name)) ↔
      ¬ dashboard.templateNames.Nodup := by
  simp only [validate_eq_duplicate_iff, ← first_repeat_eq_some_iff, ← first_repeat_eq_none_iff,
    ← Option.ne_none_iff_exists', ne_eq]

/-- A dashboard is rejected for an undeclared name exactly if no template name repeats and that name
is the first undeclared one. -/
theorem validate_eq_undefined_iff {dashboard : Dashboard} {title name : String} :
    dashboard.validate = .error (.undefinedVariable title name) ↔
      dashboard.templateNames.Nodup ∧ dashboard.IsFirstUndeclared title name := by
  constructor
  · intro hvalidate
    have hnodup : dashboard.templateNames.Nodup := by
      by_contra hrepeat
      obtain ⟨other, hother⟩ := exists_validate_eq_duplicate_iff.mpr hrepeat
      cases hvalidate.symm.trans hother
    obtain ⟨foundTitle, found, hfound, hfirst⟩ :=
      validate_first_undeclared hnodup (by rw [hvalidate]; nofun)
    cases hvalidate.symm.trans hfound
    exact ⟨hnodup, hfirst⟩
  · rintro ⟨hnodup, hfirst⟩
    have hrejected : dashboard.validate ≠ .ok () := fun haccepted =>
      hfirst.not_declares_all (validate_eq_ok_iff_declares_all.mp haccepted).2
    -- What validation reports is a first fault too, and there is only one.
    obtain ⟨foundTitle, found, hfound, hfoundFirst⟩ := validate_first_undeclared hnodup hrejected
    obtain ⟨rfl, rfl⟩ := hfoundFirst.unique hfirst
    exact hfound

/-- Validation is exact, in what it accepts and in the fault it reports. It accepts a dashboard if
its template names are pairwise distinct and declare every referenced variable. If a name repeats it
reports the one at the smallest index whose name stands earlier, whatever is undeclared. Otherwise it
reports the undeclared name that is mentioned first in the order of rows, panels, queries and names,
with the title of its panel. -/
theorem validate_first_fault (dashboard : Dashboard) :
    (dashboard.validate = .ok () ↔ dashboard.templateNames.Nodup ∧ dashboard.DeclaresAll) ∧
      ((∃ name, dashboard.validate = .error (.duplicateTemplate name)) ↔
        ¬ dashboard.templateNames.Nodup) ∧
      (∀ name, dashboard.validate = .error (.duplicateTemplate name) ↔
        IsFirstRepeat dashboard.templateNames name) ∧
      ((∃ title name, dashboard.validate = .error (.undefinedVariable title name)) ↔
        dashboard.templateNames.Nodup ∧ ¬ dashboard.DeclaresAll) ∧
      ∀ title name, dashboard.validate = .error (.undefinedVariable title name) ↔
        dashboard.templateNames.Nodup ∧ dashboard.IsFirstUndeclared title name := by
  refine ⟨validate_eq_ok_iff_declares_all, exists_validate_eq_duplicate_iff,
    fun _ => validate_eq_duplicate_iff, ?_, fun _ _ => validate_eq_undefined_iff⟩
  constructor
  · rintro ⟨title, name, hvalidate⟩
    obtain ⟨hnodup, hfirst⟩ := validate_eq_undefined_iff.mp hvalidate
    exact ⟨hnodup, hfirst.not_declares_all⟩
  · rintro ⟨hnodup, hmissing⟩
    obtain ⟨title, name, hvalidate, -⟩ := validate_first_undeclared hnodup fun haccepted =>
      hmissing (validate_eq_ok_iff_declares_all.mp haccepted).2
    exact ⟨title, name, hvalidate⟩

end Dashboard

end DashboardGenerator
