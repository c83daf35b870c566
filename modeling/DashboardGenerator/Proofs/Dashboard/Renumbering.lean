import DashboardGenerator.Dashboard.Edit
import DashboardGenerator.Proofs.Dashboard.Numbering
import Mathlib.Data.List.InsertIdx

/-!
# Numbering again

Numbering reads no number and writes nothing else: dashboards that are the same without their numbers
are numbered alike (`assign_panel_ids_congr`), also after the same edits (`edits_congr`). A counter of
thirty-two bits gives the same numbers as long as it does not overflow, and it is counted up once more
behind the last panel (`count_panel_ids_eq`). `numbered_in_order` puts all of this together.
-/

namespace DashboardGenerator

/-! ## Without numbers -/

/-- The panel without its number. -/
def Panel.withoutId (panel : Panel) : Panel := { panel with id := none }

/-- The row without the numbers of its panels. -/
def Row.withoutIds (row : Row) : Row := ⟨row.panels.map Panel.withoutId⟩

/-- The dashboard without the numbers of its panels. -/
def Dashboard.withoutIds (dashboard : Dashboard) : Dashboard :=
  { dashboard with rows := dashboard.rows.map Row.withoutIds }

@[simp] theorem Panel.without_id_without_id (panel : Panel) :
    panel.withoutId.withoutId = panel.withoutId := rfl

@[simp] theorem Row.without_ids_without_ids (row : Row) :
    row.withoutIds.withoutIds = row.withoutIds := by
  simp [withoutIds]

@[simp] theorem Dashboard.without_ids_without_ids (dashboard : Dashboard) :
    dashboard.withoutIds.withoutIds = dashboard.withoutIds := by
  simp [withoutIds]

/-- Numbering a row changes the numbers alone. -/
theorem Row.without_ids_number (row : Row) (next : Nat) :
    (row.number next).withoutIds = row.withoutIds := by
  refine congrArg Row.mk (List.ext_getElem ?_ fun position _ _ => ?_)
  · simp [number]
  · simp [number, Panel.withoutId]

/-- Numbering a row reads no number. -/
theorem Row.number_without_ids (row : Row) (next : Nat) :
    row.withoutIds.number next = row.number next := by
  refine congrArg Row.mk (List.ext_getElem ?_ fun position _ _ => ?_)
  · simp [withoutIds]
  · simp [withoutIds, Panel.withoutId]

/-- Numbering rows changes the numbers alone. -/
theorem Row.without_ids_number_all (rows : List Row) (next : Nat) :
    (numberAll next rows).map withoutIds = rows.map withoutIds := by
  induction rows generalizing next with
  | nil => rfl
  | cons row rows ih => rw [numberAll, List.map_cons, without_ids_number, ih, List.map_cons]

/-- Numbering rows reads no number. -/
theorem Row.number_all_without_ids (rows : List Row) (next : Nat) :
    numberAll next (rows.map withoutIds) = numberAll next rows := by
  induction rows generalizing next with
  | nil => rfl
  | cons row rows ih =>
      have hlength : row.withoutIds.panels.length = row.panels.length := List.length_map _
      rw [List.map_cons, numberAll, number_without_ids, hlength, ih, numberAll]

namespace Dashboard

/-- Numbering changes the numbers alone. -/
@[simp] theorem without_ids_assign_panel_ids (dashboard : Dashboard) :
    dashboard.assignPanelIds.withoutIds = dashboard.withoutIds := by
  rw [withoutIds, assignPanelIds, Row.without_ids_number_all]
  rfl

/-- Numbering reads no number. -/
@[simp] theorem assign_panel_ids_without_ids (dashboard : Dashboard) :
    dashboard.withoutIds.assignPanelIds = dashboard.assignPanelIds := by
  rw [assignPanelIds, withoutIds, Row.number_all_without_ids]
  rfl

/-- Dashboards that are the same without their numbers are numbered alike. -/
theorem assign_panel_ids_congr {dashboard other : Dashboard}
    (hsame : other.withoutIds = dashboard.withoutIds) :
    other.assignPanelIds = dashboard.assignPanelIds := by
  rw [← assign_panel_ids_without_ids other, hsame, assign_panel_ids_without_ids]

end Dashboard

/-! ## Edits -/

section

variable {α : Type} {forget : α → α}

/-- What a change makes of a list does not depend on what is forgotten, but for just that. -/
def GoesAlong (forget : α → α) (change : List α → Option (List α)) : Prop :=
  ∀ items, (change (items.map forget)).map (List.map forget) =
    (change items).map (List.map forget)

/-- A change that takes forgotten elements along as they are goes along with forgetting. -/
theorem GoesAlong.of_map (hforget : ∀ item, forget (forget item) = forget item)
    {change : List α → Option (List α)}
    (hchange : ∀ items, change (items.map forget) = (change items).map (List.map forget)) :
    GoesAlong forget change := by
  intro items
  have htwice : List.map forget ∘ List.map forget = List.map forget := by
    rw [List.map_comp_map, show forget ∘ forget = forget from funext hforget]
  rw [hchange, Option.map_map, htwice]

/-- Changing the element at an index goes along with forgetting if the change of the element does. -/
theorem GoesAlong.modify_at (hforget : ∀ item, forget (forget item) = forget item)
    {change : α → Option α}
    (hchange : ∀ item, (change (forget item)).map forget = (change item).map forget)
    (index : Nat) : GoesAlong forget (modifyAt? change · index) := by
  intro items
  show (modifyAt? change (items.map forget) index).map _ = (modifyAt? change items index).map _
  rw [modifyAt?, modifyAt?, List.getElem?_map]
  cases items[index]? with
  | none => rfl
  | some item =>
      have hitem := hchange item
      show ((change (forget item)).bind _).map _ = ((change item).bind _).map _
      -- Both changes fail, or what they give is the same once it is forgotten.
      cases hplain : change item with
      | none =>
          rw [hplain, Option.map_none, Option.map_eq_none_iff] at hitem
          rw [hitem]
          rfl
      | some changed =>
          rw [hplain, Option.map_some, Option.map_eq_some_iff] at hitem
          obtain ⟨other, hother, heq⟩ := hitem
          rw [hother]
          show some _ = some _
          rw [List.map_set, List.map_map, List.map_set, heq,
            show forget ∘ forget = forget from funext hforget]

/-- Removing the element at an index goes along with forgetting. -/
theorem GoesAlong.remove_at (hforget : ∀ item, forget (forget item) = forget item) (index : Nat) :
    GoesAlong forget (removeAt? · index) := by
  refine of_map hforget fun items => ?_
  rw [removeAt?, removeAt?, List.length_map]
  split
  · rw [Option.map_some, List.eraseIdx_map]
  · rfl

/-- Exchanging two elements goes along with forgetting. -/
theorem GoesAlong.swap_at (hforget : ∀ item, forget (forget item) = forget item)
    (index other : Nat) : GoesAlong forget (swapAt? · index other) := by
  refine of_map hforget fun items => ?_
  rw [swapAt?, swapAt?, List.getElem?_map, List.getElem?_map]
  cases items[index]? with
  | none => rfl
  | some first =>
      cases items[other]? with
      | none => rfl
      | some second =>
          show some _ = some _
          rw [List.map_set, List.map_set]

/-- Adding an element at the end goes along with forgetting. -/
theorem GoesAlong.push (hforget : ∀ item, forget (forget item) = forget item) (item : α) :
    GoesAlong forget fun items => some (items ++ [item]) := by
  intro items
  simp [Function.comp_def, hforget]

end

namespace Dashboard

/-- A change of the rows that goes along with forgetting the numbers does so in the dashboard. -/
theorem rows_without_ids {change : List Row → Option (List Row)}
    (hchange : GoesAlong Row.withoutIds change) (dashboard : Dashboard) :
    ((change dashboard.withoutIds.rows).bind fun rows =>
        some { dashboard.withoutIds with rows }).map withoutIds =
      ((change dashboard.rows).bind fun rows => some { dashboard with rows }).map withoutIds := by
  have hrows := congrArg (Option.map fun rows => { dashboard with rows }) (hchange dashboard.rows)
  rw [Option.map_map, Option.map_map] at hrows
  rw [Option.map_eq_bind, Option.map_eq_bind] at hrows
  rw [Option.map_bind, Option.map_bind]
  exact hrows

/-- A change of one row that goes along with forgetting the numbers does so in the dashboard. -/
theorem modify_row_without_ids {change : List Panel → Option (List Panel)}
    (hchange : GoesAlong Panel.withoutId change) (dashboard : Dashboard) (row : Nat) :
    (dashboard.withoutIds.modifyRow? row change).map withoutIds =
      (dashboard.modifyRow? row change).map withoutIds := by
  refine dashboard.rows_without_ids (.modify_at Row.without_ids_without_ids (fun found => ?_) row)
  have hpanels := congrArg (Option.map Row.mk) (hchange found.panels)
  rw [Option.map_map, Option.map_map] at hpanels ⊢
  exact hpanels

/-- A change of one panel that goes along with forgetting its number does so in the dashboard. -/
theorem modify_panel_without_ids {change : Panel → Panel}
    (hchange : ∀ panel : Panel, (change panel.withoutId).withoutId = (change panel).withoutId)
    (dashboard : Dashboard) (row panel : Nat) :
    (dashboard.withoutIds.modifyPanel? row panel change).map withoutIds =
      (dashboard.modifyPanel? row panel change).map withoutIds := by
  refine dashboard.modify_row_without_ids ?_ row
  refine .modify_at Panel.without_id_without_id (fun found => ?_) panel
  exact congrArg some (hchange found)

/-- A change of the templates reads no number. -/
theorem templating_without_ids (dashboard : Dashboard) (templating : Option (List Template)) :
    (templating.bind fun templating => some { dashboard.withoutIds with templating }).map
        withoutIds =
      (templating.bind fun templating => some { dashboard with templating }).map withoutIds := by
  cases templating with
  | none => rfl
  | some templating =>
      exact congrArg some ({ dashboard with templating } : Dashboard).without_ids_without_ids

/-- What an edit makes of a dashboard does not depend on its numbers, but for the numbers. -/
theorem edit_without_ids (dashboard : Dashboard) (edit : Edit) :
    (dashboard.withoutIds.edit? edit).map withoutIds = (dashboard.edit? edit).map withoutIds := by
  have hpanel := Panel.without_id_without_id
  have hrow := Row.without_ids_without_ids
  cases edit with
  | replace other => rfl
  | assignIds => exact congrArg some (by simp)
  | setUid uid => exact congrArg some (dashboard.withUid uid).without_ids_without_ids
  | setId row panel id => exact dashboard.modify_panel_without_ids (fun _ => rfl) row panel
  | setRegex template regex => exact dashboard.templating_without_ids _
  | pushRow row => exact dashboard.rows_without_ids (.push hrow row)
  | pushTemplate template =>
      exact dashboard.templating_without_ids (some (dashboard.templating ++ [template]))
  | pushPanel row panel => exact dashboard.modify_row_without_ids (.push hpanel panel) row
  | pushTarget row panel target =>
      exact dashboard.modify_panel_without_ids (fun _ => rfl) row panel
  | removeRow row => exact dashboard.rows_without_ids (.remove_at hrow row)
  | removePanel row panel =>
      exact dashboard.modify_row_without_ids (.remove_at hpanel panel) row
  | removeTemplate template => exact dashboard.templating_without_ids _
  | swapRows row other => exact dashboard.rows_without_ids (.swap_at hrow row other)
  | swapPanels row panel other =>
      exact dashboard.modify_row_without_ids (.swap_at hpanel panel other) row

/-- Carry out changes one after the other. -/
def edits? (dashboard : Dashboard) (edits : List Edit) : Option Dashboard :=
  edits.foldlM edit? dashboard

/-- Dashboards that are the same without their numbers are so after the same edits. -/
theorem edits_congr {dashboard other : Dashboard} (hsame : other.withoutIds = dashboard.withoutIds)
    (edits : List Edit) :
    (other.edits? edits).map withoutIds = (dashboard.edits? edits).map withoutIds := by
  induction edits generalizing dashboard other with
  | nil => exact congrArg some hsame
  | cons edit edits ih =>
      have hedit : (other.edit? edit).map withoutIds = (dashboard.edit? edit).map withoutIds := by
        rw [← edit_without_ids other, hsame, edit_without_ids]
      show ((other.edit? edit).bind (·.edits? edits)).map withoutIds =
        ((dashboard.edit? edit).bind (·.edits? edits)).map withoutIds
      cases hdashboard : dashboard.edit? edit with
      | none =>
          rw [hdashboard, Option.map_none, Option.map_eq_none_iff] at hedit
          rw [hedit]
      | some changed =>
          rw [hdashboard, Option.map_some, Option.map_eq_some_iff] at hedit
          obtain ⟨otherChanged, hother, hsame⟩ := hedit
          rw [hother]
          exact ih hsame

end Dashboard

/-! ## Counting in thirty-two bits -/

/-- The number after this one, if thirty-two bits hold it. -/
def nextPanelId? (id : UInt32) : Option UInt32 :=
  if id.toNat + 1 < UInt32.size then some (id + 1) else none

/-- Number panels one after the other. Each gets the number of the counter, which then goes up by one;
the counter comes back with the panels. -/
def countPanels? : UInt32 → List Panel → Option (List Panel × UInt32)
  | next, [] => some ([], next)
  | next, panel :: panels => do
    let after ← nextPanelId? next
    let (others, last) ← countPanels? after panels
    return ({ panel with id := some next } :: others, last)

/-- Number the panels of rows, the counter going on from row to row. -/
def countRows? : UInt32 → List Row → Option (List Row × UInt32)
  | next, [] => some ([], next)
  | next, row :: rows => do
    let (panels, after) ← countPanels? next row.panels
    let (others, last) ← countRows? after rows
    return (⟨panels⟩ :: others, last)

/-- Number every panel of the dashboard with a counter that must not overflow. -/
def Dashboard.countPanelIds? (dashboard : Dashboard) : Option (Dashboard × UInt32) := do
  let (rows, last) ← countRows? (UInt32.ofNat firstPanelId) dashboard.rows
  return ({ dashboard with rows }, last)

/-- The counter goes on exactly as far as thirty-two bits hold it. -/
theorem next_panel_id_eq (id : UInt32) :
    nextPanelId? id =
      if id.toNat + 1 < UInt32.size then some (UInt32.ofNat (id.toNat + 1)) else none := by
  rw [nextPanelId?]
  split
  · rw [UInt32.ofNat_add, UInt32.ofNat_toNat]
    rfl
  · rfl

/-- Counting numbers the panels of a row from the counter on, if it can count up behind all of them. -/
theorem count_panels_eq (panels : List Panel) (next : UInt32) :
    countPanels? next panels =
      if next.toNat + panels.length < UInt32.size then
        some ((Row.number ⟨panels⟩ next.toNat).panels, UInt32.ofNat (next.toNat + panels.length))
      else none := by
  induction panels generalizing next with
  | nil =>
      have hnext : next.toNat + 0 < UInt32.size := next.toNat_lt_size
      rw [countPanels?, List.length_nil, if_pos hnext, Nat.add_zero, UInt32.ofNat_toNat]
      rfl
  | cons panel panels ih =>
      rw [countPanels?, next_panel_id_eq, List.length_cons]
      by_cases hafter : next.toNat + 1 < UInt32.size
      · have hcount : (UInt32.ofNat (next.toNat + 1)).toNat = next.toNat + 1 :=
          UInt32.toNat_ofNat_of_lt' hafter
        have hlength : next.toNat + 1 + panels.length = next.toNat + (panels.length + 1) := by
          omega
        have hnumber : (Row.number ⟨panel :: panels⟩ next.toNat).panels =
            { panel with id := some next } :: (Row.number ⟨panels⟩ (next.toNat + 1)).panels := by
          simp [Row.number, List.mapIdx_cons, Nat.add_assoc, Nat.add_comm 1]
        rw [if_pos hafter]
        show (countPanels? (UInt32.ofNat (next.toNat + 1)) panels).bind _ = _
        rw [ih, hcount, hlength, hnumber]
        split <;> rfl
      · rw [if_neg hafter, if_neg (by omega)]
        rfl

/-- Counting numbers the panels of rows from the counter on, if it can count up behind all of them. -/
theorem count_rows_eq (rows : List Row) (next : UInt32) :
    countRows? next rows =
      if next.toNat + (Row.panelsOf rows).length < UInt32.size then
        some (Row.numberAll next.toNat rows,
          UInt32.ofNat (next.toNat + (Row.panelsOf rows).length))
      else none := by
  induction rows generalizing next with
  | nil =>
      have hnext : next.toNat + 0 < UInt32.size := next.toNat_lt_size
      show some ([], next) = if next.toNat + 0 < UInt32.size then _ else _
      rw [if_pos hnext]
      show _ = some ([], UInt32.ofNat next.toNat)
      rw [UInt32.ofNat_toNat]
  | cons row rows ih =>
      have hlength : (Row.panelsOf (row :: rows)).length =
          row.panels.length + (Row.panelsOf rows).length := by
        rw [Row.panelsOf, List.flatMap_cons, List.length_append]
        rfl
      rw [countRows?, count_panels_eq, hlength]
      by_cases hrow : next.toNat + row.panels.length < UInt32.size
      · have hcount : (UInt32.ofNat (next.toNat + row.panels.length)).toNat =
            next.toNat + row.panels.length := UInt32.toNat_ofNat_of_lt' hrow
        rw [if_pos hrow]
        show (countRows? (UInt32.ofNat (next.toNat + row.panels.length)) rows).bind _ = _
        rw [ih, hcount, Nat.add_assoc]
        split <;> rfl
      · rw [if_neg hrow, if_neg (by omega)]
        rfl

namespace Dashboard

/-- A counter of thirty-two bits numbers a dashboard exactly if it has at most `2 ^ 32 - 2` panels:
behind the last panel it has to count up once more. -/
theorem count_panel_ids_eq (dashboard : Dashboard) :
    dashboard.countPanelIds? =
      if dashboard.panelCount ≤ 2 ^ 32 - 2 then
        some (dashboard.assignPanelIds, UInt32.ofNat (dashboard.panelCount + 1))
      else none := by
  have hfirst : (UInt32.ofNat firstPanelId).toNat = 1 := rfl
  have hcount : (Row.panelsOf dashboard.rows).length = dashboard.panelCount :=
    dashboard.panelCount_eq_length_panels.symm
  have hroom : 1 + dashboard.panelCount < UInt32.size ↔ dashboard.panelCount ≤ 2 ^ 32 - 2 := by
    show 1 + dashboard.panelCount < 2 ^ 32 ↔ _
    omega
  rw [countPanelIds?, count_rows_eq, hfirst, hcount, Nat.add_comm]
  simp only [Nat.add_comm _ 1, hroom]
  split <;> rfl

/-- The panels are numbered from one on in display order, with no gap and whatever numbers they had,
and a counter of thirty-two bits gets through. Nothing but the numbers changes. Dashboards that are
the same without their numbers are numbered alike, so numbering twice is numbering once, and numbering
behind some edits makes up for any numbering before them. -/
theorem numbered_in_order {dashboard : Dashboard} (hcount : dashboard.panelCount ≤ 2 ^ 32 - 2) :
    dashboard.countPanelIds? =
        some (dashboard.assignPanelIds, UInt32.ofNat (dashboard.panelCount + 1)) ∧
      dashboard.assignPanelIds.panels.map (fun panel => panel.id.map UInt32.toNat) =
        (List.range' 1 dashboard.panelCount).map some ∧
      dashboard.panelCount = dashboard.panels.length ∧
      dashboard.assignPanelIds.panelCount = dashboard.panelCount ∧
      dashboard.assignPanelIds.withoutIds = dashboard.withoutIds ∧
      (∀ other : Dashboard, other.withoutIds = dashboard.withoutIds →
        other.assignPanelIds = dashboard.assignPanelIds) ∧
      dashboard.assignPanelIds.assignPanelIds = dashboard.assignPanelIds ∧
      ∀ edits, (dashboard.assignPanelIds.edits? edits).map assignPanelIds =
        (dashboard.edits? edits).map assignPanelIds := by
  refine ⟨?_, numbers_assign_panel_ids hcount, dashboard.panelCount_eq_length_panels,
    dashboard.panelCount_assign_panel_ids, dashboard.without_ids_assign_panel_ids,
    fun _ => assign_panel_ids_congr,
    assign_panel_ids_congr dashboard.without_ids_assign_panel_ids, fun edits => ?_⟩
  · rw [count_panel_ids_eq, if_pos hcount]
  · have hedits := edits_congr dashboard.without_ids_assign_panel_ids edits
    have hforget : ∀ edited : Option Dashboard,
        edited.map assignPanelIds = (edited.map withoutIds).map assignPanelIds := by
      intro edited
      cases edited with
      | none => rfl
      | some edited => exact congrArg some edited.assign_panel_ids_without_ids.symm
    rw [hforget, hedits, ← hforget]

/-- Two panels with stray numbers, an empty row between them. -/
def scattered : Dashboard :=
  ⟨"Scattered", none, [], [⟨[⟨some 7, "A", "d", false, []⟩]⟩, ⟨[]⟩,
    ⟨[⟨none, "B", "d", true, []⟩, ⟨some 7, "C", "d", false, []⟩]⟩]⟩

/-- The count runs over the empty row, and the panels that stay after an edit are numbered anew. -/
theorem numbered_in_order_scattered :
    scattered.panelCount ≤ 2 ^ 32 - 2 ∧
      scattered.assignPanelIds.panels.map (fun panel => panel.id.map UInt32.toNat) =
        [some 1, some 2, some 3] ∧
      (scattered.assignPanelIds.edits? [.swapPanels 2 0 1, .removePanel 0 0]).map assignPanelIds =
        some ⟨"Scattered", none, [], [⟨[]⟩, ⟨[]⟩,
          ⟨[⟨some 1, "C", "d", false, []⟩, ⟨some 2, "B", "d", true, []⟩]⟩]⟩ := by
  have hcount : scattered.panelCount ≤ 2 ^ 32 - 2 := by decide
  obtain ⟨-, hids, -, -, -, -, -, hedits⟩ := numbered_in_order hcount
  exact ⟨hcount, hids, (hedits _).trans (by decide)⟩

end Dashboard

end DashboardGenerator
