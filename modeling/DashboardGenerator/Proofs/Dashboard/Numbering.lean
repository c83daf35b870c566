import DashboardGenerator.Dashboard.Numbering
import Mathlib.Algebra.Group.Nat.Defs
import Mathlib.Data.List.Basic

/-!
# The numbers of panels

`ids_assign_panel_ids`: after numbering, the numbers of the panels in display order are the count
from `firstPanelId` on. The count runs on over the rows, so the induction is over the rows with the
next number free.
-/

namespace DashboardGenerator

/-- The panels of rows, row by row. -/
def Row.panelsOf (rows : List Row) : List Panel := rows.flatMap Row.panels

/-- The numbers from `next` on, as panels carry them. -/
def panelIdsFrom (next count : Nat) : List (Option UInt32) :=
  (List.range' next count).map fun id => some (UInt32.ofNat id)

/-- The panels of one row are numbered from `next` on. -/
theorem Row.ids_number (row : Row) (next : Nat) :
    (row.number next).panels.map Panel.id = panelIdsFrom next row.panels.length := by
  apply List.ext_getElem
  · simp [Row.number, panelIdsFrom]
  · intro position _ _
    simp [Row.number, panelIdsFrom]

/-- The panels of all rows are numbered from `next` on. -/
theorem Row.ids_number_all (rows : List Row) (next : Nat) :
    (panelsOf (numberAll next rows)).map Panel.id = panelIdsFrom next (panelsOf rows).length := by
  induction rows generalizing next with
  | nil => rfl
  | cons row rows ih =>
      have hrest := ih (next + row.panels.length)
      simp only [panelsOf, panelIdsFrom] at hrest ⊢
      rw [numberAll, List.flatMap_cons, List.map_append, ids_number, hrest, List.flatMap_cons,
        List.length_append, ← List.range'_append_1, List.map_append]
      rfl

/-- Numbering neither adds nor drops panels. -/
theorem Dashboard.length_panels_assign_panel_ids (dashboard : Dashboard) :
    dashboard.assignPanelIds.panels.length = dashboard.panels.length := by
  have hlength := congrArg List.length (Row.ids_number_all dashboard.rows firstPanelId)
  rw [panelIdsFrom, List.length_map, List.length_map, List.length_range'] at hlength
  exact hlength

/-- After numbering, the panels in display order carry the count from `firstPanelId` on. -/
theorem Dashboard.ids_assign_panel_ids (dashboard : Dashboard) :
    dashboard.assignPanelIds.panels.map Panel.id =
      panelIdsFrom firstPanelId dashboard.assignPanelIds.panels.length := by
  rw [length_panels_assign_panel_ids]
  exact Row.ids_number_all dashboard.rows firstPanelId

/-- As long as no number exceeds thirty-two bits, the count is that of the natural numbers. -/
theorem toNat_panel_ids_from {next count : Nat} (hcount : next + count ≤ 2 ^ 32) :
    (panelIdsFrom next count).map (Option.map UInt32.toNat) =
      (List.range' next count).map some := by
  rw [panelIdsFrom, List.map_map]
  refine List.map_congr_left fun id hmem => congrArg some ?_
  rw [List.mem_range'_1] at hmem
  exact UInt32.toNat_ofNat_of_lt' (by show id < 2 ^ 32; omega)

/-- Numbering neither adds nor drops panels, counted row by row. -/
theorem Dashboard.panelCount_assign_panel_ids (dashboard : Dashboard) :
    dashboard.assignPanelIds.panelCount = dashboard.panelCount := by
  rw [panelCount_eq_length_panels, length_panels_assign_panel_ids, panelCount_eq_length_panels]

/-- After numbering, the panels in display order are numbered through from one on. -/
theorem Dashboard.numbers_assign_panel_ids {dashboard : Dashboard}
    (hcount : dashboard.panelCount ≤ 2 ^ 32 - 2) :
    dashboard.assignPanelIds.panels.map (fun panel => panel.id.map UInt32.toNat) =
      (List.range' 1 dashboard.panelCount).map some := by
  have hids := congrArg (List.map (Option.map UInt32.toNat)) dashboard.ids_assign_panel_ids
  rw [List.map_map, ← panelCount_eq_length_panels, panelCount_assign_panel_ids,
    toNat_panel_ids_from (by show 1 + _ ≤ _; omega)] at hids
  exact hids

end DashboardGenerator
