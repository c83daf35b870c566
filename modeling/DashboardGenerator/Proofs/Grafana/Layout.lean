import DashboardGenerator.Grafana.Document
import DashboardGenerator.Proofs.Json.Layout

/-!
# Layout of a rendered dashboard

The two texts of a dashboard differ in white space between tokens alone, and the control characters
of its titles, queries and names are spelled out in both: `layout_is_white_space`.
-/

namespace DashboardGenerator.Grafana

open Json

/-- Layout is only white space. The indented text of a dashboard without the white space outside of
string literals is its compact text. The compact text has no control characters, so it is a single
line whatever the dashboard holds, and the only ones of the indented text are line breaks outside of
string literals. -/
theorem layout_is_white_space (dashboard : Dashboard) :
    withoutLayout (render dashboard true).toList = (render dashboard false).toList ∧
    (∀ character ∈ (render dashboard false).toList, 0x20 ≤ character.toNat) ∧
    ∀ entry ∈ regions .outside (render dashboard true).toList,
      entry.2.toNat < 0x20 → entry = (.outside, '\n') := by
  have hlaid : LaidOut (render dashboard true).toList (render dashboard false).toList := by
    simp only [render, text, if_true, String.toList_ofList]
    exact laid_out_indented 0 (dashboardJson dashboard)
  exact ⟨hlaid.stripped, hlaid.printable, hlaid.breaks⟩

/-- A dashboard whose title has a quote, a line break and a backslash in it. -/
def brokenTitle : Dashboard :=
  { Dashboard.empty with title := "a \" \n\\ b" }

/-- The line break of the title is spelled out, and the one that the indented text starts its fields
with stands outside of string literals. -/
theorem layout_is_white_space_broken_title :
    withoutLayout (render brokenTitle true).toList = (render brokenTitle false).toList ∧
    '\n' ∉ (render brokenTitle false).toList ∧
    ∃ entry ∈ regions .outside (render brokenTitle true).toList,
      entry.2.toNat < 0x20 ∧ entry = (.outside, '\n') := by
  obtain ⟨hstripped, hprintable, hbreaks⟩ := layout_is_white_space brokenTitle
  have hstart : ∃ rest, (render brokenTitle true).toList = '\x7b' :: '\n' :: rest := by
    rw [render, text, String.toList_ofList]
    exact ⟨_, rfl⟩
  have hbreak : (Region.outside, '\n') ∈ regions .outside (render brokenTitle true).toList := by
    obtain ⟨rest, hrest⟩ := hstart
    rw [hrest]
    exact List.mem_cons_of_mem _ List.mem_cons_self
  refine ⟨hstripped, fun hmem => ?_, _, hbreak, by decide, hbreaks _ hbreak (by decide)⟩
  exact absurd (hprintable '\n' hmem) (by decide)

end DashboardGenerator.Grafana
