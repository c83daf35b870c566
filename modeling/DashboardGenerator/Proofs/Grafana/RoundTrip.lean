import DashboardGenerator.Grafana.Reading
import DashboardGenerator.Proofs.Json.RoundTrip

/-!
# Reading a rendered dashboard

Reading the fields of a document back inverts the mapping of a dashboard to its document, level by
level (`dashboard_of_dashboard_json`). Together with the round trip of documents and texts this
gives `render_loses_nothing`: rendering is injective in both layouts, and no text inside a dashboard
can reach beyond its string.
-/

namespace DashboardGenerator

/-- A list of documents is read element by element. -/
theorem Json.list_of_map {α β : Type} {read : Json → Option β} {write : α → Json} {view : α → β}
    (hread : ∀ item, read (write item) = some (view item)) (items : List α) :
    Json.list? read (.array (items.map write)) = some (items.map view) := by
  show (items.map write).mapM read = _
  induction items with
  | nil => rfl
  | cons item items ih =>
      rw [List.map_cons, List.mapM_cons, hread, ih]
      rfl

/-- A list of documents that know their positions is read element by element. -/
theorem Json.list_of_map_idx {α β : Type} {read : Json → Option β} {write : Nat → α → Json}
    {view : Nat → α → β} (hread : ∀ position item,
      read (write position item) = some (view position item)) (items : List α) :
    Json.list? read (.array (items.mapIdx write)) = some (items.mapIdx view) := by
  show (items.mapIdx write).mapM read = _
  induction items generalizing write view with
  | nil => rfl
  | cons item items ih =>
      rw [List.mapIdx_cons, List.mapM_cons, hread, ih fun position => hread (position + 1)]
      rw [List.mapIdx_cons]
      rfl

namespace Grafana

/-- A string that may be missing is read back. -/
theorem optional_string_of_option (value : Option String) :
    optionalString? (Json.ofOptionString value) = some value := by
  cases value <;> rfl

/-- A template variable is read back from its document. -/
theorem template_of_template_json (template : Template) :
    templateOf? (templateJson template) = some template := by
  show (optionalString? (.ofOptionString template.regex)).bind _ = _
  rw [optional_string_of_option]
  rfl

/-- A query is read back from its document. -/
theorem target_of_target_json (position : Nat) (target : Target) :
    targetOf? (targetJson position target) = some target := rfl

/-- The number of a panel is read back, and that it has none. -/
theorem read_id_panel_json (panel : Panel) :
    (panelJson panel).read? "id" panelId? = some panel.id := by
  rcases panel with ⟨id, title, dataSource, transparent, targets⟩
  cases id with
  | none => rfl
  | some id =>
      show (if id.toNat < UInt32.size then _ else _) = _
      rw [if_pos id.toNat_lt, UInt32.ofNat_toNat]

/-- A panel is read back from its document. -/
theorem panel_of_panel_json (panel : Panel) : panelOf? (panelJson panel) = some panel := by
  have htargets : Json.list? targetOf? (.array (targetsJson panel.targets)) =
      some panel.targets := by
    rw [targetsJson, Json.list_of_map_idx target_of_target_json]
    exact congrArg some (by simp [List.mapIdx_eq_iff])
  rw [panelOf?, read_id_panel_json]
  show (Json.list? targetOf? (.array (targetsJson panel.targets))).bind _ = _
  rw [htargets]
  rfl

/-- A row is read back from its document. -/
theorem row_of_row_json (row : Row) : rowOf? (rowJson row) = some row := by
  show (Json.list? panelOf? (.array (row.panels.map panelJson))).bind _ = _
  rw [Json.list_of_map panel_of_panel_json, List.map_id']
  rfl

/-- A dashboard is read back from its document. -/
theorem dashboard_of_dashboard_json (dashboard : Dashboard) :
    dashboardOf? (dashboardJson dashboard) = some dashboard := by
  show (optionalString? (.ofOptionString dashboard.uid)).bind _ = _
  rw [optional_string_of_option]
  show (Json.list? templateOf? (.array (dashboard.templating.map templateJson))).bind _ = _
  rw [Json.list_of_map template_of_template_json, List.map_id']
  show (Json.list? rowOf? (.array (dashboard.rows.map rowJson))).bind _ = _
  rw [Json.list_of_map row_of_row_json, List.map_id']
  rfl

/-- A dashboard is read back from its text, in either layout. -/
theorem decode_render (dashboard : Dashboard) (pretty : Bool) :
    decode? (render dashboard pretty) = some dashboard := by
  rw [decode?, render, Json.parse_text]
  exact dashboard_of_dashboard_json dashboard

/-- Two dashboards with one text are the same, whatever layouts the texts are in. -/
theorem eq_of_render_eq {dashboard other : Dashboard} {pretty otherPretty : Bool}
    (htext : render dashboard pretty = render other otherPretty) : dashboard = other := by
  have hdecode := decode_render dashboard pretty
  rw [htext, decode_render] at hdecode
  exact (Option.some.inj hdecode).symm

/-- Rendering loses nothing. One function reads every dashboard back from either layout; both
layouts are well-formed JSON and spell the same document; rendering is injective, so that a missing
`uid` or regular expression differs from an empty one; and a printed string is read as one token
that holds exactly its text, whatever the text and whatever follows. -/
theorem render_loses_nothing :
    (∀ dashboard pretty, decode? (render dashboard pretty) = some dashboard) ∧
      (∀ dashboard pretty,
        Json.parse? (render dashboard pretty) = some (dashboardJson dashboard)) ∧
      (∀ dashboard other pretty otherPretty,
        render dashboard pretty = render other otherPretty → dashboard = other) ∧
      (∀ (dashboard : Dashboard) pretty otherPretty,
        render (dashboard.withUid none) pretty ≠
          render (dashboard.withUid (some "")) otherPretty) ∧
      (∀ (dashboard : Dashboard) before (template : Template) after pretty otherPretty,
        render { dashboard with
            templating := before ++ { template with regex := none } :: after } pretty ≠
          render { dashboard with
            templating := before ++ { template with regex := some "" } :: after } otherPretty) ∧
      ∀ text rest, Json.tokens? (Json.quote text ++ rest) =
        (Json.tokens? rest).map (.string (String.ofList text) :: ·) := by
  refine ⟨decode_render, fun dashboard pretty => Json.parse_text _ pretty,
    fun _ _ _ _ => eq_of_render_eq, fun dashboard pretty otherPretty htext => ?_,
    fun dashboard before template after pretty otherPretty htext => ?_, Json.tokens_quote⟩
  -- Equal texts are read as equal dashboards, but these differ in one field.
  · have huid := congrArg Dashboard.uid (eq_of_render_eq htext)
    cases huid
  · have htemplating := congrArg Dashboard.templating (eq_of_render_eq htext)
    have htemplate := (List.cons.inj (List.append_cancel_left htemplating)).1
    cases congrArg Template.regex htemplate

end Grafana

end DashboardGenerator
