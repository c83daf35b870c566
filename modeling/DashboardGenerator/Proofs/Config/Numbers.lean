import DashboardGenerator.Proofs.Config.Layers
import DashboardGenerator.Proofs.Config.StandsFor
import DashboardGenerator.Proofs.Toml.Faulty

/-!
# Numbers of a document in its configuration

A number without a value is a fault of the whole document, wherever it is (`of_toml_value_faulty`),
and an integer in place of a text stays one in the configuration (`of_toml_value_stands_for`). So a
source that is read from tables stands for the one that is read from other tables:
`settle_stands_for`.
-/

namespace DashboardGenerator.Config

open Toml hiding Value

/-! ## Numbers without a value -/

/-- Entries one of which has no value are not taken over. -/
theorem settle_error {entries : List (String × Except NumberFault Value)} {key : String}
    {fault : NumberFault} (hmem : (key, .error fault) ∈ entries) :
    ∃ fault, settle entries = .error fault := by
  cases hsettle : settle entries with
  | error fault => exact ⟨fault, rfl⟩
  | ok values =>
      rw [eq_of_settle_eq_ok hsettle] at hmem
      obtain ⟨_, _, heq⟩ := List.mem_map.mp hmem
      cases heq

/-- Elements one of which has no value are not taken over. -/
theorem of_toml_items_error {origin : Origin} {items : List Toml.Value} {item : Toml.Value}
    (hmem : item ∈ items) {fault : NumberFault} (hitem : ofTomlValue origin item = .error fault) :
    ∃ fault, ofTomlItems origin items = .error fault := by
  induction items with
  | nil => cases hmem
  | cons first items ih =>
      rw [ofTomlItems]
      cases hfirst : ofTomlValue origin first with
      | error fault => exact ⟨fault, rfl⟩
      | ok value =>
          rcases List.mem_cons.mp hmem with rfl | hmem
          · cases hfirst.symm.trans hitem
          · obtain ⟨fault, hothers⟩ := ih hmem
            exact ⟨fault, by rw [hothers]; rfl⟩

/-- A value that is found among entries is found among those of the configuration. -/
theorem mem_of_toml_entries {origin : Origin} {entries : Entries} {key : String}
    {value : Toml.Value} (hlookup : entries.lookup key = some value) :
    (key, ofTomlValue origin value) ∈ ofTomlEntries origin entries := by
  obtain ⟨before, after, rfl, -⟩ := List.lookup_eq_some_iff.mp hlookup
  rw [of_toml_entries_append]
  exact List.mem_append_right _ List.mem_cons_self

/-- A faulty value has no configuration. -/
theorem of_toml_value_faulty (origin : Origin) {value : Toml.Value} (hfaulty : value.IsFaulty) :
    ∃ fault, ofTomlValue origin value = .error fault := by
  induction hfaulty with
  | unfit fault => exact ⟨fault, rfl⟩
  | item ofTables hmem _ ih =>
      obtain ⟨fault, hitem⟩ := ih
      obtain ⟨fault, hitems⟩ := of_toml_items_error hmem hitem
      exact ⟨fault, by rw [ofTomlValue, hitems]; rfl⟩
  | entry kind hlookup _ ih =>
      obtain ⟨fault, hvalue⟩ := ih
      obtain ⟨fault, hentries⟩ := settle_error (hvalue ▸ mem_of_toml_entries hlookup)
      exact ⟨fault, by rw [ofTomlValue, hentries]; rfl⟩

/-- Faulty tables have no configuration. -/
theorem settle_faulty (origin : Origin) {tables : Entries} (hfaulty : tables.IsFaulty) :
    ∃ fault, settle (ofTomlEntries origin tables) = .error fault := by
  obtain ⟨key, value, hlookup, hvalue⟩ := hfaulty
  obtain ⟨fault, hvalue⟩ := of_toml_value_faulty origin hvalue
  exact settle_error (hvalue ▸ mem_of_toml_entries hlookup)

/-! ## Integers in place of texts -/

theorem of_toml_scalar_stands_for {scalar other : Toml.Scalar} (hscalar : scalar.StandsFor other)
    {result : Scalar} (hother : ofTomlScalar other = .ok result) :
    ∃ found, ofTomlScalar scalar = .ok found ∧ found.StandsFor result := by
  cases hscalar with
  | same => exact ⟨result, hother, .same result⟩
  | integer number =>
      rw [ofTomlScalar, String.ofList_toList] at hother
      cases hother
      exact ⟨.integer number, rfl, .integer number⟩

mutual

/-- A value that stands for another one has a configuration that stands for the other one's. -/
theorem of_toml_value_stands_for (origin : Origin) :
    ∀ (value other : Toml.Value) (result : Value), value.StandsFor other →
      ofTomlValue origin other = .ok result →
      ∃ found, ofTomlValue origin value = .ok found ∧ found.StandsFor result
  | .scalar _, _, _, hvalue, hother => by
      cases hvalue with
      | scalar hscalar =>
          obtain ⟨result, hresult, rfl⟩ := map_eq_ok_iff.mp hother
          obtain ⟨found, hfound, hstands⟩ := of_toml_scalar_stands_for hscalar hresult
          exact ⟨.scalar origin found, by rw [ofTomlValue, hfound]; rfl, .scalar origin hstands⟩
  | .array _ items, _, _, hvalue, hother => by
      cases hvalue with
      | array _ hitems =>
          obtain ⟨results, hresults, rfl⟩ := map_eq_ok_iff.mp hother
          obtain ⟨found, hfound, hstands⟩ :=
            of_toml_items_stands_for origin items _ results hitems hresults
          exact ⟨.array origin found, by rw [ofTomlValue, hfound]; rfl, .array origin hstands⟩
  | .table _ entries, _, _, hvalue, hother => by
      cases hvalue with
      | table _ hentries =>
          obtain ⟨results, hresults, rfl⟩ := map_eq_ok_iff.mp hother
          obtain ⟨found, hfound, hstands⟩ := of_toml_entries_stands_for origin entries _ results
            hentries (eq_of_settle_eq_ok hresults)
          refine ⟨.table found, ?_, .table hstands⟩
          rw [ofTomlValue, hfound, settle_valued]
          rfl
termination_by structural value => value

theorem of_toml_items_stands_for (origin : Origin) :
    ∀ (items others : List Toml.Value) (results : List Value),
      List.Forall₂ Toml.Value.StandsFor items others → ofTomlItems origin others = .ok results →
      ∃ found, ofTomlItems origin items = .ok found ∧ List.Forall₂ Value.StandsFor found results
  | [], _, _, hitems, hothers => by
      cases hitems
      cases hothers
      exact ⟨[], rfl, .nil⟩
  | item :: rest, _, _, hitems, hothers => by
      cases hitems with
      | cons hitem hrest =>
          rw [ofTomlItems] at hothers
          obtain ⟨result, hresult, hothers⟩ := bind_eq_ok_iff.mp hothers
          obtain ⟨results, hresults, ⟨⟩⟩ := bind_eq_ok_iff.mp hothers
          obtain ⟨first, hfirst, hstands⟩ :=
            of_toml_value_stands_for origin item _ result hitem hresult
          obtain ⟨others, hothers, hothersStand⟩ :=
            of_toml_items_stands_for origin rest _ results hrest hresults
          exact ⟨first :: others, by rw [ofTomlItems, hfirst, hothers]; rfl,
            .cons hstands hothersStand⟩
termination_by structural items => items

theorem of_toml_entries_stands_for (origin : Origin) :
    ∀ (entries others : Entries) (results : List (String × Value)),
      List.Forall₂ (Keyed Toml.Value.StandsFor) entries others →
      ofTomlEntries origin others = results.map valued →
      ∃ found, ofTomlEntries origin entries = found.map valued ∧
        List.Forall₂ (Keyed Value.StandsFor) found results
  | [], _, results, hentries, hothers => by
      cases hentries
      cases results with
      | nil => exact ⟨[], rfl, .nil⟩
      | cons result results => cases hothers
  | (key, value) :: rest, _, results, hentries, hothers => by
      cases hentries with
      | cons hentry hrest =>
          cases hentry with
          | mk _ hvalue =>
              cases results with
              | nil => cases hothers
              | cons result results =>
                  obtain ⟨name, result⟩ := result
                  rw [ofTomlEntries, List.map_cons, List.cons.injEq, valued,
                    Prod.mk.injEq] at hothers
                  obtain ⟨⟨rfl, hresult⟩, hothers⟩ := hothers
                  obtain ⟨found, hfound, hstands⟩ :=
                    of_toml_value_stands_for origin value _ result hvalue hresult
                  obtain ⟨others, hothers, hothersStand⟩ :=
                    of_toml_entries_stands_for origin rest _ results hrest hothers
                  refine ⟨(key, found) :: others, ?_, .cons (.mk key hstands) hothersStand⟩
                  rw [ofTomlEntries, hfound, hothers]
                  rfl
termination_by structural entries => entries

end

/-- Tables that stand for others give a source that stands for the others'. -/
theorem settle_stands_for {origin : Origin} {tables others : Entries}
    (htables : tables.StandsFor others) {results : List (String × Value)}
    (hothers : settle (ofTomlEntries origin others) = .ok results) :
    ∃ found, settle (ofTomlEntries origin tables) = .ok found ∧
      List.Forall₂ (Keyed Value.StandsFor) found results := by
  obtain ⟨found, hfound, hstands⟩ := of_toml_entries_stands_for origin tables others results
    htables (eq_of_settle_eq_ok hothers)
  exact ⟨found, by rw [hfound, settle_valued], hstands⟩

end DashboardGenerator.Config
