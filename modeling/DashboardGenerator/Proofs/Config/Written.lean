import DashboardGenerator.Config.Assign
import DashboardGenerator.Config.OfToml
import DashboardGenerator.Proofs.Toml.Section

/-!
# Configurations of written documents

The configuration that a written value or section stands for. Nothing that is written lacks a value,
so a document that fits gives the configuration of its entries (`of_toml_text`), and the keys of these
are words (`config_bare`).
-/

namespace DashboardGenerator

open Config

namespace Toml

/-! ## Written values -/

namespace Literal

mutual

/-- The configuration of a value. -/
def config (origin : Origin) : Literal → Config.Value
  | .string value => .scalar origin (.string value)
  | .boolean value => .scalar origin (.boolean value)
  | .array items => .array origin (itemConfigs origin items)
  | .table entries => .table (entryConfigs origin entries)
termination_by structural literal => literal

/-- The configurations of elements. -/
def itemConfigs (origin : Origin) : List Literal → List Config.Value
  | [] => []
  | item :: rest => item.config origin :: itemConfigs origin rest
termination_by structural items => items

/-- The configurations of keys and their values. -/
def entryConfigs (origin : Origin) : List (String × Literal) → List (String × Config.Value)
  | [] => []
  | (key, value) :: rest => (key, value.config origin) :: entryConfigs origin rest
termination_by structural entries => entries

end

end Literal

namespace Section

/-- The entry of an array of tables in a configuration, which is not there without elements. -/
def arrayConfig (origin : Origin) (key : String) (items : List Config.Value) :
    List (String × Config.Value) :=
  if items.isEmpty then [] else [(key, .array origin items)]

mutual

/-- The entries of a section in a configuration. -/
def config (origin : Origin) : Section → List (String × Config.Value)
  | .mk lines groups => Literal.entryConfigs origin lines ++ groupConfigs origin groups
termination_by structural table => table

/-- The entries of arrays of tables. -/
def groupConfigs (origin : Origin) :
    List (String × List Section) → List (String × Config.Value)
  | [] => []
  | (key, elements) :: rest =>
    arrayConfig origin key (elementConfigs origin elements) ++ groupConfigs origin rest
termination_by structural groups => groups

/-- The elements of an array of tables. -/
def elementConfigs (origin : Origin) : List Section → List Config.Value
  | [] => []
  | element :: rest => .table (element.config origin) :: elementConfigs origin rest
termination_by structural elements => elements

end

end Section

end Toml

namespace Config

open Toml

/-- An entry that turned out to have a value. -/
def valued (entry : String × Value) : String × Except NumberFault Value :=
  (entry.1, .ok entry.2)

/-- Entries that all have a value are taken over. -/
theorem settle_valued (entries : List (String × Value)) :
    settle (entries.map valued) = .ok entries := by
  have hfault : leastFault? (entries.map valued) = none := by
    induction entries with
    | nil => rfl
    | cons entry entries ih => exact ih
  have hsettled : settled (entries.map valued) = entries := by
    induction entries with
    | nil => rfl
    | cons entry entries ih => exact congrArg (entry :: ·) (ih hfault)
  rw [settle, hfault, hsettled]

theorem of_toml_entries_append (origin : Origin) (entries others : Entries) :
    ofTomlEntries origin (entries ++ others) =
      ofTomlEntries origin entries ++ ofTomlEntries origin others := by
  induction entries with
  | nil => rfl
  | cons entry entries ih => exact congrArg (_ :: ·) ih

mutual

/-- A written value has its configuration. -/
theorem of_toml_literal (origin : Origin) :
    ∀ literal : Literal, ofTomlValue origin literal.value = .ok (literal.config origin)
  | .string value => by
      show Except.ok (Value.scalar origin (.string (String.ofList value.toList))) = _
      rw [String.ofList_toList]
      rfl
  | .boolean _ => rfl
  | .array items => by
      show (ofTomlItems origin (Literal.itemValues items)).map _ = _
      rw [of_toml_item_values origin items]
      rfl
  | .table entries => by
      show (settle (ofTomlEntries origin (Literal.entryValues entries))).map _ = _
      rw [of_toml_entry_values origin entries, settle_valued]
      rfl
termination_by structural literal => literal

theorem of_toml_item_values (origin : Origin) :
    ∀ items : List Literal, ofTomlItems origin (Literal.itemValues items) =
      .ok (Literal.itemConfigs origin items)
  | [] => rfl
  | item :: rest => by
      rw [Literal.itemValues, ofTomlItems, of_toml_literal origin item,
        of_toml_item_values origin rest]
      rfl
termination_by structural items => items

theorem of_toml_entry_values (origin : Origin) :
    ∀ entries : List (String × Literal), ofTomlEntries origin (Literal.entryValues entries) =
      (Literal.entryConfigs origin entries).map valued
  | [] => rfl
  | (key, value) :: rest => by
      rw [Literal.entryValues, ofTomlEntries, of_toml_literal origin value,
        of_toml_entry_values origin rest]
      rfl
termination_by structural entries => entries

end

theorem of_toml_array_entry {origin : Origin} {key : String} {items : List Toml.Value}
    {values : List Value} (hitems : ofTomlItems origin items = .ok values)
    (hempty : items.isEmpty = values.isEmpty) :
    ofTomlEntries origin (arrayEntry key items) =
      (Section.arrayConfig origin key values).map valued := by
  rw [arrayEntry, Section.arrayConfig, hempty]
  split
  · rfl
  · show [(key, (ofTomlItems origin items).map (Value.array origin))] = _
    rw [hitems]
    rfl

mutual

/-- A section has its configuration. -/
theorem of_toml_section (origin : Origin) :
    ∀ table : Section, ofTomlEntries origin table.entries = (table.config origin).map valued
  | .mk lines groups => by
      rw [Section.entries, of_toml_entries_append, of_toml_entry_values,
        of_toml_group_entries origin groups, Section.config, List.map_append]
termination_by structural table => table

theorem of_toml_group_entries (origin : Origin) :
    ∀ groups : List (String × List Section), ofTomlEntries origin (Section.groupEntries groups) =
      (Section.groupConfigs origin groups).map valued
  | [] => rfl
  | (key, elements) :: rest => by
      have helements := of_toml_element_values origin elements
      rw [Section.groupEntries, of_toml_entries_append,
        of_toml_array_entry helements.1 helements.2, of_toml_group_entries origin rest,
        Section.groupConfigs, List.map_append]
termination_by structural groups => groups

theorem of_toml_element_values (origin : Origin) :
    ∀ elements : List Section,
      ofTomlItems origin (Section.elementValues elements) =
        .ok (Section.elementConfigs origin elements) ∧
      (Section.elementValues elements).isEmpty = (Section.elementConfigs origin elements).isEmpty
  | [] => ⟨rfl, rfl⟩
  | element :: rest => by
      refine ⟨?_, rfl⟩
      have helement : ofTomlValue origin (.table .header element.entries) =
          .ok (.table (element.config origin)) := by
        show (settle (ofTomlEntries origin element.entries)).map _ = _
        rw [of_toml_section origin element, settle_valued]
        rfl
      rw [Section.elementValues, ofTomlItems, helement, (of_toml_element_values origin rest).1]
      rfl
termination_by structural elements => elements

end

/-- The text of a document that fits gives the configuration of its entries. -/
theorem of_toml_text {document : Section} (hfits : document.Fits nestingLimit) (origin : Origin) :
    ofToml origin document.text = .ok (document.config origin) := by
  rw [ofToml, document_text hfits]
  show (settle (ofTomlEntries origin document.entries)).mapError _ = _
  rw [of_toml_section, settle_valued]
  rfl

/-! ## A single source -/

/-- A key that is a word stands for itself and not for a longer path. -/
theorem path_of_bare_key {key : String} (hkey : IsBareKey key) : Path.ofKey key = ⟨key, []⟩ := by
  obtain ⟨hne, hall, -⟩ := bare_key_eq_some_iff.mp hkey
  have htake : key.toList.takeWhile isPathCharacter = key.toList :=
    List.takeWhile_eq_self_iff.mpr hall
  have hdrop : key.toList.dropWhile isPathCharacter = [] :=
    List.dropWhile_eq_nil_iff.mpr hall
  -- All of the key is the root of a path, and no steps are left.
  have hpart : pathKey? key.toList = some (key, []) := by
    simp only [pathKey?, htake, hdrop, String.ofList_toList]
    exact if_neg (by simpa using hne)
  rw [Path.ofKey, Path.ofText?, hpart]
  show ((steps? []).bind fun steps => some (Path.mk key steps)).getD _ = _
  rw [steps?]
  rfl

/-- The keys of arrays of tables in a configuration are among those that were written; one without
elements is left out. -/
theorem group_config_keys (origin : Origin) (groups : List (String × List Section)) :
    List.Sublist ((Section.groupConfigs origin groups).map Prod.fst) (groups.map Prod.fst) := by
  induction groups with
  | nil => exact List.nil_sublist _
  | cons group groups ih =>
      rw [Section.groupConfigs, List.map_append, Section.arrayConfig]
      split
      · exact ih.cons _
      · exact ih.cons_cons _

/-- The keys of a section in a configuration are among those that were written, in their order. -/
theorem config_keys (origin : Origin) (lines : List (String × Literal))
    (groups : List (String × List Section)) :
    List.Sublist (((Section.mk lines groups).config origin).map Prod.fst)
      (lines.map Prod.fst ++ groups.map Prod.fst) := by
  have hlines : (Literal.entryConfigs origin lines).map Prod.fst = lines.map Prod.fst := by
    induction lines with
    | nil => rfl
    | cons line lines ih => exact congrArg (line.1 :: ·) ih
  rw [Section.config, List.map_append, hlines]
  exact (List.Sublist.refl _).append (group_config_keys origin groups)

/-- The keys of a document that fits are words. -/
theorem config_bare (origin : Origin) {room : Nat} {document : Section}
    (hfits : document.Fits room) : ∀ entry ∈ document.config origin, IsBareKey entry.1 := by
  cases hfits with
  | mk room lines groups hkeys =>
      intro entry hmem
      exact hkeys.bare entry.1
        ((config_keys origin lines groups).subset (List.mem_map_of_mem hmem))

end Config

end DashboardGenerator
