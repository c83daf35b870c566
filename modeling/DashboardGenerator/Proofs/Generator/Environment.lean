import DashboardGenerator.Generator.Settings
import DashboardGenerator.Proofs.Config.Layers
import DashboardGenerator.Proofs.Result
import DashboardGenerator.Proofs.Text.Lowercase
import Mathlib.Data.List.Induction

/-!
# Variables of the environment

What the environment gives to a key is the value of the variable whose name is the start and the key,
in any case of the ASCII letters (`lookup_text_source`). That no other letters matter rests on the names
being plain: they go on with letters and digits of ASCII (`variable_key_eq_some_iff`). Where no two
variables give values to one key, the environment gives just these (`environment_source_of_texts`).
-/

namespace DashboardGenerator.Settings

open Config

/-- The name starts with `DASHBOARD_`, in any case. -/
def IsVariable (name : String) : Prop := variableStart <+: name.toLower.toList

instance (name : String) : Decidable (IsVariable name) :=
  inferInstanceAs (Decidable (_ <+: _))

/-- The name goes on with letters and digits of ASCII and underscores alone. -/
def HasPlainRest (name : String) : Prop :=
  ∀ character ∈ name.toList.drop variableStart.length, character.isAlphanum ∨ character = '_'

instance (name : String) : Decidable (HasPlainRest name) :=
  List.decidableBAll _ _

/-- The variables of settings have plain names that differ in more than case. -/
structure PlainVariables (environment : List (String × String)) : Prop where
  plain : ∀ entry ∈ environment, IsVariable entry.1 → HasPlainRest entry.1
  distinct : environment.Pairwise fun entry other =>
    IsVariable entry.1 → IsVariable other.1 → entry.1.toLower ≠ other.1.toLower

instance (environment : List (String × String)) : Decidable (PlainVariables environment) :=
  decidable_of_iff (_ ∧ _) ⟨fun h => ⟨h.1, h.2⟩, fun h => ⟨h.plain, h.distinct⟩⟩

/-- The value of the variable of a field, if it is set. -/
def variableValue? (environment : List (String × String)) (field : String) : Option String :=
  (environment.find? fun entry => entry.1.toLower == "dashboard_" ++ field).map Prod.snd

/-- The letters and digits that count are those of ASCII. -/
theorem is_ascii_of_plain {character : Char}
    (hplain : character.isAlphanum ∨ character = '_') : Text.IsAscii character := by
  rcases hplain with halnum | rfl
  · have hle : character.val ≤ 'z'.val := by
      rcases Bool.or_eq_true_iff.mp halnum with halpha | hdigit
      · rcases Bool.or_eq_true_iff.mp halpha with hupper | hlower
        · exact Nat.le_trans (of_decide_eq_true hupper).2 (by decide)
        · exact of_decide_eq_true (Bool.and_eq_true_iff.mp hlower).2
      · have hle := of_decide_eq_true (Bool.and_eq_true_iff.mp hdigit).2
        exact Nat.le_trans hle (by decide)
    exact Nat.lt_of_le_of_lt hle (by decide)
  · decide

/-- The letters and digits that count may stand in a key, also in lower case. -/
theorem is_path_character_toLower {character : Char}
    (hplain : character.isAlphanum ∨ character = '_') :
    isPathCharacter character.toLower = true := by
  have htable : ∀ code < 0x80, (Char.ofNat code).isAlphanum ∨ Char.ofNat code = '_' →
      isPathCharacter (Char.ofNat code).toLower = true := by decide +kernel
  have hcharacter := htable character.toNat (is_ascii_of_plain hplain)
  rw [Char.ofNat_toNat] at hcharacter
  exact hcharacter hplain

/-- A name that is the start and a key in lower case is that of a variable. -/
theorem is_variable_of_toLower {name key : String} (hlower : name.toLower = "dashboard_" ++ key) :
    IsVariable name := by
  rw [IsVariable, hlower, String.toList_append]
  exact List.prefix_append _ _

/-- No other letters than those of ASCII become the start of the name of a variable. -/
theorem variable_start_plain : Text.AllPlainLower variableStart := by decide

/-- The plain name of a variable is put into lower case within ASCII. -/
theorem lowercase_variable {name : String} (hname : IsVariable name) (hrest : HasPlainRest name) :
    Text.lowercase name = name.toLower := by
  have hstart : (name.toList.take variableStart.length).map Char.toLower = variableStart := by
    rw [List.map_take, ← Text.toList_toLower]
    exact (List.prefix_iff_eq_take.mp hname).symm
  apply Text.lowercase_of_ascii
  rw [← List.take_append_drop variableStart.length name.toList]
  intro character hmem
  rcases List.mem_append.mp hmem with hmem | hmem
  · have hascii : ∀ character ∈ variableStart, Text.IsAscii character :=
      fun character hmem => (variable_start_plain character hmem).1
    exact Text.is_ascii_of_map_toLower hstart hascii character hmem
  · exact is_ascii_of_plain (hrest character hmem)

/-- A name that starts so in lower case starts so in ASCII. -/
theorem is_variable_of_prefix {name : String}
    (hstarts : variableStart <+: (Text.lowercase name).toList) : IsVariable name := by
  rw [Text.lowercase, String.toList_ofList] at hstarts
  obtain ⟨first, rest, passed, hname, hfirst, -⟩ :=
    Text.split_of_prefix_lower variable_start_plain hstarts
  rw [IsVariable, Text.toList_toLower, hname, List.map_append, hfirst]
  exact List.prefix_append _ _

/-- A variable gives a value to the key that its name spells behind the start, in lower case. -/
theorem variable_key_eq_some_iff {name key : String}
    (hplain : IsVariable name → HasPlainRest name) :
    variableKey? name = some key ↔ name.toLower = "dashboard_" ++ key := by
  have hkey : ∀ key : String, name.toLower.toList = variableStart ++ key.toList →
      variableKey? name = some key := by
    intro key hchars
    have hname : IsVariable name := ⟨key.toList, hchars.symm⟩
    rw [variableKey?, lowercase_variable hname (hplain hname), hchars,
      if_pos (List.isPrefixOf_iff_prefix.mpr (List.prefix_append _ _)), List.drop_left,
      String.ofList_toList]
  rw [← String.toList_inj, String.toList_append]
  refine ⟨?_, hkey key⟩
  intro hfound
  have hstarts : variableStart <+: (Text.lowercase name).toList := by
    rw [variableKey?] at hfound
    split at hfound
    next hstarts => exact List.isPrefixOf_iff_prefix.mp hstarts
    · cases hfound
  obtain ⟨rest, hrest⟩ := is_variable_of_prefix hstarts
  have hchars : name.toLower.toList = variableStart ++ (String.ofList rest).toList := by
    rw [String.toList_ofList, hrest]
  -- The key is the one that was found, since a variable gives a value to one key.
  cases (hkey _ hchars).symm.trans hfound
  exact hchars

/-- The values that variables give to keys, as they are listed. -/
def textSource (environment : List (String × String)) : List (String × Value) :=
  environment.filterMap fun (name, text) =>
    (variableKey? name).map fun key => (key, .scalar .environment (.string text))

variable {environment : List (String × String)}

/-- A variable adds a value if it gives one to a key. -/
theorem text_source_cons (name text : String) (environment : List (String × String)) :
    textSource ((name, text) :: environment) =
      match variableKey? name with
      | some key => (key, .scalar .environment (.string text)) :: textSource environment
      | none => textSource environment := by
  rw [textSource, List.filterMap_cons]
  dsimp only
  cases variableKey? name <;> rfl

/-- What variables give to a key is the value of its own one. -/
theorem lookup_text_source
    (hplain : ∀ entry ∈ environment, IsVariable entry.1 → HasPlainRest entry.1) (key : String) :
    (textSource environment).lookup key =
      (variableValue? environment key).map fun text => .scalar .environment (.string text) := by
  induction environment with
  | nil => rfl
  | cons entry environment ih =>
      obtain ⟨name, text⟩ := entry
      obtain ⟨hname, hothers⟩ := List.forall_mem_cons.mp hplain
      have hkey : variableKey? name = some key ↔ name.toLower = "dashboard_" ++ key :=
        variable_key_eq_some_iff hname
      rw [text_source_cons, variableValue?, List.find?_cons]
      by_cases hlower : name.toLower = "dashboard_" ++ key
      · rw [hkey.mpr hlower, beq_iff_eq.mpr hlower]
        simp
      · -- The variable is that of another key or none, so the rest of them decides.
        rw [beq_eq_false_iff_ne.mpr hlower]
        dsimp only
        rw [← variableValue?, ← ih hothers]
        cases hfound : variableKey? name with
        | none => rfl
        | some found =>
            have hne : key ≠ found := by
              rintro rfl
              exact hlower (hkey.mp hfound)
            rw [List.lookup_cons, beq_eq_false_iff_ne.mpr hne]

/-- Variables with plain names give values to plain keys alone. -/
theorem text_source_plain
    (hplain : ∀ entry ∈ environment, IsVariable entry.1 → HasPlainRest entry.1) :
    ∀ entry ∈ textSource environment, IsPlainKey entry.1 := by
  intro entry hentry
  obtain ⟨⟨name, text⟩, hmem, hsome⟩ := List.mem_filterMap.mp hentry
  obtain ⟨key, hkey, rfl⟩ := Option.map_eq_some_iff.mp hsome
  have hlower := (variable_key_eq_some_iff (hplain _ hmem)).mp hkey
  have hrest := hplain _ hmem (is_variable_of_toLower hlower)
  have hchars : key.toList = (name.toList.drop variableStart.length).map Char.toLower := by
    rw [List.map_drop, ← Text.toList_toLower, hlower, String.toList_append]
    rfl
  intro character hcharacter
  rw [hchars] at hcharacter
  obtain ⟨letter, hletter, rfl⟩ := List.mem_map.mp hcharacter
  exact is_path_character_toLower (hrest letter hletter)

/-- No two of them give values to one key. -/
theorem text_source_nodup (hvariables : PlainVariables environment) :
    ((textSource environment).map Prod.fst).Nodup := by
  rw [textSource, List.Nodup, List.pairwise_map, List.pairwise_filterMap]
  refine hvariables.distinct.imp_of_mem ?_
  rintro ⟨name, text⟩ ⟨otherName, otherText⟩ hmem hother hne given hgiven otherGiven hotherGiven heq
  obtain ⟨key, hkey, rfl⟩ := Option.map_eq_some_iff.mp hgiven
  obtain ⟨otherKey, hotherKey, rfl⟩ := Option.map_eq_some_iff.mp hotherGiven
  obtain rfl : key = otherKey := heq
  have hlower := (variable_key_eq_some_iff (hvariables.plain _ hmem)).mp hkey
  have hotherLower := (variable_key_eq_some_iff (hvariables.plain _ hother)).mp hotherKey
  exact hne (is_variable_of_toLower hlower) (is_variable_of_toLower hotherLower)
    (hlower.trans hotherLower.symm)

/-- A key that is not there yet comes behind the others. -/
theorem change_entry_of_not_mem {key : String} {entries : List (String × Value)}
    (hkey : key ∉ entries.map Prod.fst) (change : Value → Value) :
    changeEntry change key entries = entries ++ [(key, change .nil)] := by
  induction entries with
  | nil => rfl
  | cons entry entries ih =>
      rw [List.map_cons, List.mem_cons, not_or] at hkey
      rw [changeEntry, if_neg (Ne.symm hkey.1), ih hkey.2]
      rfl

/-- Where the keys are distinct, every value is the latest. -/
theorem latest_of_nodup {entries : List (String × Value)} (hkeys : (entries.map Prod.fst).Nodup) :
    latest entries = entries := by
  induction entries using List.reverseRecOn with
  | nil => rfl
  | append_singleton entries entry ih =>
      rw [List.map_append, List.nodup_append] at hkeys
      obtain ⟨hentries, -, hapart⟩ := hkeys
      have hentry : entry.1 ∉ entries.map Prod.fst :=
        fun hmem => hapart _ hmem _ List.mem_cons_self rfl
      rw [latest, List.foldl_append, ← latest, ih hentries]
      exact change_entry_of_not_mem hentry _

/-- The environment gives the keys of its variables their values, if all of them are texts and no two
are for one key. -/
theorem environment_source_of_texts (hvariables : PlainVariables environment) :
    environmentSource (.ofTexts environment) = .ok (textSource environment) := by
  have hentries : ∀ environment : List (String × String),
      (variableEntries (.ofTexts environment)).mapM variableEntry =
        .ok (textSource environment) := by
    intro environment
    induction environment with
    | nil => rfl
    | cons entry environment ih =>
        obtain ⟨name, text⟩ := entry
        rw [Environment.ofTexts, List.map_cons, ← Environment.ofTexts, variableEntries,
          List.filterMap_cons, text_source_cons]
        dsimp only
        cases variableKey? name with
        | none => exact ih
        | some key =>
            rw [Option.map_some, List.mapM_cons, ← variableEntries, ih]
            rfl
  rw [environmentSource, hentries]
  exact congrArg Except.ok (latest_of_nodup (text_source_nodup hvariables))

end DashboardGenerator.Settings
