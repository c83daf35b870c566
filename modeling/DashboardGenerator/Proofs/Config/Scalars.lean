import DashboardGenerator.Config.Assign
import DashboardGenerator.Config.Read
import DashboardGenerator.Proofs.Text.Lowercase

/-!
# Texts and truth values

What values are read as a text (`GivesText`) and what values as a truth value (`GivesTruth`). Neither
depends on what the value was set over in the configuration (`gives_text_merge`,
`gives_truth_merge`).
-/

namespace DashboardGenerator.Config

/-- Every scalar gives a text, and nothing else does. -/
inductive GivesText : Value → String → Prop
  | scalar (origin : Origin) (value : Scalar) : GivesText (.scalar origin value) value.text

/-- Truth values, numbers and eight words in any case give a truth value, and nothing else does. -/
inductive GivesTruth : Value → Bool → Prop
  | boolean (origin : Origin) (value : Bool) : GivesTruth (.scalar origin (.boolean value)) value
  | integer (origin : Origin) (value : Int) :
      GivesTruth (.scalar origin (.integer value)) (value != 0)
  | float (origin : Origin) (value : Binary64) :
      GivesTruth (.scalar origin (.float value)) (!value.isZero)
  | yes (origin : Origin) {text : String} (hword : text.toLower ∈ ["1", "true", "on", "yes"]) :
      GivesTruth (.scalar origin (.string text)) true
  | no (origin : Origin) {text : String} (hword : text.toLower ∈ ["0", "false", "off", "no"]) :
      GivesTruth (.scalar origin (.string text)) false

/-- A text is read from what gives one. -/
theorem read_string_eq_ok_iff {order : Order} {value : Value} {text : String} :
    readString order value = .ok text ↔ GivesText value text := by
  constructor
  · intro hread
    cases value with
    | scalar origin value => cases hread; exact .scalar origin value
    | nil | array | table => cases hread
  · rintro ⟨origin, value⟩
    rfl

/-- Letters outside of ASCII make no word with a truth value. -/
theorem word_truth_lowercase (text : String) :
    wordTruth? (Text.lowercase text) = wordTruth? text.toLower := by
  have hwords : ∀ words : List String,
      (∀ word ∈ words, Text.AllPlainLower word.toList) →
      (Text.lowercase text ∈ words ↔ text.toLower ∈ words) := by
    intro words hplain
    constructor
    · exact fun hmem => (Text.lowercase_eq_iff (hplain _ hmem)).mp rfl ▸ hmem
    · exact fun hmem => (Text.lowercase_eq_iff (hplain _ hmem)).mpr rfl ▸ hmem
  rw [wordTruth?, wordTruth?]
  simp only [hwords ["1", "true", "on", "yes"] (by decide),
    hwords ["0", "false", "off", "no"] (by decide)]

/-- A truth value is read from what gives one. -/
theorem read_boolean_eq_ok_iff {order : Order} {value : Value} {truth : Bool} :
    readBoolean order value = .ok truth ↔ GivesTruth value truth := by
  constructor
  · intro hread
    cases value with
    | nil | array | table => cases hread
    | scalar origin value =>
        cases value with
        | boolean value => cases hread; exact .boolean origin truth
        | integer value => cases hread; exact .integer origin value
        | float value => cases hread; exact .float origin value
        | string text =>
            rw [readBoolean, word_truth_lowercase, wordTruth?] at hread
            by_cases hyes : text.toLower ∈ ["1", "true", "on", "yes"]
            · rw [if_pos hyes] at hread
              cases hread
              exact .yes origin hyes
            rw [if_neg hyes] at hread
            by_cases hno : text.toLower ∈ ["0", "false", "off", "no"]
            · rw [if_pos hno] at hread
              cases hread
              exact .no origin hno
            · rw [if_neg hno] at hread
              cases hread
  · intro hgives
    cases hgives with
    | boolean | integer | float => rfl
    | yes origin hyes => rw [readBoolean, word_truth_lowercase, wordTruth?, if_pos hyes]
    | @no origin text hno =>
        have hyes : text.toLower ∉ ["1", "true", "on", "yes"] := by
          simp only [List.mem_cons, List.not_mem_nil, or_false] at hno
          rcases hno with heq | heq | heq | heq <;> simp [heq]
        rw [readBoolean, word_truth_lowercase, wordTruth?, if_neg hyes, if_pos hno]

/-- Setting a value over another changes nothing in what text it gives. -/
theorem gives_text_merge {old value : Value} {text : String} :
    GivesText (old.merge value) text ↔ GivesText value text := by
  cases value with
  | nil | scalar | array => rfl
  | table entries => exact ⟨nofun, nofun⟩

/-- Setting a value over another changes nothing in what truth value it gives. -/
theorem gives_truth_merge {old value : Value} {truth : Bool} :
    GivesTruth (old.merge value) truth ↔ GivesTruth value truth := by
  cases value with
  | nil | scalar | array => rfl
  | table entries => exact ⟨nofun, nofun⟩

/-- What an optional value gives stays if what the value gives does. -/
theorem rel_map_merge {α : Type} {gives : Value → α → Prop} {old : Value}
    (hmerge : ∀ {value result}, gives (old.merge value) result ↔ gives value result)
    {value : Option Value} {result : Option α} :
    Option.Rel gives (value.map old.merge) result ↔ Option.Rel gives value result := by
  cases value <;> cases result <;> simp [hmerge]

/-- An optional value gives something, or that it is missing, unless it is there and gives nothing. -/
theorem exists_rel_iff {α : Type} {gives : Value → α → Prop} {value : Option Value} :
    (∃ result, Option.Rel gives value result) ↔
      ∀ found, value = some found → ∃ result, gives found result := by
  cases value with
  | none => exact ⟨fun _ => nofun, fun _ => ⟨none, .none⟩⟩
  | some value =>
      constructor
      · rintro ⟨result, hresult⟩ found ⟨⟩
        cases hresult with
        | some hgives => exact ⟨_, hgives⟩
      · intro hfound
        obtain ⟨result, hgives⟩ := hfound value rfl
        exact ⟨some result, .some hgives⟩

/-- Setting a value never leaves nothing. -/
theorem merge_ne_nil {old value : Value} (hvalue : value ≠ .nil) : old.merge value ≠ .nil := by
  cases value with
  | nil => exact absurd rfl hvalue
  | scalar | array | table => exact nofun

end DashboardGenerator.Config
