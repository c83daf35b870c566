import DashboardGenerator.Dashboard.Placeholder
import DashboardGenerator.Proofs.Dashboard.FirstAppearance
import Mathlib.Data.List.Infix
import Mathlib.Data.List.TakeWhile
import Mathlib.Logic.ExistsUnique

/-!
# The grammar of placeholders

`Decomposes tokens text` says what it is for a list of tokens to be a reading of an expression: the
pieces of the tokens join to the text, and every token fits the text after it, so that no closing
mark is passed over, no run of name characters is cut short and nothing that opens a placeholder is
taken for an ordinary character. The relation does not mention the scanner.
`scan_text_append` is the step of the scanner over one token and `decomposes_iff` says that the
scanner finds the one decomposition there is. `referenced_variables_grammar` adds what the
decomposition says about the referenced variables.
-/

namespace DashboardGenerator.Placeholder

/-- The piece of an expression that a token stands for. -/
def Token.text : Token → List Char
  | .plain character => [character]
  | .bracket => ['[']
  | .brackets body => '[' :: '[' :: body ++ [']', ']']
  | .openBrackets => ['[', '[']
  | .braces body => '$' :: '{' :: body ++ ['}']
  | .openBraces => ['$', '{']
  | .dollar run => '$' :: run

/-- The text of tokens in a row. -/
def textOf (tokens : List Token) : List Char := tokens.flatMap Token.text

@[simp] theorem text_of_nil : textOf [] = [] := rfl

@[simp] theorem text_of_cons (token : Token) (rest : List Token) :
    textOf (token :: rest) = token.text ++ textOf rest := rfl

@[simp] theorem text_of_append (tokens rest : List Token) :
    textOf (tokens ++ rest) = textOf tokens ++ textOf rest :=
  List.flatMap_append

/-- A letter or a digit of ASCII, or the underscore. -/
def IsNameLetter (character : Char) : Prop :=
  ('a' ≤ character ∧ character ≤ 'z') ∨ ('A' ≤ character ∧ character ≤ 'Z') ∨
    ('0' ≤ character ∧ character ≤ '9') ∨ character = '_'

/-- A name that a template of the user may carry: not empty, of name letters only, and without two
underscores in front. -/
def IsUserName (name : List Char) : Prop :=
  name ≠ [] ∧ (∀ character ∈ name, IsNameLetter character) ∧ ¬ ['_', '_'] <+: name

/-- In `body ++ mark ++ after` the mark does not occur before the end of the body. -/
def EndsAtFirst (mark body after : List Char) : Prop :=
  ∀ before beyond, body ++ mark ++ after = before ++ mark ++ beyond →
    body.length ≤ before.length

/-- The token may stand in front of the text. -/
def Token.Fits : Token → List Char → Prop
  | .plain character, _ => character ≠ '[' ∧ character ≠ '$'
  | .bracket, after => after.head? ≠ some '['
  | .brackets body, after => EndsAtFirst [']', ']'] body after
  | .openBrackets, after => ¬ [']', ']'] <:+: after
  | .braces body, after => EndsAtFirst ['}'] body after
  | .openBraces, after => ¬ ['}'] <:+: after
  | .dollar run, after =>
      (run ++ after).head? ≠ some '{' ∧ (∀ character ∈ run, IsNameLetter character) ∧
        ∀ character ∈ after.head?, ¬ IsNameLetter character

/-- Every token fits the text of those after it. -/
def WellPlaced : List Token → Prop
  | [] => True
  | token :: rest => token.Fits (textOf rest) ∧ WellPlaced rest

/-- The tokens are a reading of the text. -/
structure Decomposes (tokens : List Token) (text : List Char) : Prop where
  text_eq : textOf tokens = text
  placed : WellPlaced tokens

/-- The name that a token offers, told apart by its syntax. -/
inductive Token.Offers : Token → List Char → Prop where
  | brackets (name) : Offers (.brackets name) name
  | braces (name) : ':' ∉ name → Offers (.braces name) name
  | format (name format) : ':' ∉ name → Offers (.braces (name ++ ':' :: format)) name
  | dollar (name) : Offers (.dollar name) name

/-! ## Names -/

/-- The scanner's test for name characters accepts the name letters. -/
theorem is_name_character_iff (character : Char) :
    isNameCharacter character = true ↔ IsNameLetter character := by
  have halpha : character.isAlpha = (character.isUpper || character.isLower) := rfl
  have hupper : character.isUpper =
      decide (character.val ≥ 'A'.val ∧ character.val ≤ 'Z'.val) := rfl
  have hlower : character.isLower =
      (decide (character.val ≥ 'a'.val) && decide (character.val ≤ 'z'.val)) := rfl
  simp only [isNameCharacter, Char.isAlphanum, halpha, hupper, hlower, Char.isDigit, IsNameLetter,
    Bool.or_eq_true, Bool.and_eq_true, decide_eq_true_eq, beq_iff_eq, ge_iff_le, Char.le_def]
  tauto

/-- The scanner's test for variable names accepts the names of the user. -/
theorem is_variable_name_iff (name : List Char) :
    isVariableName name = true ↔ IsUserName name := by
  have hprefix : (['_', '_'].isPrefixOf name = false) ↔ ¬ ['_', '_'] <+: name := by
    rw [← List.isPrefixOf_iff_prefix, Bool.not_eq_true]
  simp only [isVariableName, IsUserName, Bool.and_eq_true, List.all_eq_true,
    is_name_character_iff, Bool.not_eq_eq_eq_not, Bool.not_true, List.isEmpty_eq_false_iff,
    hprefix, ne_eq, and_assoc]

/-- Cutting a braced body at its first colon leaves the name in front of it. -/
theorem takeWhile_colon (name format : List Char) (hname : ':' ∉ name) :
    (name ++ ':' :: format).takeWhile (· != ':') = name := by
  rw [List.takeWhile_append_of_pos fun character hmem => by
    simpa using fun heq : character = ':' => hname (heq ▸ hmem)]
  simp

/-- The candidate of a token is the name that it offers. -/
theorem candidate_eq_some_iff (token : Token) (name : List Char) :
    token.candidate = some name ↔ token.Offers name := by
  constructor
  · intro hcandidate
    cases token with
    | brackets body =>
        obtain rfl := Option.some.inj hcandidate
        exact .brackets body
    | braces body =>
        -- A body with a colon is a name and a format, and one without is a name.
        obtain rfl := Option.some.inj hcandidate
        have hname : ':' ∉ body.takeWhile (· != ':') := fun hmem => by
          simpa using List.mem_takeWhile_imp hmem
        cases hrest : body.dropWhile (· != ':') with
        | nil =>
            have hbody := List.takeWhile_append_dropWhile (p := (· != ':')) (l := body)
            rw [hrest, List.append_nil] at hbody
            rw [hbody] at hname ⊢
            exact .braces body hname
        | cons colon format =>
            obtain rfl : colon = ':' := by
              simpa [hrest] using List.head?_dropWhile_not (· != ':') body
            have hbody := List.takeWhile_append_dropWhile (p := (· != ':')) (l := body)
            rw [hrest] at hbody
            have hoffers := Token.Offers.format (body.takeWhile (· != ':')) format hname
            rwa [hbody] at hoffers
    | dollar run =>
        obtain rfl := Option.some.inj hcandidate
        exact .dollar run
    | plain | bracket | openBrackets | openBraces => cases hcandidate
  · intro hoffers
    cases hoffers with
    | brackets | dollar => rfl
    | braces _ hname =>
        rw [Token.candidate, List.takeWhile_eq_self_iff.mpr fun character hmem => by
          simpa using fun heq : character = ':' => hname (heq ▸ hmem)]
    | format _ format hname => rw [Token.candidate, takeWhile_colon name format hname]

/-! ## Splitting at the first mark -/

/-- A text is split at the first place of a mark in one way only. -/
theorem EndsAtFirst.unique {mark body after other beyond : List Char}
    (hbody : EndsAtFirst mark body after) (hother : EndsAtFirst mark other beyond)
    (heq : body ++ mark ++ after = other ++ mark ++ beyond) : body = other ∧ after = beyond := by
  have hlength : body.length = other.length :=
    Nat.le_antisymm (hbody _ _ heq) (hother _ _ heq.symm)
  rw [List.append_assoc, List.append_assoc] at heq
  obtain ⟨rfl, hrest⟩ := List.append_inj heq hlength
  exact ⟨rfl, List.append_cancel_left hrest⟩

/-- The function splits a text at the first place of the mark, or finds that there is none. -/
structure SplitsAt (mark : List Char)
    (split : List Char → Option (List Char × List Char)) : Prop where
  sound : ∀ {text body after}, split text = some (body, after) →
    text = body ++ mark ++ after ∧ EndsAtFirst mark body after
  absent : ∀ {text}, split text = none → ¬ mark <:+: text

namespace SplitsAt

variable {mark : List Char} {split : List Char → Option (List Char × List Char)}

/-- A text that holds its mark first behind the body is split there. -/
theorem found (hsplit : SplitsAt mark split) {body after : List Char}
    (hfirst : EndsAtFirst mark body after) :
    split (body ++ mark ++ after) = some (body, after) := by
  cases hresult : split (body ++ mark ++ after) with
  | none => exact absurd ⟨body, after, rfl⟩ (hsplit.absent hresult)
  | some parts =>
      obtain ⟨heq, hother⟩ := hsplit.sound hresult
      obtain ⟨rfl, rfl⟩ := hfirst.unique hother heq
      rfl

/-- A text without the mark is not split. -/
theorem missed (hsplit : SplitsAt mark split) {text : List Char} (habsent : ¬ mark <:+: text) :
    split text = none := by
  cases hresult : split text with
  | none => rfl
  | some parts =>
      obtain ⟨heq, -⟩ := hsplit.sound hresult
      exact absurd ⟨parts.1, parts.2, heq.symm⟩ habsent

end SplitsAt

/-- One more character in front moves the first place of the mark, unless the mark starts there. -/
theorem EndsAtFirst.cons {mark body after : List Char} {character : Char}
    (hfirst : EndsAtFirst mark body after)
    (hhere : ¬ mark <+: character :: (body ++ mark ++ after)) :
    EndsAtFirst mark (character :: body) after := by
  intro before beyond heq
  -- Another place of the mark is either here, which is excluded, or one behind `body`'s own.
  cases before with
  | nil => exact absurd ⟨beyond, heq.symm⟩ hhere
  | cons head before =>
      rw [List.cons_append, List.cons_append, List.cons_append, List.cons_append] at heq
      exact Nat.succ_le_succ (hfirst before beyond (List.cons.inj heq).2)

/-- Two closing brackets end a bracketed body. -/
theorem split_brackets_splits : SplitsAt [']', ']'] splitBrackets where
  sound {text body after} hsplit := by
    fun_induction splitBrackets text generalizing body after with
    | case1 => cases hsplit
    | case2 rest =>
        cases hsplit
        exact ⟨rfl, fun _ _ _ => Nat.zero_le _⟩
    | case3 character rest hnot ih =>
        obtain ⟨⟨inner, remaining⟩, hinner, heq⟩ := Option.map_eq_some_iff.mp hsplit
        cases heq
        obtain ⟨rfl, hfirst⟩ := ih hinner
        refine ⟨rfl, hfirst.cons ?_⟩
        rintro ⟨beyond, heq⟩
        obtain ⟨rfl, htail⟩ := List.cons.inj heq
        exact hnot beyond rfl htail.symm
  absent {text} hsplit := by
    fun_induction splitBrackets text with
    | case1 => simp
    | case2 => cases hsplit
    | case3 character rest hnot ih =>
        rw [List.infix_cons_iff]
        rintro (⟨beyond, heq⟩ | hinfix)
        · obtain ⟨rfl, htail⟩ := List.cons.inj heq
          exact hnot beyond rfl htail.symm
        · exact ih (Option.map_eq_none_iff.mp hsplit) hinfix

/-- A closing brace ends a braced body. -/
theorem split_brace_splits : SplitsAt ['}'] splitBrace where
  sound {text body after} hsplit := by
    fun_induction splitBrace text generalizing body after with
    | case1 => cases hsplit
    | case2 rest =>
        cases hsplit
        exact ⟨rfl, fun _ _ _ => Nat.zero_le _⟩
    | case3 character rest hnot ih =>
        obtain ⟨⟨inner, remaining⟩, hinner, heq⟩ := Option.map_eq_some_iff.mp hsplit
        cases heq
        obtain ⟨rfl, hfirst⟩ := ih hinner
        refine ⟨rfl, hfirst.cons ?_⟩
        rintro ⟨beyond, heq⟩
        exact hnot (List.cons.inj heq).1.symm
  absent {text} hsplit := by
    fun_induction splitBrace text with
    | case1 => simp
    | case2 => cases hsplit
    | case3 character rest hnot ih =>
        rw [List.infix_cons_iff]
        rintro (⟨beyond, heq⟩ | hinfix)
        · exact hnot (List.cons.inj heq).1.symm
        · exact ih (Option.map_eq_none_iff.mp hsplit) hinfix

/-! ## The scanner finds the decomposition -/

/-- The run behind a dollar sign is as long as it can be. -/
theorem takeWhile_run {run after : List Char}
    (hrun : ∀ character ∈ run, IsNameLetter character)
    (hafter : ∀ character ∈ after.head?, ¬ IsNameLetter character) :
    (run ++ after).takeWhile isNameCharacter = run ∧
      (run ++ after).dropWhile isNameCharacter = after := by
  have hall : ∀ character ∈ run, isNameCharacter character = true := fun character hmem =>
    (is_name_character_iff character).mpr (hrun character hmem)
  rw [List.takeWhile_append_of_pos hall, List.dropWhile_append_of_pos hall]
  cases after with
  | nil => simp
  | cons head rest =>
      have hhead : ¬ isNameCharacter head = true := fun htrue =>
        hafter head rfl ((is_name_character_iff head).mp htrue)
      simp [hhead]

/-- One step of the scanner: a token in front of a text that it fits is read as it is, and the
scanner goes on with the text. -/
theorem scan_text_append {token : Token} {after : List Char} (hfits : token.Fits after) :
    scan (token.text ++ after) = token :: scan after := by
  -- What stands behind a token decides on the branch of the scanner, and `Fits` says what it is.
  cases token with
  | plain character =>
      obtain ⟨hbracket, hdollar⟩ := hfits
      exact scan.eq_6 character after (fun _ h _ => hbracket h) hbracket (fun _ h _ => hdollar h)
        hdollar
  | bracket => exact scan.eq_3 after fun rest heq => hfits (by rw [heq, List.head?_cons])
  | brackets body =>
      have hsplit := split_brackets_splits.found hfits
      show scan ('[' :: '[' :: (body ++ [']', ']'] ++ after)) = _
      rw [scan.eq_2]
      split
      · next heq => cases hsplit.symm.trans heq; rfl
      · next heq => cases hsplit.symm.trans heq
  | openBrackets =>
      have hsplit := split_brackets_splits.missed hfits
      show scan ('[' :: '[' :: after) = _
      rw [scan.eq_2]
      split
      · next heq => cases hsplit.symm.trans heq
      · rfl
  | braces body =>
      have hsplit := split_brace_splits.found hfits
      show scan ('$' :: '{' :: (body ++ ['}'] ++ after)) = _
      rw [scan.eq_4]
      split
      · next heq => cases hsplit.symm.trans heq; rfl
      · next heq => cases hsplit.symm.trans heq
  | openBraces =>
      have hsplit := split_brace_splits.missed hfits
      show scan ('$' :: '{' :: after) = _
      rw [scan.eq_4]
      split
      · next heq => cases hsplit.symm.trans heq
      · rfl
  | dollar run =>
      obtain ⟨hbrace, hrun, hafter⟩ := hfits
      obtain ⟨htake, hdrop⟩ := takeWhile_run hrun hafter
      show scan ('$' :: (run ++ after)) = _
      rw [scan.eq_5 _ fun rest heq => hbrace (by rw [heq, List.head?_cons]), htake, hdrop]

/-- A decomposition is what the scanner finds. -/
theorem scan_text_of {tokens : List Token} (hplaced : WellPlaced tokens) :
    scan (textOf tokens) = tokens := by
  induction tokens with
  | nil => exact scan.eq_1
  | cons token rest ih =>
      rw [text_of_cons, scan_text_append hplaced.1]
      exact congrArg (token :: ·) (ih hplaced.2)

/-- What follows a longest run does not start with a name letter. -/
theorem head_dropWhile_not_name_letter (text : List Char) :
    ∀ character ∈ (text.dropWhile isNameCharacter).head?, ¬ IsNameLetter character := by
  intro character hhead hname
  have hnot := List.head?_dropWhile_not isNameCharacter text
  rw [Option.mem_def.mp hhead] at hnot
  simp [(is_name_character_iff character).mpr hname] at hnot

/-- The scanner finds a decomposition of every text. -/
theorem scan_decomposes (text : List Char) : Decomposes (scan text) text := by
  -- The cases are the branches of the scanner; the text behind each token is covered by `ih`.
  fun_induction scan text with
  | case1 => exact ⟨rfl, trivial⟩
  | case2 rest body after hsplit ih =>
      obtain ⟨rfl, hfirst⟩ := split_brackets_splits.sound hsplit
      refine ⟨?_, by rw [ih.text_eq]; exact hfirst, ih.placed⟩
      rw [text_of_cons, ih.text_eq]
      rfl
  | case3 rest hsplit ih =>
      refine ⟨?_, by rw [ih.text_eq]; exact split_brackets_splits.absent hsplit, ih.placed⟩
      rw [text_of_cons, ih.text_eq]
      rfl
  | case4 rest hnot ih =>
      refine ⟨?_, ?_, ih.placed⟩
      · rw [text_of_cons, ih.text_eq]
        rfl
      · rw [ih.text_eq]
        intro hhead
        obtain ⟨tail, heq⟩ := List.head?_eq_some_iff.mp hhead
        exact hnot tail heq
  | case5 rest body after hsplit ih =>
      obtain ⟨rfl, hfirst⟩ := split_brace_splits.sound hsplit
      refine ⟨?_, by rw [ih.text_eq]; exact hfirst, ih.placed⟩
      rw [text_of_cons, ih.text_eq]
      rfl
  | case6 rest hsplit ih =>
      refine ⟨?_, by rw [ih.text_eq]; exact split_brace_splits.absent hsplit, ih.placed⟩
      rw [text_of_cons, ih.text_eq]
      rfl
  | case7 rest hnot ih =>
      refine ⟨?_, ⟨?_, ?_, ?_⟩, ih.placed⟩
      · rw [text_of_cons, ih.text_eq]
        simp [Token.text]
      · rw [ih.text_eq, List.takeWhile_append_dropWhile]
        intro hhead
        obtain ⟨tail, heq⟩ := List.head?_eq_some_iff.mp hhead
        exact hnot tail heq
      · exact fun character hmem =>
          (is_name_character_iff character).mp (List.mem_takeWhile_imp hmem)
      · rw [ih.text_eq]
        exact head_dropWhile_not_name_letter rest
  | case8 character rest _ hbracket _ hdollar ih =>
      refine ⟨?_, ⟨hbracket, hdollar⟩, ih.placed⟩
      rw [text_of_cons, ih.text_eq]
      rfl

/-- The scanner's tokens are the only decomposition of a text. -/
theorem decomposes_iff {tokens : List Token} {text : List Char} :
    Decomposes tokens text ↔ tokens = scan text := by
  constructor
  · rintro ⟨rfl, hplaced⟩
    exact (scan_text_of hplaced).symm
  · rintro rfl
    exact scan_decomposes text

/-! ## Referenced variables -/

/-- The names of tokens are their candidates that are names of the user, by first appearance. -/
theorem names_of_lists_first (tokens : List Token) :
    ListsFirst IsUserName (tokens.filterMap Token.candidate) (namesOf tokens) :=
  eraseDups_lists_first is_variable_name_iff _

/-- A name is among the names of tokens if some token offers it and it is a name of the user. -/
theorem mem_names_of_iff {tokens : List Token} {name : List Char} :
    name ∈ namesOf tokens ↔ (∃ token ∈ tokens, token.Offers name) ∧ IsUserName name := by
  simp only [(names_of_lists_first tokens).mem_iff, List.mem_filterMap, candidate_eq_some_iff]

/-- The referenced variables are the names of the scanner's tokens. -/
theorem toList_referenced_variables (expression : String) :
    (referencedVariables expression).map String.toList = namesOf (scan expression.toList) := by
  simp [referencedVariables, Function.comp_def]

/-- Every expression decomposes in exactly one way. Its referenced variables are the names that the
tokens offer, as far as they are names of the user, each once and in order of first appearance: no
other name is returned, each one stands in the expression as a placeholder, and none that a token
offers is missed. -/
theorem referenced_variables_grammar (expression : String) :
    (∃! tokens, Decomposes tokens expression.toList) ∧
      ∀ tokens, Decomposes tokens expression.toList →
        ListsFirst IsUserName (tokens.filterMap Token.candidate)
          ((referencedVariables expression).map String.toList) ∧
        (∀ name ∈ referencedVariables expression, IsUserName name.toList ∧
          ∃ before token after, tokens = before ++ token :: after ∧
            expression.toList = textOf before ++ token.text ++ textOf after ∧
            token.Offers name.toList) ∧
        ∀ before token after name, tokens = before ++ token :: after → token.Offers name →
          IsUserName name → String.ofList name ∈ referencedVariables expression := by
  refine ⟨⟨scan expression.toList, scan_decomposes _, fun _ h => decomposes_iff.mp h⟩, ?_⟩
  intro tokens hdecomposes
  have htext := hdecomposes.text_eq
  obtain rfl := decomposes_iff.mp hdecomposes
  have hnames := toList_referenced_variables expression
  refine ⟨by rw [hnames]; exact names_of_lists_first _, ?_, ?_⟩
  · intro name hname
    have hmem : name.toList ∈ namesOf (scan expression.toList) :=
      hnames ▸ List.mem_map_of_mem hname
    obtain ⟨⟨token, htoken, hoffers⟩, huser⟩ := mem_names_of_iff.mp hmem
    obtain ⟨before, after, hsplit⟩ := List.append_of_mem htoken
    refine ⟨huser, before, token, after, hsplit, ?_, hoffers⟩
    rw [hsplit] at htext
    rw [← htext, text_of_append, text_of_cons, List.append_assoc]
  · intro before token after name hsplit hoffers huser
    have hmem : name ∈ namesOf (scan expression.toList) :=
      mem_names_of_iff.mpr ⟨⟨token, by rw [hsplit]; simp, hoffers⟩, huser⟩
    exact List.mem_map_of_mem hmem

/-- A bracket inside brackets, a format and a reserved name: one user variable is left of each. -/
example : referencedVariables "[[[a]] $$b $\x7bc:[[d]]\x7d $__interval [[c]] $\x7b" = ["b", "c"] := by
  decide +kernel

end DashboardGenerator.Placeholder
