import DashboardGenerator.Json.Printer
import DashboardGenerator.Json.Reader
import Mathlib.Data.List.Basic

/-!
# Tokens of a printed document

Both layouts of a document have the same tokens, those of `Json.tokens`: `tokens_compact` and
`tokens_indented`. Each lemma is stated for a printed piece in front of any text, so that the pieces
of a document can be put together; a number needs that no digit follows it. A string is one token
whatever it holds and whatever follows it (`tokens_quote`).
-/

namespace DashboardGenerator.Json

open Number

mutual

/-- The tokens of a value. -/
def tokens : Json → List Token
  | .null => [.null]
  | .bool value => [.bool value]
  | .number value => [.number value]
  | .string value => [.string value]
  | .array items => .leftBracket :: itemTokens items ++ [.rightBracket]
  | .object fields => .leftBrace :: fieldTokens fields ++ [.rightBrace]
termination_by structural value => value

/-- The tokens of elements, separated by commas. -/
def itemTokens : List Json → List Token
  | [] => []
  | [item] => item.tokens
  | item :: rest => item.tokens ++ .comma :: itemTokens rest
termination_by structural items => items

/-- The tokens of fields, separated by commas. -/
def fieldTokens : List (String × Json) → List Token
  | [] => []
  | [(key, value)] => .string key :: .colon :: value.tokens
  | (key, value) :: rest => .string key :: .colon :: value.tokens ++ .comma :: fieldTokens rest
termination_by structural fields => fields

end

/-! ## Single tokens -/

/-- A token is read from its first character on. -/
theorem tokens_cons {first : Char} {rest after : List Char} {token : Token}
    (hwhite : isWhite first = false) (hfrom : tokenFrom? first rest = some (token, after)) :
    tokens? (first :: rest) = (tokens? after).map (token :: ·) := by
  rw [tokens?, if_neg (by simp [hwhite])]
  split
  · next heq => cases hfrom.symm.trans heq; rfl
  · next heq => cases hfrom.symm.trans heq

/-- White space in front is skipped. -/
theorem tokens_white {white : List Char} (hwhite : ∀ character ∈ white, isWhite character = true)
    (rest : List Char) : tokens? (white ++ rest) = tokens? rest := by
  induction white with
  | nil => rfl
  | cons first white ih =>
      rw [List.cons_append, tokens?, if_pos (hwhite first (by simp))]
      exact ih fun character hmem => hwhite character (by simp [hmem])

theorem tokens_left_bracket (rest : List Char) :
    tokens? ('[' :: rest) = (tokens? rest).map (.leftBracket :: ·) :=
  tokens_cons rfl rfl

theorem tokens_right_bracket (rest : List Char) :
    tokens? (']' :: rest) = (tokens? rest).map (.rightBracket :: ·) :=
  tokens_cons rfl rfl

theorem tokens_left_brace (rest : List Char) :
    tokens? ('\x7b' :: rest) = (tokens? rest).map (.leftBrace :: ·) :=
  tokens_cons rfl rfl

theorem tokens_right_brace (rest : List Char) :
    tokens? ('\x7d' :: rest) = (tokens? rest).map (.rightBrace :: ·) :=
  tokens_cons rfl rfl

theorem tokens_comma (rest : List Char) :
    tokens? (',' :: rest) = (tokens? rest).map (.comma :: ·) :=
  tokens_cons rfl rfl

theorem tokens_colon (rest : List Char) :
    tokens? (':' :: rest) = (tokens? rest).map (.colon :: ·) :=
  tokens_cons rfl rfl

/-- A line break and its indentation are white space. -/
theorem tokens_line_break (depth : Nat) (rest : List Char) :
    tokens? (lineBreak depth ++ rest) = tokens? rest := by
  apply tokens_white
  intro character hmem
  rcases List.mem_cons.mp hmem with rfl | hspace
  · rfl
  · rw [List.eq_of_mem_replicate hspace]
    rfl

theorem tokens_space (rest : List Char) : tokens? (' ' :: rest) = tokens? rest := by
  rw [tokens?, if_pos (by decide)]

/-! ## Strings -/

/-- A control character is read back from its code unit. -/
theorem code_escape_control {character : Char} (hcontrol : character.toNat < 0x20)
    (rest : List Char) :
    codeEscape? ('0' :: '0' :: hexDigit (character.toNat / 16) ::
      hexDigit (character.toNat % 16) :: rest) = some (character, rest) := by
  have hfirst : hexValue? (hexDigit (character.toNat / 16)) = some (character.toNat / 16) :=
    hex_value_hex_digit (by omega)
  have hsecond : hexValue? (hexDigit (character.toNat % 16)) = some (character.toNat % 16) :=
    hex_value_hex_digit (by omega)
  have hzero : hexValue? '0' = some 0 := rfl
  have hcode : ((0 * 16 + 0) * 16 + character.toNat / 16) * 16 + character.toNat % 16 =
      character.toNat := by omega
  have hunit : unit? ('0' :: '0' :: hexDigit (character.toNat / 16) ::
      hexDigit (character.toNat % 16) :: rest) = some (character.toNat, rest) := by
    rw [unit?, hfirst, hsecond, hzero]
    exact congrArg (fun code => some (code, rest)) hcode
  rw [codeEscape?, hunit]
  show (if character.toNat < 0xD800 ∨ 0xDFFF < character.toNat then _ else _) = _
  rw [if_pos (Or.inl (by omega)), Char.ofNat_toNat]

/-- An escape behind its backslash is read as its character. -/
theorem body_escape {rest after : List Char} {character : Char}
    (hescape : escape? rest = some (character, after)) :
    body? ('\\' :: rest) =
      (body? after).map fun (value, beyond) => (character :: value, beyond) := by
  rw [body?]
  split
  · next heq => cases hescape.symm.trans heq; rfl
  · next heq => cases hescape.symm.trans heq

/-- One printed character of a string is read back, whatever follows it. -/
theorem body_escape_append (character : Char) (rest : List Char) :
    body? (escape character ++ rest) =
      (body? rest).map fun (value, beyond) => (character :: value, beyond) := by
  unfold escape
  -- The seven characters with a short escape come first.
  iterate 7
    split
    · next heq => subst heq; exact body_escape rfl
  split
  · next hcontrol => exact body_escape (code_escape_control hcontrol rest)
  · next hquote hbackslash _ _ _ _ _ hprintable =>
      rw [List.singleton_append, body?, if_pos (Nat.le_of_not_lt hprintable)]
      · exact hquote
      · exact hbackslash

/-- The printed characters of a string are read back up to its closing quote. -/
theorem body_escapes (text rest : List Char) :
    body? (text.flatMap escape ++ '"' :: rest) = some (text, rest) := by
  induction text with
  | nil => rw [List.flatMap_nil, List.nil_append, body?]
  | cons character text ih =>
      rw [List.flatMap_cons, List.append_assoc, body_escape_append, ih]
      rfl

/-- A printed string is one token, whatever it holds and whatever follows it. -/
theorem tokens_quote (text rest : List Char) :
    tokens? (quote text ++ rest) = (tokens? rest).map (.string (String.ofList text) :: ·) := by
  have hfrom : tokenFrom? '"' (text.flatMap escape ++ '"' :: rest) =
      some (.string (String.ofList text), rest) := by
    show (body? _).map _ = _
    rw [body_escapes]
    rfl
  simp only [quote, List.cons_append, List.append_assoc, List.nil_append]
  exact tokens_cons rfl hfrom

/-! ## Numbers -/

/-- The text does not go on with a digit. -/
def NoDigit (text : List Char) : Prop :=
  ∀ character ∈ text.head?, character.isDigit = false

@[simp] theorem no_digit_nil : NoDigit [] := by
  intro character hmem
  cases hmem

@[simp] theorem no_digit_cons {first : Char} {rest : List Char} :
    NoDigit (first :: rest) ↔ first.isDigit = false := by
  simp [NoDigit]

/-- The decimal digits of a number spell it. -/
theorem decimal_value_to_digits (value : Nat) : decimalValue (Nat.toDigits 10 value) = value := by
  have hfold := Nat.ofDigitChars_ten_toDigits (n := value)
  rwa [Nat.ofDigitChars_eq_foldl] at hfold

/-- The digits of a number other than zero do not start with a zero. -/
theorem head_to_digits_ne_zero (value : Nat) (hvalue : 0 < value) :
    (Nat.toDigits 10 value).head? ≠ some '0' := by
  by_cases hsmall : value < 10
  · rw [Nat.toDigits_of_lt_base hsmall]
    have hall : ∀ digit < 10, 0 < digit → Nat.digitChar digit ≠ '0' := by decide
    simpa using hall value hsmall hvalue
  · rw [Nat.toDigits_of_base_le (by decide) (Nat.le_of_not_lt hsmall),
      List.head?_append_of_ne_nil _ Nat.toDigits_ne_nil]
    exact head_to_digits_ne_zero (value / 10) (by omega)
termination_by value
decreasing_by omega

/-- The digits of a number are read back. -/
theorem number_to_digits (value : Nat) : number? (Nat.toDigits 10 value) = some value := by
  rw [number?, if_neg, decimal_value_to_digits]
  rintro ⟨hhead, hne⟩
  rcases Nat.eq_zero_or_pos value with rfl | hpos
  · exact hne (Nat.toDigits_zero 10)
  · exact head_to_digits_ne_zero value hpos hhead

/-- A digit starts a number. -/
theorem token_from_digit {first : Char} (hdigit : first.isDigit = true) (rest : List Char) :
    tokenFrom? first rest =
      (number? (first :: rest.takeWhile Char.isDigit)).map fun value =>
        (.number value, rest.dropWhile Char.isDigit) := by
  unfold tokenFrom?
  split
  case h_11 => rw [if_pos hdigit]
  all_goals exact absurd hdigit (by decide)

/-- No digit is white space. -/
theorem is_white_of_is_digit {character : Char} (hdigit : character.isDigit = true) :
    isWhite character = false := by
  simp only [isWhite, Bool.or_eq_false_iff, beq_eq_false_iff_ne, ne_eq]
  refine ⟨⟨⟨?_, ?_⟩, ?_⟩, ?_⟩ <;> (rintro rfl; exact absurd hdigit (by decide))

/-- A printed number is one token if no digit follows it. -/
theorem tokens_number (value : Nat) {rest : List Char} (hrest : NoDigit rest) :
    tokens? (Nat.toDigits 10 value ++ rest) = (tokens? rest).map (.number value :: ·) := by
  have hdigits : ∀ character ∈ Nat.toDigits 10 value, character.isDigit = true :=
    fun character hmem => Nat.isDigit_of_mem_toDigits (by decide) (by decide) hmem
  have hnumber := number_to_digits value
  cases hshape : Nat.toDigits 10 value with
  | nil => exact absurd hshape Nat.toDigits_ne_nil
  | cons first digits =>
      rw [hshape] at hdigits hnumber
      have hfirst := hdigits first (by simp)
      have hall : ∀ character ∈ digits, character.isDigit = true :=
        fun character hmem => hdigits character (by simp [hmem])
      -- A digit behind the number would be read as a part of it.
      have htake : (digits ++ rest).takeWhile Char.isDigit = digits := by
        rw [List.takeWhile_append_of_pos hall]
        cases rest with
        | nil => simp
        | cons next rest => simp [no_digit_cons.mp hrest]
      have hdrop : (digits ++ rest).dropWhile Char.isDigit = rest := by
        rw [List.dropWhile_append_of_pos hall]
        cases rest with
        | nil => simp
        | cons next rest => simp [no_digit_cons.mp hrest]
      rw [List.cons_append]
      refine tokens_cons (is_white_of_is_digit hfirst) ?_
      rw [token_from_digit hfirst, htake, hdrop, hnumber]
      rfl

/-! ## Whole documents -/

/-- A value without parts is one token. -/
theorem tokens_scalar (value : Json) {token : Token} (htoken : value.tokens = [token])
    {rest : List Char} (hrest : NoDigit rest) :
    tokens? (scalarText value ++ rest) = (tokens? rest).map (token :: ·) := by
  cases value with
  | null => cases htoken; exact tokens_cons rfl rfl
  | bool value => cases value <;> (cases htoken; exact tokens_cons rfl rfl)
  | number value => cases htoken; exact tokens_number value hrest
  | string value =>
      cases htoken
      rw [scalarText, tokens_quote, String.ofList_toList]
  | array items => simp [tokens] at htoken
  | object fields => simp [tokens] at htoken

mutual

/-- The compact layout of a value has the tokens of the value. -/
theorem tokens_compact : ∀ (value : Json) (rest : List Char), NoDigit rest →
    tokens? (value.compact ++ rest) = (tokens? rest).map (value.tokens ++ ·)
  | .null, _, hrest => tokens_scalar .null rfl hrest
  | .bool value, _, hrest => tokens_scalar (.bool value) rfl hrest
  | .number value, _, hrest => tokens_scalar (.number value) rfl hrest
  | .string value, _, hrest => tokens_scalar (.string value) rfl hrest
  | .array items, rest, _ => by
      simp only [compact, tokens, List.cons_append, List.append_assoc, List.nil_append,
        tokens_left_bracket, tokens_compact_items items (']' :: rest) (by simp),
        tokens_right_bracket, Option.map_map, Function.comp_def]
  | .object fields, rest, _ => by
      simp only [compact, tokens, List.cons_append, List.append_assoc, List.nil_append,
        tokens_left_brace, tokens_compact_fields fields ('\x7d' :: rest) (by simp),
        tokens_right_brace, Option.map_map, Function.comp_def]

/-- The compact layout of elements has their tokens. -/
theorem tokens_compact_items : ∀ (items : List Json) (rest : List Char), NoDigit rest →
    tokens? (compactItems items ++ rest) = (tokens? rest).map (itemTokens items ++ ·)
  | [], rest, _ => by simp [compactItems, itemTokens]
  | [item], rest, hrest => by rw [compactItems, itemTokens, tokens_compact item rest hrest]
  | item :: next :: items, rest, hrest => by
      simp only [compactItems, itemTokens, List.cons_append, List.append_assoc,
        tokens_compact item (',' :: (compactItems (next :: items) ++ rest)) (by simp),
        tokens_comma, tokens_compact_items (next :: items) rest hrest, Option.map_map,
        Function.comp_def]

/-- The compact layout of fields has their tokens. -/
theorem tokens_compact_fields : ∀ (fields : List (String × Json)) (rest : List Char),
    NoDigit rest →
    tokens? (compactFields fields ++ rest) = (tokens? rest).map (fieldTokens fields ++ ·)
  | [], rest, _ => by simp [compactFields, fieldTokens]
  | [(key, value)], rest, hrest => by
      simp only [compactFields, fieldTokens, List.append_assoc, List.cons_append, tokens_quote,
        tokens_colon, tokens_compact value rest hrest, Option.map_map, Function.comp_def,
        String.ofList_toList]
  | (key, value) :: next :: fields, rest, hrest => by
      simp only [compactFields, fieldTokens, List.append_assoc, List.cons_append, tokens_quote,
        tokens_colon,
        tokens_compact value (',' :: (compactFields (next :: fields) ++ rest)) (by simp),
        tokens_comma, tokens_compact_fields (next :: fields) rest hrest, Option.map_map,
        Function.comp_def, String.ofList_toList]

end

/-- A line break ends a number. -/
theorem no_digit_line_break (depth : Nat) (rest : List Char) :
    NoDigit (lineBreak depth ++ rest) := by
  rw [lineBreak, List.cons_append, no_digit_cons]
  rfl

mutual

/-- The indented layout of a value has the tokens of the value. -/
theorem tokens_indented : ∀ (depth : Nat) (value : Json) (rest : List Char), NoDigit rest →
    tokens? (value.indented depth ++ rest) = (tokens? rest).map (value.tokens ++ ·)
  | _, .null, _, hrest => tokens_scalar .null rfl hrest
  | _, .bool value, _, hrest => tokens_scalar (.bool value) rfl hrest
  | _, .number value, _, hrest => tokens_scalar (.number value) rfl hrest
  | _, .string value, _, hrest => tokens_scalar (.string value) rfl hrest
  | _, .array [], rest, _ => by
      simp only [indented, tokens, itemTokens, List.cons_append, List.nil_append,
        tokens_left_bracket, tokens_right_bracket, Option.map_map, Function.comp_def]
  | depth, .array (item :: items), rest, _ => by
      simp only [indented, tokens, List.cons_append, List.append_assoc, List.nil_append,
        tokens_left_bracket,
        tokens_indented_items (depth + 1) (item :: items) (lineBreak depth ++ ']' :: rest)
          (no_digit_line_break _ _),
        tokens_line_break, tokens_right_bracket, Option.map_map, Function.comp_def]
  | _, .object [], rest, _ => by
      simp only [indented, tokens, fieldTokens, List.cons_append, List.nil_append,
        tokens_left_brace, tokens_right_brace, Option.map_map, Function.comp_def]
  | depth, .object (field :: fields), rest, _ => by
      simp only [indented, tokens, List.cons_append, List.append_assoc, List.nil_append,
        tokens_left_brace,
        tokens_indented_fields (depth + 1) (field :: fields) (lineBreak depth ++ '\x7d' :: rest)
          (no_digit_line_break _ _),
        tokens_line_break, tokens_right_brace, Option.map_map, Function.comp_def]

/-- The indented layout of elements has their tokens. -/
theorem tokens_indented_items : ∀ (depth : Nat) (items : List Json) (rest : List Char),
    NoDigit rest →
    tokens? (indentedItems depth items ++ rest) = (tokens? rest).map (itemTokens items ++ ·)
  | _, [], rest, _ => by simp [indentedItems, itemTokens]
  | depth, [item], rest, hrest => by
      rw [indentedItems, itemTokens, List.append_assoc, tokens_line_break,
        tokens_indented depth item rest hrest]
  | depth, item :: next :: items, rest, hrest => by
      simp only [indentedItems, itemTokens, List.cons_append, List.append_assoc, tokens_line_break,
        tokens_indented depth item (',' :: (indentedItems depth (next :: items) ++ rest)) (by simp),
        tokens_comma, tokens_indented_items depth (next :: items) rest hrest, Option.map_map,
        Function.comp_def]

/-- The indented layout of fields has their tokens. -/
theorem tokens_indented_fields : ∀ (depth : Nat) (fields : List (String × Json))
    (rest : List Char), NoDigit rest →
    tokens? (indentedFields depth fields ++ rest) = (tokens? rest).map (fieldTokens fields ++ ·)
  | _, [], rest, _ => by simp [indentedFields, fieldTokens]
  | depth, [(key, value)], rest, hrest => by
      simp only [indentedFields, fieldTokens, List.append_assoc, List.cons_append,
        tokens_line_break, tokens_quote, tokens_colon, tokens_space,
        tokens_indented depth value rest hrest, Option.map_map, Function.comp_def,
        String.ofList_toList]
  | depth, (key, value) :: next :: fields, rest, hrest => by
      simp only [indentedFields, fieldTokens, List.append_assoc, List.cons_append,
        tokens_line_break, tokens_quote, tokens_colon, tokens_space,
        tokens_indented depth value (',' :: (indentedFields depth (next :: fields) ++ rest))
          (by simp),
        tokens_comma, tokens_indented_fields depth (next :: fields) rest hrest, Option.map_map,
        Function.comp_def, String.ofList_toList]

end

/-- Both layouts of a document have the tokens of the document. -/
theorem tokens_text (value : Json) (pretty : Bool) :
    tokens? (value.text pretty).toList = some value.tokens := by
  have hnil : tokens? [] = some [] := by rw [tokens?]
  cases pretty with
  | false =>
      have hlayout := tokens_compact value [] no_digit_nil
      simpa [text, hnil] using hlayout
  | true =>
      have hlayout := tokens_indented 0 value [] no_digit_nil
      simpa [text, hnil] using hlayout

end DashboardGenerator.Json
