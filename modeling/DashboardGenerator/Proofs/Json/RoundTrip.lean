import DashboardGenerator.Proofs.Json.Lexing

/-!
# Reading a printed document

`run_tokens` is the step of the reader over one value: wherever a value may come, the tokens of a
value lead to the state behind it. It gives `parse_text`, that both layouts of a document are well
formed and spell the document.
-/

namespace DashboardGenerator.Json

namespace Reader

/-- Reading tokens in a row is reading the first part and then the second. -/
theorem run_append (reader : Reader) (tokens rest : List Token) :
    reader.run? (tokens ++ rest) = (reader.run? tokens).bind (·.run? rest) :=
  List.foldlM_append

theorem run_cons (reader : Reader) (token : Token) (rest : List Token) :
    reader.run? (token :: rest) = (reader.step? token).bind (·.run? rest) :=
  List.foldlM_cons

@[simp] theorem run_nil (reader : Reader) : reader.run? [] = some reader := rfl

/-- A value may come at the place. -/
def TakesValue (position : Position) : Prop :=
  position = .value ∨ position = .firstItem

/-- Where a value may come, a token that is no closing bracket is read as the start of a value. -/
theorem step_value {position : Position} (hposition : TakesValue position) (frames : List Frame)
    {token : Token} (htoken : token ≠ .rightBracket) :
    step? ⟨frames, position⟩ token = value? frames token := by
  rcases hposition with rfl | rfl
  · rfl
  · cases token <;> first | rfl | exact absurd rfl htoken

/-- A value of one token is read by one step. -/
theorem run_scalar {position : Position} (hposition : TakesValue position) {frames : List Frame}
    {token : Token} {value : Json} (htoken : token ≠ .rightBracket)
    (hvalue : value? frames token = some (after value frames)) :
    run? ⟨frames, position⟩ [token] = some (after value frames) := by
  rw [run_cons, step_value hposition frames htoken, hvalue]
  rfl

theorem item_tokens_cons (item next : Json) (items : List Json) :
    itemTokens (item :: next :: items) = item.tokens ++ .comma :: itemTokens (next :: items) :=
  rfl

theorem field_tokens_cons (key : String) (value : Json) (next : String × Json)
    (fields : List (String × Json)) :
    fieldTokens ((key, value) :: next :: fields) =
      .string key :: .colon :: (value.tokens ++ .comma :: fieldTokens (next :: fields)) :=
  rfl

mutual

/-- Wherever a value may come, the tokens of a value lead to the state behind it. -/
theorem run_tokens : ∀ (value : Json) (frames : List Frame) (position : Position),
    TakesValue position → run? ⟨frames, position⟩ value.tokens = some (after value frames)
  | .null, _, _, hposition => run_scalar hposition Token.noConfusion rfl
  | .bool _, _, _, hposition => run_scalar hposition Token.noConfusion rfl
  | .number _, _, _, hposition => run_scalar hposition Token.noConfusion rfl
  | .string _, _, _, hposition => run_scalar hposition Token.noConfusion rfl
  | .array [], frames, position, hposition => by
      rw [tokens, List.cons_append, run_cons, step_value hposition frames Token.noConfusion]
      rfl
  | .array (item :: items), frames, position, hposition => by
      rw [tokens, List.cons_append, run_cons, step_value hposition frames Token.noConfusion]
      show run? ⟨.array [] :: frames, .firstItem⟩ (itemTokens (item :: items) ++ [.rightBracket]) = _
      rw [run_append, run_item_tokens (item :: items) [] frames .firstItem (by simp) (.inr rfl)]
      show some (after (.array ((item :: items).reverse ++ []).reverse) frames) = _
      rw [List.append_nil, List.reverse_reverse]
  | .object [], frames, position, hposition => by
      rw [tokens, List.cons_append, run_cons, step_value hposition frames Token.noConfusion]
      rfl
  | .object (field :: fields), frames, position, hposition => by
      rw [tokens, List.cons_append, run_cons, step_value hposition frames Token.noConfusion]
      show run? ⟨.object [] "" :: frames, .firstKey⟩ (fieldTokens (field :: fields) ++ _) = _
      -- An open object still holds the last key, whichever it was.
      obtain ⟨key, hrun⟩ := run_field_tokens (field :: fields) [] "" frames .firstKey (by simp)
        fun _ => rfl
      rw [run_append, hrun]
      show some (after (.object ((field :: fields).reverse ++ []).reverse) frames) = _
      rw [List.append_nil, List.reverse_reverse]

/-- Elements are collected in reverse order in front of those of the open array. -/
theorem run_item_tokens : ∀ (items reversed : List Json) (frames : List Frame)
    (position : Position), items ≠ [] → TakesValue position →
    run? ⟨.array reversed :: frames, position⟩ (itemTokens items) =
      some ⟨.array (items.reverse ++ reversed) :: frames, .itemEnd⟩
  | [], _, _, _, hne, _ => absurd rfl hne
  | [item], _, _, position, _, hposition => run_tokens item _ position hposition
  | item :: next :: items, reversed, frames, position, _, hposition => by
      rw [item_tokens_cons, run_append, run_tokens item _ position hposition]
      show run? ⟨.array (item :: reversed) :: frames, .value⟩ (itemTokens (next :: items)) = _
      rw [run_item_tokens (next :: items) (item :: reversed) frames .value (by simp) (.inl rfl)]
      simp

/-- Fields are collected in reverse order in front of those of the open object. -/
theorem run_field_tokens : ∀ (fields reversed : List (String × Json)) (old : String)
    (frames : List Frame) (position : Position), fields ≠ [] →
    (∀ key, step? ⟨.object reversed old :: frames, position⟩ (.string key) =
      some ⟨.object reversed key :: frames, .colon⟩) →
    ∃ key, run? ⟨.object reversed old :: frames, position⟩ (fieldTokens fields) =
      some ⟨.object (fields.reverse ++ reversed) key :: frames, .fieldEnd⟩
  | [], _, _, _, _, hne, _ => absurd rfl hne
  | [(key, value)], reversed, _, frames, _, _, hkey => by
      refine ⟨key, ?_⟩
      rw [fieldTokens, run_cons, hkey]
      exact run_tokens value (.object reversed key :: frames) .value (.inl rfl)
  | (key, value) :: next :: fields, reversed, _, frames, _, _, hkey => by
      obtain ⟨last, hrun⟩ := run_field_tokens (next :: fields) ((key, value) :: reversed) key
        frames .key (by simp) fun _ => rfl
      refine ⟨last, ?_⟩
      rw [field_tokens_cons, run_cons, hkey]
      show run? ⟨.object reversed key :: frames, .value⟩
        (value.tokens ++ .comma :: fieldTokens (next :: fields)) = _
      rw [run_append, run_tokens value _ .value (.inl rfl)]
      show run? ⟨.object ((key, value) :: reversed) key :: frames, .key⟩
        (fieldTokens (next :: fields)) = _
      rw [hrun]
      simp

end

end Reader

/-- Both layouts of a document are well formed and spell the document. -/
theorem parse_text (value : Json) (pretty : Bool) : parse? (value.text pretty) = some value := by
  rw [parse?, tokens_text]
  show (Reader.start.run? value.tokens).bind Reader.finish? = some value
  rw [Reader.start, Reader.run_tokens value [] .value (.inl rfl)]
  rfl

end DashboardGenerator.Json
