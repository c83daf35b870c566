import DashboardGenerator.Proofs.Toml.Literal

/-!
# A value at a place

Where a document has a value, what it is read as depends on that value only through the scalar that
is delivered there: `HasValueAt.document_word` and `HasValueAt.document_string` say so for a value
without quotes and for a string. A value without quotes must not go on behind its word, which is
what `endsBare` asks of the tokens that follow.
-/

namespace DashboardGenerator.Toml

/-- The tokens of a document. -/
def documentTokens? (text : String) : Option (List Token) :=
  tokens? (skipByteOrderMark text.toList)

/-- The tokens do not go on with a value without quotes in front of them. -/
def endsBare : List Token → Bool
  | .word _ :: _ | .dot :: _ | .blank [' '] :: .word _ :: _ => false
  | _ => true

namespace Reader

/-- The tables of a document that ends with the tokens. -/
def read? (reader : Reader) (tokens : List Token) : Option Entries :=
  (reader.run? tokens).bind finish?

theorem read_cons (reader : Reader) (token : Token) (rest : List Token) :
    reader.read? (token :: rest) = (reader.step? token).bind (·.read? rest) := by
  rw [read?, run_cons, Option.bind_assoc]
  rfl

/-- The tables of a document where it may end. -/
def ended? (reader : Reader) : Option Entries :=
  match reader.position with
  | .line | .lineEnd => some reader.tables
  | _ => none

/-- Behind a value blanks make no difference. -/
theorem step_blank {reader : Reader} (hposition : IsBehindValue reader.position)
    (text : List Char) : reader.step? (.blank text) = some reader := by
  rw [step_of_is_behind_value hposition]
  obtain ⟨tables, header, key, frames, position⟩ := reader
  rcases hposition with hplace | hplace | hplace <;> (cases hplace; rfl)

/-- A value without quotes goes on behind a single space alone. -/
theorem step_bare_blank {reader : Reader} {text space : List Char} (hspace : space ≠ [' ']) :
    (reader.moveTo (.bare text)).step? (.blank space) =
      ((reader.moveTo (.bare text)).finishBare? text).bind (·.settledStep? (.blank space)) := by
  simp [step?, moveTo, hspace]

section Pending

variable {reader : Reader} {text : List Char} {value : Scalar} (hvalue : scalar? text = some value)

include hvalue

/-- At the end of the document a value without quotes is delivered. -/
theorem finish_pending {position : Position}
    (hposition : position = .bare text ∨ position = .bareGap text) :
    (reader.moveTo position).finish? = (reader.deliver? (.scalar value)).bind finish? := by
  have hfinish : (reader.moveTo position).finish? =
      ((reader.moveTo position).finishBare? text).bind ended? := by
    rcases hposition with rfl | rfl <;> rfl
  rw [hfinish, finish_bare_eq hvalue]
  cases hdeliver : reader.deliver? (.scalar value) with
  | none => rfl
  | some after =>
      obtain ⟨tables, header, key, frames, position⟩ := after
      rcases is_behind_value_of_deliver hdeliver with hplace | hplace | hplace <;>
        (cases hplace; rfl)

/-- A token that does not go on with a value without quotes is read behind it. -/
theorem read_pending {position : Position} {next : Token}
    (hstep : (reader.moveTo position).step? next =
      ((reader.moveTo position).finishBare? text).bind (·.settledStep? next))
    (rest : List Token) :
    (reader.moveTo position).read? (next :: rest) =
      (reader.deliver? (.scalar value)).bind (·.read? (next :: rest)) := by
  rw [read_cons, hstep, finish_bare_eq hvalue]
  cases hdeliver : reader.deliver? (.scalar value) with
  | none => rfl
  | some after =>
      show (after.settledStep? next).bind _ = after.read? (next :: rest)
      rw [read_cons, step_of_is_behind_value (is_behind_value_of_deliver hdeliver)]

/-- A value without quotes is delivered, and then what follows is read. -/
theorem read_word (hposition : TakesValue reader.position) {rest : List Token}
    (hends : endsBare rest = true) :
    reader.read? (.word text :: rest) = (reader.deliver? (.scalar value)).bind (·.read? rest) := by
  have hword : reader.step? (.word text) = some (reader.moveTo (.bare text)) :=
    step_value hposition (.inl rfl)
  -- A single space is held back until it is known that no word follows it.
  have hgap : ∀ rest, (reader.moveTo (.bareGap text)).read? rest =
        (reader.deliver? (.scalar value)).bind (·.read? rest) →
      (reader.moveTo (.bare text)).read? (.blank [' '] :: rest) =
        (reader.deliver? (.scalar value)).bind (·.read? (.blank [' '] :: rest)) := by
    intro rest hrest
    rw [read_cons]
    refine hrest.trans (Option.bind_congr fun after hdeliver => ?_)
    rw [read_cons, step_blank (is_behind_value_of_deliver hdeliver)]
    rfl
  rw [read_cons, hword]
  show (reader.moveTo (.bare text)).read? rest = _
  cases rest with
  | nil => exact finish_pending hvalue (.inl rfl)
  | cons next rest =>
      cases next with
      | word | dot => exact absurd hends Bool.false_ne_true
      | blank space =>
          by_cases hspace : space = [' ']
          · subst hspace
            refine hgap rest ?_
            cases rest with
            | nil => exact finish_pending hvalue (.inr rfl)
            | cons next rest =>
                cases next with
                | word => exact absurd hends Bool.false_ne_true
                | _ => exact read_pending hvalue rfl rest
          · exact read_pending hvalue (step_bare_blank hspace) rest
      | _ => exact read_pending hvalue rfl rest

end Pending

/-- A string is delivered, and then what follows is read. -/
theorem read_string {reader : Reader} (hposition : TakesValue reader.position) (value : List Char)
    (rest : List Token) :
    reader.read? (.string false value :: rest) =
      (reader.deliver? (.scalar (.string value))).bind (·.read? rest) := by
  rw [read_cons, step_value hposition (.inl rfl)]
  rfl

end Reader

/-! ## Documents -/

/-- The document has a value of one token behind some tokens and in front of others. A word is the
whole value. -/
structure HasValueAt (text : String) (left : List Token) (token : Token) (right : List Token) :
    Prop where
  tokens : documentTokens? text = some (left ++ token :: right)
  reaches : ∃ reader, Reader.start.run? left = some reader ∧ Reader.TakesValue reader.position
  ends : endsBare right = true

variable {text : String} {left right : List Token} {reader : Reader}

/-- A document is read from where its first tokens lead. -/
theorem document_of_tokens {tokens : List Token}
    (htokens : documentTokens? text = some (left ++ tokens))
    (hleft : Reader.start.run? left = some reader) : document? text = reader.read? tokens := by
  show ((documentTokens? text).bind fun tokens =>
    (Reader.start.run? tokens).bind Reader.finish?) = _
  rw [htokens, Option.bind_some, Reader.run_append, hleft]
  rfl

/-- A value without quotes is delivered to its place in the document. -/
theorem HasValueAt.document_word {word : List Char}
    (hplace : HasValueAt text left (.word word) right)
    (hleft : Reader.start.run? left = some reader) {value : Scalar}
    (hvalue : scalar? word = some value) :
    document? text = (reader.deliver? (.scalar value)).bind (·.read? right) := by
  obtain ⟨_, hrun, hposition⟩ := hplace.reaches
  cases hleft.symm.trans hrun
  rw [document_of_tokens hplace.tokens hleft, Reader.read_word hvalue hposition hplace.ends]

/-- A string is delivered to its place in the document. -/
theorem HasValueAt.document_string {value : List Char}
    (hplace : HasValueAt text left (.string false value) right)
    (hleft : Reader.start.run? left = some reader) :
    document? text = (reader.deliver? (.scalar (.string value))).bind (·.read? right) := by
  obtain ⟨_, hrun, hposition⟩ := hplace.reaches
  cases hleft.symm.trans hrun
  rw [document_of_tokens hplace.tokens hleft, Reader.read_string hposition]

end DashboardGenerator.Toml
