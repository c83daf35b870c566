import DashboardGenerator.Proofs.Toml.Legible

/-!
# Reading values on one line

Wherever a value may come, the tokens of a literal lead to the state in which its value has been
delivered to the line, array or inline table that waits for it: `delivers_of_fits`. A truth
value is only known to be complete once the next token has come, so the statement is about the tokens
up to and with the one that closes the value.
-/

namespace DashboardGenerator.Toml

namespace Reader

/-- Reading tokens in a row is reading the first part and then the second. -/
theorem run_append (reader : Reader) (tokens rest : List Token) :
    reader.run? (tokens ++ rest) = (reader.run? tokens).bind (·.run? rest) :=
  List.foldlM_append

theorem run_cons (reader : Reader) (token : Token) (rest : List Token) :
    reader.run? (token :: rest) = (reader.step? token).bind (·.run? rest) :=
  List.foldlM_cons

@[simp] theorem run_nil (reader : Reader) : reader.run? [] = some reader := rfl

/-- A step that is known is taken. -/
theorem run_step {reader after : Reader} {token : Token} (hstep : reader.step? token = some after)
    (rest : List Token) : reader.run? (token :: rest) = after.run? rest := by
  rw [run_cons, hstep]
  rfl

/-- A value may come at the place. -/
def TakesValue (position : Position) : Prop :=
  position = .value ∨ position = .item

/-- Something that follows a value may come at the place. -/
def IsBehindValue (position : Position) : Prop :=
  position = .lineEnd ∨ position = .itemEnd ∨ position = .entryEnd

/-- Where a value may come, a word, a string or an opening bracket or brace is read as its start. -/
theorem step_value {reader : Reader} (hposition : TakesValue reader.position) {token : Token}
    (htoken : token.isText = true ∨ token = .leftBracket ∨ token = .leftBrace) :
    reader.step? token = reader.value? token := by
  obtain ⟨tables, header, key, frames, position⟩ := reader
  rcases hposition with hvalue | hitem
  · cases hvalue
    rcases htoken with htext | rfl | rfl
    · cases token <;> first | rfl | exact absurd htext Bool.false_ne_true
    · rfl
    · rfl
  · cases hitem
    rcases htoken with htext | rfl | rfl
    · cases token <;> first | rfl | exact absurd htext Bool.false_ne_true
    · rfl
    · rfl

/-- Where a value goes does not depend on what was to come. -/
theorem deliver_position (tables : Entries) (header key : List String) (frames : List Frame)
    (position other : Position) (value : Value) :
    deliver? ⟨tables, header, key, frames, position⟩ value =
      deliver? ⟨tables, header, key, frames, other⟩ value := by
  cases frames with
  | nil => rfl
  | cons frame outer => cases frame <;> rfl

/-- What comes next after a value has been delivered. -/
theorem is_behind_value_of_deliver {reader after : Reader} {value : Value}
    (hdeliver : reader.deliver? value = some after) : IsBehindValue after.position := by
  obtain ⟨tables, header, key, frames, position⟩ := reader
  cases frames with
  | nil =>
      obtain ⟨_, _, hafter⟩ := Option.bind_eq_some_iff.mp hdeliver
      cases hafter
      exact .inl rfl
  | cons frame outer =>
      cases frame with
      | array reversed =>
          cases hdeliver
          exact .inr (.inl rfl)
      | inlineTable entries key =>
          obtain ⟨_, _, hafter⟩ := Option.bind_eq_some_iff.mp hdeliver
          cases hafter
          exact .inr (.inr rfl)

theorem step_of_is_behind_value {reader : Reader} (hposition : IsBehindValue reader.position)
    (token : Token) : reader.step? token = reader.settledStep? token := by
  obtain ⟨tables, header, key, frames, position⟩ := reader
  rcases hposition with hplace | hplace | hplace <;> (cases hplace; rfl)

/-- A value without quotes is delivered where it is finished. -/
theorem finish_bare_eq {reader : Reader} {text : List Char} {value : Scalar}
    (hvalue : scalar? text = some value) (position : Position) :
    (reader.moveTo position).finishBare? text = reader.deliver? (.scalar value) := by
  obtain ⟨tables, header, key, frames, _⟩ := reader
  rw [finishBare?, hvalue]
  exact deliver_position ..

/-- A token that closes values finishes a value without quotes and is then read behind it. -/
theorem step_bare {reader : Reader} {text : List Char} {value : Scalar}
    (hvalue : scalar? text = some value) {next : Token} (hnext : next.closes = true) :
    (reader.moveTo (.bare text)).step? next =
      (reader.deliver? (.scalar value)).bind (·.step? next) := by
  -- A word, a dot or a space might go on with the value, but none of them closes one.
  have hstep : (reader.moveTo (.bare text)).step? next =
      ((reader.moveTo (.bare text)).finishBare? text).bind (·.settledStep? next) := by
    cases next <;> first | rfl | exact absurd hnext Bool.false_ne_true
  rw [hstep, finish_bare_eq hvalue]
  cases hdeliver : reader.deliver? (.scalar value) with
  | none => rfl
  | some after => exact (step_of_is_behind_value (is_behind_value_of_deliver hdeliver) next).symm

/-- A key that is a word is read as a part of a key. -/
theorem key_part_word {reader : Reader} {use : KeyUse} {parts : List String} {key : String}
    (hkey : IsBareKey key) (hparts : parts.length < nestingLimit) :
    reader.keyPart? use parts (.word key.toList) =
      some (reader.moveTo (.keyEnd use (parts ++ [key]))) := by
  rw [keyPart?, show bareKey? key.toList = some key from hkey]
  exact if_pos hparts

/-- The tokens of a value are read as delivering it, wherever a value may come and `room` more
arrays and tables may be opened. -/
def Delivers (room : Nat) (literal : Literal) : Prop :=
  ∀ (reader : Reader) (next : Token) (rest : List Token), TakesValue reader.position →
    reader.frames.length + room ≤ nestingLimit → next.closes = true →
    reader.run? (literal.tokens ++ next :: rest) =
      (reader.deliver? literal.value).bind (·.run? (next :: rest))

/-- A string is delivered at once. -/
theorem delivers_string (room : Nat) (value : String) : Delivers room (.string value) := by
  intro reader next rest hposition _ _
  rw [Literal.tokens, List.singleton_append, run_cons, step_value hposition (.inl rfl)]
  rfl

/-- A truth value is delivered when the next token comes. -/
theorem delivers_boolean (room : Nat) (value : Bool) : Delivers room (.boolean value) := by
  intro reader next rest hposition _ hnext
  obtain ⟨word, htokens, hscalar⟩ : ∃ word, Literal.tokens (.boolean value) = [.word word] ∧
      scalar? word = some (.boolean value) := by
    cases value
    · exact ⟨_, rfl, rfl⟩
    · exact ⟨_, rfl, rfl⟩
  rw [htokens, List.singleton_append, run_cons, step_value hposition (.inl rfl)]
  show run? (reader.moveTo (.bare word)) (next :: rest) = _
  rw [run_cons, step_bare hscalar hnext, Option.bind_assoc]
  rfl

/-- The elements of an array are collected in reverse order in front of those read so far, and the
closing bracket delivers the array. -/
theorem run_items {room : Nat} {items : List Literal} (hitems : ∀ item ∈ items, Delivers room item)
    (reader : Reader) (hframes : reader.frames.length + (room + 1) ≤ nestingLimit)
    (reversed : List Value) (rest : List Token) :
    run? { reader with frames := .array reversed :: reader.frames, position := .item }
        (Literal.itemTokens items ++ .rightBracket :: rest) =
      (reader.deliver? (.array false (reversed.reverse ++ Literal.itemValues items))).bind
        (·.run? rest) := by
  obtain ⟨tables, header, key, frames, position⟩ := reader
  -- The induction is on the elements to come; those that have come stand reversed in the frame.
  induction items generalizing reversed with
  | nil =>
      rw [Literal.itemTokens, List.nil_append, run_cons, Literal.itemValues, List.append_nil]
      exact congrArg (Option.bind · _) (deliver_position ..)
  | cons item items ih =>
      obtain ⟨hitem, hitems⟩ := List.forall_mem_cons.mp hitems
      have hothers := ih hitems
      have hroom : (Frame.array reversed :: frames).length + room ≤ nestingLimit := by
        have hframes : frames.length + (room + 1) ≤ nestingLimit := hframes
        rw [List.length_cons]
        omega
      have hvalues : reversed.reverse ++ Literal.itemValues (item :: items) =
          (item.value :: reversed).reverse ++ Literal.itemValues items := by
        rw [Literal.itemValues, List.reverse_cons, List.append_assoc, List.singleton_append]
      rw [hvalues]
      cases items with
      | nil =>
          rw [Literal.itemTokens, hitem _ _ _ (.inr rfl) hroom rfl]
          show run? _ (.rightBracket :: rest) = _
          rw [run_cons, Literal.itemValues, List.append_nil]
          exact congrArg (Option.bind · _) (deliver_position ..)
      | cons other items =>
          simp only [Literal.itemTokens, List.append_assoc, List.cons_append]
          rw [hitem _ _ _ (.inr rfl) hroom rfl]
          exact hothers (item.value :: reversed)

/-- A key of an inline table is read up to where its value comes. -/
theorem run_key_inline {key : String} (hkey : IsBareKey key) (tables : Entries)
    (header old : List String) (entries : Entries) (path : List String) (outer : List Frame)
    (rest : List Token) :
    run? ⟨tables, header, old, .inlineTable entries path :: outer, .entry⟩
        (keyTokens key ++ rest) =
      run? ⟨tables, header, old, .inlineTable entries [key] :: outer, .value⟩ rest := by
  have hword : step? ⟨tables, header, old, .inlineTable entries path :: outer, .entry⟩
      (.word key.toList) = some ⟨tables, header, old, .inlineTable entries path :: outer,
        .keyEnd .pair [key]⟩ := key_part_word hkey (Nat.zero_lt_succ _)
  exact run_step hword _

/-- A key that an inline table has not yet is added to it with its value. -/
theorem deliver_inline {key : String} {entries : Entries} (hnew : entries.lookup key = none)
    (tables : Entries) (header old : List String) (outer : List Frame) (position : Position)
    (value : Value) :
    deliver? ⟨tables, header, old, .inlineTable entries [key] :: outer, position⟩ value =
      some ⟨tables, header, old, .inlineTable (entries ++ [(key, value)]) [key] :: outer,
        .entryEnd⟩ := by
  have hassign : entries.assign? [key] value = some (entries ++ [(key, value)]) := by
    show entries.insertNew? key value = _
    rw [Entries.insertNew?, hnew]
  show (entries.assign? [key] value).bind _ = _
  rw [hassign]
  rfl

end Reader

/-- A key in front of others that are new to a table is new to it itself. -/
theorem Entries.not_mem_of_nodup {old new : List String} {key : String}
    (hkeys : (old ++ key :: new).Nodup) : key ∉ old :=
  fun hmem => (List.nodup_append.mp hkeys).2.2 key hmem key List.mem_cons_self rfl

/-- A key that is not among those of a table is not found in it. -/
theorem Entries.lookup_of_not_mem {α : Type} {entries : List (String × α)} {key : String}
    (hnew : key ∉ entries.map Prod.fst) : entries.lookup key = none := by
  rw [List.lookup_eq_none_iff]
  intro entry hmem
  rw [bne_iff_ne]
  rintro rfl
  exact hnew (List.mem_map_of_mem hmem)

namespace Reader

/-- The entries of an inline table are added behind those read so far, and the closing brace
delivers the table. -/
theorem run_entries {room : Nat} {entries : List (String × Literal)}
    (hvalues : ∀ entry ∈ entries, Delivers room entry.2) (reader : Reader)
    (hframes : reader.frames.length + (room + 1) ≤ nestingLimit) (before : Entries)
    (hbare : ∀ entry ∈ entries, IsBareKey entry.1)
    (hkeys : (before.map Prod.fst ++ entries.map Prod.fst).Nodup) (path : List String)
    (rest : List Token) :
    run? { reader with frames := .inlineTable before path :: reader.frames, position := .entry }
        (Literal.entryTokens entries ++ .rightBrace :: rest) =
      (reader.deliver? (.table .inline (before ++ Literal.entryValues entries))).bind
        (·.run? rest) := by
  obtain ⟨tables, header, old, frames, position⟩ := reader
  -- As for elements, but the frame still holds the last key, whatever it was.
  induction entries generalizing before path with
  | nil =>
      rw [Literal.entryTokens, List.nil_append, run_cons, Literal.entryValues, List.append_nil]
      exact congrArg (Option.bind · _) (deliver_position ..)
  | cons entry entries ih =>
      obtain ⟨key, value⟩ := entry
      obtain ⟨hvalue, hvalues⟩ := List.forall_mem_cons.mp hvalues
      obtain ⟨hkey, hbare⟩ := List.forall_mem_cons.mp hbare
      have hnew : before.lookup key = none :=
        Entries.lookup_of_not_mem (Entries.not_mem_of_nodup hkeys)
      have hroom : (Frame.inlineTable before [key] :: frames).length + room ≤ nestingLimit := by
        have hframes : frames.length + (room + 1) ≤ nestingLimit := hframes
        rw [List.length_cons]
        omega
      have hothers := ih hvalues (before ++ [(key, value.value)]) hbare (by simpa using hkeys) [key]
      have hentries : before ++ Literal.entryValues ((key, value) :: entries) =
          before ++ [(key, value.value)] ++ Literal.entryValues entries := by
        rw [Literal.entryValues, List.append_assoc, List.singleton_append]
      cases entries with
      | nil =>
          rw [hentries, Literal.entryTokens, List.append_assoc]
          show run? ⟨tables, header, old, .inlineTable before path :: frames, .entry⟩ _ = _
          rw [run_key_inline hkey, hvalue _ _ _ (.inl rfl) hroom rfl, deliver_inline hnew]
          show run? _ (.rightBrace :: rest) = _
          rw [run_cons, Literal.entryValues, List.append_nil]
          exact congrArg (Option.bind · _) (deliver_position ..)
      | cons other entries =>
          simp only [Literal.entryTokens, List.append_assoc, List.cons_append]
          rw [hentries, run_key_inline hkey, hvalue _ _ _ (.inl rfl) hroom rfl, deliver_inline hnew]
          exact hothers

/-- The tokens of a value that nests no deeper than there is room are read as delivering it. -/
theorem delivers_of_fits {room : Nat} {literal : Literal} (hfits : literal.Fits room) :
    Delivers room literal := by
  induction hfits with
  | string room value => exact delivers_string room value
  | boolean room value => exact delivers_boolean room value
  | array room items _ ih =>
      intro reader next rest hposition hframes _
      have hpush : reader.push? (.array []) .item =
          some { reader with frames := .array [] :: reader.frames, position := .item } := by
        rw [push?, if_pos (by omega)]
      simp only [Literal.tokens, List.cons_append, List.append_assoc, List.nil_append]
      rw [run_step ((step_value hposition (.inr (.inl rfl))).trans hpush)]
      exact run_items ih reader hframes [] (next :: rest)
  | table room entries hkeys _ ih =>
      intro reader next rest hposition hframes _
      have hpush : reader.push? (.inlineTable [] []) .entry =
          some { reader with
            frames := .inlineTable [] [] :: reader.frames, position := .entry } := by
        rw [push?, if_pos (by omega)]
      have hbare : ∀ entry ∈ entries, IsBareKey entry.1 :=
        fun entry hmem => hkeys.bare entry.1 (List.mem_map_of_mem hmem)
      simp only [Literal.tokens, List.cons_append, List.append_assoc, List.nil_append]
      rw [run_step ((step_value hposition (.inr (.inr rfl))).trans hpush)]
      exact run_entries ih reader hframes [] hbare hkeys.distinct [] (next :: rest)

end Reader

end DashboardGenerator.Toml
