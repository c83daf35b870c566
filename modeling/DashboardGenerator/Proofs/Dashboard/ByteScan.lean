import DashboardGenerator.Proofs.Dashboard.ByteToken
import DashboardGenerator.Proofs.Dashboard.Separation

/-!
# The byte offsets of the scan

A turn over the bytes of a text is a step of the scanner over its characters (`Turn.Reads`,
`next_turn`): it passes over characters that open nothing, reads one token, and leaves the bytes of
the text behind that token. So every turn starts and ends between characters and none is refused a
cut (`safe_of_turn`), and the loop notes the names of the scanner's tokens (`collect_text`).
`byte_offsets_are_safe` says so for every expression.
-/

namespace DashboardGenerator.Placeholder

open Text

/-! ## One turn -/

/-- A turn that is made cuts nothing that is not safe. -/
theorem safe_of_turn {rest : List UInt8} {turn : Turn} (hturn : turn? rest = .ok (some turn)) :
    ∀ cut ∈ turn.cuts rest, cut.IsSafe := by
  obtain ⟨htail, hpropose, hleft⟩ := turn_eq_some hturn
  intro cut hcut
  simp only [Turn.cuts, List.mem_append, List.mem_cons, Option.mem_toList, List.not_mem_nil,
    or_false] at hcut
  rcases hcut with (rfl | hinside) | rfl
  · exact (Cut.take_eq_ok_iff.mp htail).1
  · exact (propose_sound hpropose).inside_safe cut hinside
  · exact (Cut.take_eq_ok_iff.mp hleft).1

/-- The turn is a step of the scanner over the characters of a text: it passes over those that open
nothing, reads the token behind them, and leaves what stands after the token. -/
structure Turn.Reads (turn : Turn) (text before : List Char) (token : Token) (after : List Char) :
    Prop where
  text_eq : text = before ++ (token.text ++ after)
  scan_eq : scan text = before.map Token.plain ++ token :: scan after
  position_eq : turn.position = (bytesOf before).length
  tail_eq : turn.tail = bytesOf (token.text ++ after)
  candidate_eq : turn.proposal.candidate = token.candidate.map bytesOf
  consumed_eq : turn.proposal.consumed = (bytesOf token.text).length
  rest_eq : turn.rest = bytesOf after

/-- Characters that open nothing are scanned as they are. -/
theorem scan_append_of_no_opening {before : List Char}
    (hbefore : ∀ character ∈ before, isOpening character = false) (rest : List Char) :
    scan (before ++ rest) = before.map Token.plain ++ scan rest := by
  induction before with
  | nil => rfl
  | cons character before ih =>
      obtain ⟨hcharacter, hbefore⟩ := List.forall_mem_cons.mp hbefore
      have hfits : (Token.plain character).Fits (before ++ rest) := by
        simpa [isOpening, Token.Fits] using hcharacter
      exact (scan_text_append hfits).trans (congrArg _ (ih hbefore))

/-- Where nothing is opened no turn is left. -/
theorem turn_of_no_opening {text : List Char}
    (htext : ∀ character ∈ text, isOpening character = false) :
    turn? (bytesOf text) = .ok none ∧ scan text = text.map Token.plain := by
  have hscan := scan_append_of_no_opening htext []
  rw [List.append_nil, scan.eq_1, List.append_nil] at hscan
  exact ⟨by rw [turn?, find_character_missed htext], hscan⟩

/-- An opening token behind characters that open nothing is read in a turn. -/
theorem turn_of_token {before after : List Char} {token : Token}
    (hbefore : ∀ character ∈ before, isOpening character = false) (hopening : token.IsOpening)
    (hfits : token.Fits after) :
    ∃ turn, turn? (bytesOf (before ++ (token.text ++ after))) = .ok (some turn) ∧
      turn.Reads (before ++ (token.text ++ after)) before token after := by
  obtain ⟨inside, hpropose⟩ := propose_token hopening hfits
  obtain ⟨first, others, htext, hfirst⟩ := hopening.text_eq
  have hfind : findCharacter isOpening (bytesOf (before ++ (token.text ++ after))) =
      some (bytesOf before).length := by
    rw [htext, List.cons_append]
    exact find_character_found hbefore hfirst _
  have hscan : scan (before ++ (token.text ++ after)) =
      before.map Token.plain ++ token :: scan after := by
    rw [scan_append_of_no_opening hbefore, scan_text_append hfits]
  refine ⟨⟨(bytesOf before).length, bytesOf (token.text ++ after), ⟨inside,
    token.candidate.map bytesOf, (bytesOf token.text).length⟩, bytesOf after⟩, ?_,
    rfl, hscan, rfl, rfl, rfl, rfl, rfl⟩
  rw [turn?, hfind]
  exact bind_eq_ok_iff.mpr ⟨_, take_behind before _, bind_eq_ok_iff.mpr ⟨_, hpropose,
    bind_eq_ok_iff.mpr ⟨_, take_behind token.text after, rfl⟩⟩⟩

/-- An opening character is the first one of an opening token. -/
theorem exists_opening_token {first : Char} (hfirst : isOpening first = true)
    (others : List Char) :
    ∃ (token : Token) (after : List Char), first :: others = token.text ++ after ∧
      token.IsOpening ∧ token.Fits after := by
  obtain ⟨htext, hplaced⟩ := scan_decomposes (first :: others)
  cases hscan : scan (first :: others) with
  | nil =>
      rw [hscan] at htext
      cases htext
  | cons token rest =>
      rw [hscan] at htext hplaced
      refine ⟨token, textOf rest, htext.symm, ?_, hplaced.1⟩
      cases token with
      | plain character =>
          -- A character that is a token of its own opens nothing.
          obtain ⟨hbracket, hdollar⟩ := hplaced.1
          obtain rfl : character = first := (List.cons.inj htext).1
          simp [isOpening, hbracket, hdollar] at hfirst
      | bracket | brackets | openBrackets | braces | openBraces | dollar => trivial

/-- Over the bytes of a text there is no turn left if the scanner finds nothing but ordinary
characters, and else the next turn is a step of the scanner. -/
theorem next_turn (text : List Char) :
    turn? (bytesOf text) = .ok none ∧ scan text = text.map Token.plain ∨
      ∃ turn before token after, turn? (bytesOf text) = .ok (some turn) ∧
        turn.Reads text before token after := by
  have htext := List.takeWhile_append_dropWhile (p := fun c => !isOpening c) (l := text)
  have hbefore : ∀ character ∈ text.takeWhile fun c => !isOpening c,
      isOpening character = false := by
    intro character hmem
    simpa using List.mem_takeWhile_imp hmem
  cases hrest : text.dropWhile fun c => !isOpening c with
  | nil =>
      rw [hrest, List.append_nil] at htext
      rw [htext] at hbefore
      exact .inl (turn_of_no_opening hbefore)
  | cons first others =>
      have hfirst : isOpening first = true := by
        simpa [hrest] using List.head?_dropWhile_not (fun c => !isOpening c) text
      obtain ⟨token, after, htoken, hopening, hfits⟩ := exists_opening_token hfirst others
      obtain ⟨turn, hturn, hreads⟩ := turn_of_token hbefore hopening hfits
      rw [← htoken, ← hrest, htext] at hturn hreads
      exact .inr ⟨turn, _, token, after, hturn, hreads⟩

/-! ## Turns in a row -/

/-- The turns over the bytes of a text lead to the bytes of its ends. -/
theorem turns_bytes_of {count : Nat} {text : List Char} {rest : List UInt8}
    (hturns : Turns count (bytesOf text) rest) : ∃ after, after <:+ text ∧ rest = bytesOf after := by
  generalize hbytes : bytesOf text = bytes at hturns
  induction hturns generalizing text with
  | none => exact ⟨text, List.suffix_refl text, hbytes.symm⟩
  | turn hturn _ ih =>
      subst hbytes
      rcases next_turn text with ⟨hstop, -⟩ | ⟨turn, before, token, after, hnext, hreads⟩
      · cases hstop.symm.trans hturn
      · cases hnext.symm.trans hturn
        obtain ⟨last, hlast, hrest⟩ := ih hreads.rest_eq.symm
        refine ⟨last, hlast.trans ⟨before ++ token.text, ?_⟩, hrest⟩
        rw [hreads.text_eq, List.append_assoc]

/-- Every turn takes at least one byte away. -/
theorem turns_length {count : Nat} {rest last : List UInt8} (hturns : Turns count rest last) :
    count + last.length ≤ rest.length := by
  induction hturns with
  | none => omega
  | turn hturn _ ih =>
      have hlt := length_rest_lt hturn
      omega

/-- The turns over the bytes of a text come to an end. -/
theorem exists_last_turn (text : List Char) :
    ∃ count last, Turns count (bytesOf text) last ∧ turn? last = .ok none := by
  rcases next_turn text with ⟨hstop, -⟩ | ⟨turn, before, token, after, hnext, hreads⟩
  · exact ⟨0, bytesOf text, .none _, hstop⟩
  · obtain ⟨count, last, hturns, hlast⟩ := exists_last_turn after
    exact ⟨count + 1, last, .turn hnext (hreads.rest_eq ▸ hturns), hlast⟩
termination_by (bytesOf text).length
decreasing_by
  have hlt := length_rest_lt hnext
  rwa [hreads.rest_eq] at hlt

/-! ## The names -/

/-- The bytes of a name are those of a variable name if it is one. -/
theorem is_variable_bytes_of (name : List Char) :
    isVariableBytes (bytesOf name) = isVariableName name := by
  have hempty : (bytesOf name).isEmpty = name.isEmpty := by
    rw [Bool.eq_iff_iff, List.isEmpty_iff, List.isEmpty_iff]
    exact ⟨fun hnil => bytes_of_injective hnil, fun hnil => by rw [hnil, bytes_of_nil]⟩
  have hreserved : (bytesOf ['_', '_']).isPrefixOf (bytesOf name) =
      ['_', '_'].isPrefixOf name := by
    rw [Bool.eq_iff_iff, List.isPrefixOf_iff_prefix, List.isPrefixOf_iff_prefix]
    exact bytes_of_prefix_iff
  have hletters : ((units (bytesOf name)).all fun unit => unit.any isNameCharacter) =
      name.all isNameCharacter := by
    rw [units_bytes_of, List.all_map]
    rfl
  rw [isVariableBytes, isVariableName, hempty, hreserved, hletters, Bool.and_assoc, Bool.and_assoc,
    Bool.and_comm (name.all isNameCharacter)]

/-- The name of one token is its candidate, if that is a variable name. -/
theorem names_of_singleton (token : Token) :
    namesOf [token] = (token.candidate.filter isVariableName).toList := by
  unfold namesOf
  cases hcandidate : token.candidate with
  | none => simp [hcandidate]
  | some name =>
      by_cases hname : isVariableName name
      · simp [hcandidate, hname, Option.filter, List.eraseDups_cons]
      · simp [hcandidate, hname, Option.filter]

/-- To note the candidate of a token is to go on with the names of one token more. -/
theorem note_candidate (passed : List Token) (token : Token) :
    note ((namesOf passed).map bytesOf) (token.candidate.map bytesOf) =
      (namesOf (passed ++ [token])).map bytesOf := by
  have hcandidate : (token.candidate.map bytesOf).filter isVariableBytes =
      (token.candidate.filter isVariableName).map bytesOf := by
    cases token.candidate with
    | none => rfl
    | some name => simp [Option.filter, is_variable_bytes_of]
  rw [note, hcandidate, names_of_append, names_of_singleton]
  cases token.candidate.filter isVariableName with
  | none => simp
  | some name =>
      by_cases hnoted : name ∈ namesOf passed
      · simp [hnoted, List.mem_map_of_injective bytes_of_injective]
      · simp [hnoted, List.mem_map_of_injective bytes_of_injective]

/-- Characters that open nothing add no names. -/
theorem names_of_append_plain (passed rest : List Token) (before : List Char) :
    namesOf (passed ++ (before.map Token.plain ++ rest)) = namesOf (passed ++ rest) := by
  have hplain : (before.map Token.plain).filterMap Token.candidate = [] := by
    rw [List.filterMap_map]
    exact List.filterMap_eq_nil_iff.mpr fun _ _ => rfl
  simp only [namesOf, List.filterMap_append, hplain, List.nil_append]

/-- The loop notes the names of the tokens. -/
theorem collect_text (passed : List Token) (text : List Char) :
    collect ((namesOf passed).map bytesOf) (bytesOf text) =
      .ok ((namesOf (passed ++ scan text)).map bytesOf) := by
  rcases next_turn text with ⟨hstop, hscan⟩ | ⟨turn, before, token, after, hnext, hreads⟩
  · have hnames := names_of_append_plain passed [] text
    rw [List.append_nil, List.append_nil] at hnames
    rw [collect_of_stop hstop, hscan, hnames]
  · rw [collect_of_turn hnext, hreads.candidate_eq, hreads.rest_eq, note_candidate,
      collect_text (passed ++ [token]) after, hreads.scan_eq, names_of_append_plain,
      List.append_assoc, List.singleton_append]
termination_by (bytesOf text).length
decreasing_by
  have hlt := length_rest_lt hnext
  rwa [hreads.rest_eq] at hlt

/-- The byte offsets of the scan are safe. Each turn over the bytes of an expression is a step of
the scan over its characters; the cuts that it makes lie within the bytes and part no character,
something is consumed, and less is left than there was, so the turns come to an end. The names that
they note are the variables that the expression references. -/
theorem byte_offsets_are_safe (expression : String) :
    (∀ count rest, Turns count (encodeUtf8 expression) rest →
      ∃ text, text <:+ expression.toList ∧ rest = bytesOf text ∧
        (turn? rest = .ok none ∧ scan text = text.map Token.plain ∨
          ∃ turn before token after, turn? rest = .ok (some turn) ∧
            turn.Reads text before token after ∧ (∀ cut ∈ turn.cuts rest, cut.IsSafe) ∧
            1 ≤ turn.proposal.consumed ∧ turn.rest.length < rest.length)) ∧
      (∃ count last, count ≤ (encodeUtf8 expression).length ∧
        Turns count (encodeUtf8 expression) last ∧ turn? last = .ok none) ∧
      referencedBytes (encodeUtf8 expression) =
        .ok ((referencedVariables expression).map encodeUtf8) := by
  have hbytes : encodeUtf8 expression = bytesOf expression.toList := rfl
  rw [hbytes]
  refine ⟨?_, ?_, ?_⟩
  · intro count rest hturns
    obtain ⟨text, hsuffix, rfl⟩ := turns_bytes_of hturns
    refine ⟨text, hsuffix, rfl, (next_turn text).imp_right ?_⟩
    rintro ⟨turn, before, token, after, hnext, hreads⟩
    have hpropose := (turn_eq_some hnext).2.1
    exact ⟨turn, before, token, after, hnext, hreads, safe_of_turn hnext,
      (propose_sound hpropose).consumed_pos, length_rest_lt hnext⟩
  · obtain ⟨count, last, hturns, hlast⟩ := exists_last_turn expression.toList
    exact ⟨count, last, Nat.le_of_add_right_le (turns_length hturns), hturns, hlast⟩
  · have hnames : (referencedVariables expression).map encodeUtf8 =
        (namesOf (scan expression.toList)).map bytesOf := by
      rw [← toList_referenced_variables, List.map_map]
      rfl
    rw [hnames]
    exact collect_text [] expression.toList

/-- Characters of two, three and four bytes inside of placeholders and directly around them. -/
example :
    (referencedBytes (encodeUtf8 "é[[ä]]$ü€[[b]]😀$c😀$\x7bd:ß\x7d$\x7bé")).toOption =
      some (["b", "c", "d"].map encodeUtf8) := by
  decide +kernel

end DashboardGenerator.Placeholder
