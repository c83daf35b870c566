import DashboardGenerator.Dashboard.ByteScan
import DashboardGenerator.Proofs.Dashboard.Grammar
import DashboardGenerator.Proofs.Text.Slice

/-!
# Tokens at byte offsets

What stands at the start of the bytes of a text is read as the token that the text starts with. The
offset of a closing mark is the size of the body in front of it, and that of the first character
which is no name character is the size of the run. So the candidate is the name that the token
offers and as many bytes are consumed as the token has: `propose_token`.
-/

namespace DashboardGenerator.Placeholder

open Text

/-! ## What the searches find -/

/-- A mark that ends a body at its first place is found behind the bytes of the body. -/
theorem find_mark_of_ends_at_first {mark body after : List Char} (hmark : mark ≠ [])
    (hfirst : EndsAtFirst mark body after) :
    findMark (bytesOf mark) (bytesOf (body ++ mark ++ after)) = some (bytesOf body).length := by
  have hbytes : bytesOf mark ≠ [] := fun hnil => hmark (bytes_of_injective hnil)
  refine find_mark_eq_some ((mark_prefix_drop_iff hmark).mpr ⟨body, after, rfl, rfl⟩) ?_ hbytes
  intro earlier hearlier hprefix
  -- An earlier place would be one in the text, which is no shorter than the body.
  obtain ⟨before, beyond, heq, rfl⟩ := (mark_prefix_drop_iff hmark).mp hprefix
  have hbody : body <+: before := by
    have hprefix : before <+: body ++ mark ++ after :=
      ⟨mark ++ beyond, by rw [heq, List.append_assoc]⟩
    refine List.prefix_of_prefix_length_le ?_ hprefix (hfirst before beyond heq)
    exact ⟨mark ++ after, (List.append_assoc ..).symm⟩
  obtain ⟨more, rfl⟩ := hbody
  rw [bytes_of_append, List.length_append] at hearlier
  omega

/-- A mark that stands nowhere in a text is not found in its bytes. -/
theorem find_mark_of_not_infix {mark text : List Char} (hmark : mark ≠ [])
    (habsent : ¬ mark <:+: text) : findMark (bytesOf mark) (bytesOf text) = none := by
  refine find_mark_eq_none fun offset hprefix => habsent ?_
  obtain ⟨before, after, rfl, -⟩ := (mark_prefix_drop_iff hmark).mp hprefix
  exact ⟨before, after, rfl⟩

/-- A search for a character passes over a text without it. -/
theorem beq_of_not_mem {mark : Char} {text : List Char} (habsent : mark ∉ text) :
    ∀ character ∈ text, (character == mark) = false := by
  intro character hmem
  rw [beq_eq_false_iff_ne]
  rintro rfl
  exact habsent hmem

/-- The bytes in front of the first colon are those of the characters in front of it. -/
theorem before_colon_bytes_of (body : List Char) :
    beforeColon (bytesOf body) = bytesOf (body.takeWhile (· != ':')) := by
  by_cases hcolon : ':' ∈ body
  · obtain ⟨name, format, rfl, hname⟩ := List.eq_append_cons_of_mem hcolon
    rw [takeWhile_colon name format hname, beforeColon,
      find_character_found (beq_of_not_mem hname) rfl]
    simp
  · have hall : ∀ character ∈ body, (character != ':') = true := fun character hmem => by
      simp [bne, beq_of_not_mem hcolon character hmem]
    rw [List.takeWhile_eq_self_iff.mpr hall, beforeColon,
      find_character_missed (beq_of_not_mem hcolon)]
    rfl

/-- A mark of one character does not stand in the body that it ends. -/
theorem EndsAtFirst.not_mem {mark : Char} {body after : List Char}
    (hfirst : EndsAtFirst [mark] body after) : mark ∉ body := by
  intro hmem
  obtain ⟨before, beyond, rfl⟩ := List.append_of_mem hmem
  have hlength := hfirst before (beyond ++ [mark] ++ after) (by simp)
  rw [List.length_append, List.length_cons] at hlength
  omega

/-- A run of name characters ends where the first other character is found, or else at the end. -/
theorem find_run {run after : List Char} (hrun : ∀ character ∈ run, IsNameLetter character)
    (hafter : ∀ character ∈ after.head?, ¬ IsNameLetter character) :
    (findCharacter (fun character => !isNameCharacter character) (bytesOf (run ++ after))).getD
      (bytesOf (run ++ after)).length = (bytesOf run).length := by
  have hpassed : ∀ character ∈ run, (!isNameCharacter character) = false := by
    intro character hmem
    simp [(is_name_character_iff character).mpr (hrun character hmem)]
  cases after with
  | nil => rw [List.append_nil, find_character_missed hpassed, Option.getD_none]
  | cons first after =>
      have hfirst : (!isNameCharacter first) = true := by
        simpa [← is_name_character_iff] using hafter first rfl
      rw [find_character_found hpassed hfirst, Option.getD_some]

/-! ## Reading one token -/

/-- The token starts with an opening character. -/
def Token.IsOpening : Token → Prop
  | .plain _ => False
  | .bracket | .brackets _ | .openBrackets | .braces _ | .openBraces | .dollar _ => True

/-- The text of an opening token starts with an opening character. -/
theorem Token.IsOpening.text_eq {token : Token} (hopening : token.IsOpening) :
    ∃ first others, token.text = first :: others ∧ isOpening first = true := by
  cases token with
  | plain => exact hopening.elim
  | bracket | brackets | openBrackets | braces | openBraces | dollar => exact ⟨_, _, rfl, rfl⟩

/-- A name is picked from the bytes of a body in front of other bytes. -/
theorem name_bytes_of (pick : List UInt8 → List UInt8) (body after : List Char) (consumed : Nat) :
    Proposal.name pick (bytesOf (body ++ after)) (bytesOf body).length consumed =
      .ok ⟨some (Cut.before (bytesOf (body ++ after)) (bytesOf body).length),
        some (pick (bytesOf body)), consumed⟩ :=
  bind_eq_ok_iff.mpr ⟨bytesOf body, take_before body after, rfl⟩

/-- The size of a body between two marks. -/
theorem length_bytes_between (opening body closing : List Char) :
    (bytesOf (opening ++ body ++ closing)).length =
      (bytesOf body).length + ((bytesOf closing).length + (bytesOf opening).length) := by
  simp only [bytes_of_append, List.length_append]
  omega

/-- Behind two brackets, what stands in front of the first two closing ones is proposed. -/
theorem propose_bracketed_body {body after : List Char}
    (hfirst : EndsAtFirst [']', ']'] body after) :
    ∃ inside, proposeBracketed (bytesOf (body ++ [']', ']'] ++ after)) =
      .ok ⟨inside, some (bytesOf body), (bytesOf (Token.brackets body).text).length⟩ := by
  have hsize : (bytesOf (Token.brackets body).text).length = (bytesOf body).length + 4 :=
    length_bytes_between ['[', '['] body [']', ']']
  rw [proposeBracketed, find_mark_of_ends_at_first (by simp) hfirst, List.append_assoc, hsize]
  exact ⟨_, name_bytes_of id body _ _⟩

/-- Behind a dollar sign and a brace, what stands in front of the first closing brace is proposed,
less its format. -/
theorem propose_braced_body {body after : List Char} (hfirst : EndsAtFirst ['}'] body after) :
    ∃ inside, proposeBraced (bytesOf (body ++ ['}'] ++ after)) =
      .ok ⟨inside, some (bytesOf (body.takeWhile (· != ':'))),
        (bytesOf (Token.braces body).text).length⟩ := by
  have hsize : (bytesOf (Token.braces body).text).length = (bytesOf body).length + 3 :=
    length_bytes_between ['$', '{'] body ['}']
  rw [proposeBraced, List.append_assoc, List.singleton_append,
    find_character_found (beq_of_not_mem hfirst.not_mem) rfl, hsize, ← before_colon_bytes_of]
  exact ⟨_, name_bytes_of beforeColon body _ _⟩

/-- Behind a dollar sign, the run of name characters is proposed. -/
theorem propose_run_body {run after : List Char}
    (hrun : ∀ character ∈ run, IsNameLetter character)
    (hafter : ∀ character ∈ after.head?, ¬ IsNameLetter character) :
    ∃ inside, proposeRun (bytesOf (run ++ after)) =
      .ok ⟨inside, some (bytesOf run), (bytesOf (Token.dollar run).text).length⟩ := by
  have hsize : (bytesOf (Token.dollar run).text).length = (bytesOf run).length + 1 := by
    show (bytesOf ('$' :: run)).length = _
    rw [bytes_of_cons, List.length_append]
    exact Nat.add_comm 1 _
  rw [proposeRun, find_run hrun hafter, hsize]
  exact ⟨_, name_bytes_of id run after _⟩

/-! ## Which reading is chosen -/

/-- After two brackets the scan looks for two closing ones. -/
theorem propose_brackets (inner : List Char) :
    propose (bytesOf (['[', '['] ++ inner)) = proposeBracketed (bytesOf inner) := by
  rw [propose, strip_found]

/-- After a dollar sign and a brace the scan looks for a closing brace. -/
theorem propose_braces (inner : List Char) :
    propose (bytesOf (['$', '{'] ++ inner)) = proposeBraced (bytesOf inner) := by
  rw [propose, strip_missed (by simp), strip_found]

/-- After any other dollar sign the scan looks for the end of a run. -/
theorem propose_dollar {inner : List Char} (hbrace : inner.head? ≠ some '{') :
    propose (bytesOf (['$'] ++ inner)) = proposeRun (bytesOf inner) := by
  have hbraces : ¬ ['$', '{'] <+: ['$'] ++ inner := by
    rintro ⟨rest, heq⟩
    exact hbrace (congrArg List.head? (List.cons.inj heq).2).symm
  rw [propose, strip_missed (by simp), strip_missed hbraces, strip_found]

/-- Any other bracket is passed over. -/
theorem propose_bracket {inner : List Char} (hbracket : inner.head? ≠ some '[') :
    propose (bytesOf (['['] ++ inner)) = .ok (.nothing 1) := by
  have hbrackets : ¬ ['[', '['] <+: ['['] ++ inner := by
    rintro ⟨rest, heq⟩
    exact hbracket (congrArg List.head? (List.cons.inj heq).2).symm
  rw [propose, strip_missed hbrackets, strip_missed (by simp), strip_missed (by simp)]

/-- What a token offers is proposed, and its bytes are consumed. -/
theorem propose_token {token : Token} {after : List Char} (hopening : token.IsOpening)
    (hfits : token.Fits after) :
    ∃ inside, propose (bytesOf (token.text ++ after)) =
      .ok ⟨inside, token.candidate.map bytesOf, (bytesOf token.text).length⟩ := by
  cases token with
  | plain => exact hopening.elim
  | bracket => exact ⟨none, propose_bracket hfits⟩
  | brackets body =>
      have htext : (Token.brackets body).text ++ after =
          ['[', '['] ++ (body ++ [']', ']'] ++ after) := by
        simp [Token.text]
      rw [htext, propose_brackets]
      exact propose_bracketed_body hfits
  | openBrackets =>
      refine ⟨none, (propose_brackets after).trans ?_⟩
      rw [proposeBracketed, find_mark_of_not_infix (by simp) hfits]
      rfl
  | braces body =>
      have htext : (Token.braces body).text ++ after = ['$', '{'] ++ (body ++ ['}'] ++ after) := by
        simp [Token.text]
      rw [htext, propose_braces]
      exact propose_braced_body hfits
  | openBraces =>
      have habsent : '}' ∉ after := fun hmem => hfits ((List.singleton_infix_iff _ _).mpr hmem)
      refine ⟨none, (propose_braces after).trans ?_⟩
      rw [proposeBraced, find_character_missed (beq_of_not_mem habsent)]
      rfl
  | dollar run =>
      obtain ⟨hbrace, hrun, hafter⟩ := hfits
      obtain ⟨inside, hpropose⟩ := propose_run_body hrun hafter
      exact ⟨inside, (propose_dollar hbrace).trans hpropose⟩

end DashboardGenerator.Placeholder
