import DashboardGenerator.Proofs.Toml.Place
import DashboardGenerator.Proofs.Toml.Section

/-!
# A word in place of a written string

Where a written document has a string behind a key, another text may have a word: the one has the
string as a value there (`has_value_written`), and the other one the word (`has_value_replaced`).
-/

namespace DashboardGenerator.Toml

namespace Reader

/-! ## Behind a key -/

theorem position_of_settled_equals {reader after : Reader}
    (hstep : reader.settledStep? .equals = some after) : after.position = .value := by
  obtain ⟨tables, header, key, frames, position⟩ := reader
  cases position with
  | keyEnd use parts =>
      cases use with
      | table | element => cases hstep
      | pair =>
          cases frames with
          | nil => cases hstep; rfl
          | cons frame outer =>
              cases frame with
              | array => cases hstep
              | inlineTable => cases hstep; rfl
  | _ => cases hstep

/-- The sign behind a key is only read in front of its value. -/
theorem position_of_equals {reader after : Reader} (hstep : reader.step? .equals = some after) :
    after.position = .value := by
  unfold step? at hstep
  split at hstep
  · obtain ⟨middle, -, hstep⟩ := Option.bind_eq_some_iff.mp hstep
    exact position_of_settled_equals hstep
  · obtain ⟨middle, -, hstep⟩ := Option.bind_eq_some_iff.mp hstep
    exact position_of_settled_equals hstep
  · exact position_of_settled_equals hstep

/-- A key with its sign leads to the place of its value, wherever it could be read. -/
theorem takes_value_of_key {reader after : Reader} {key : String}
    (hrun : reader.run? (keyTokens key) = some after) : TakesValue after.position := by
  rw [keyTokens, run_cons] at hrun
  obtain ⟨word, -, hrun⟩ := Option.bind_eq_some_iff.mp hrun
  rw [run_cons] at hrun
  obtain ⟨blank, -, hrun⟩ := Option.bind_eq_some_iff.mp hrun
  rw [run_cons] at hrun
  obtain ⟨⟨tables, header, path, frames, position⟩, hequals, hrun⟩ :=
    Option.bind_eq_some_iff.mp hrun
  cases position_of_equals hequals
  cases hrun
  exact .inl rfl

/-! ## Behind a value -/

/-- No word and no dot is read behind a value. -/
theorem step_text_behind_value {reader : Reader} (hposition : IsBehindValue reader.position) :
    (∀ text, reader.step? (.word text) = none) ∧ reader.step? .dot = none := by
  refine ⟨fun text => ?_, ?_⟩
  all_goals
    rw [step_of_is_behind_value hposition]
    obtain ⟨tables, header, key, frames, position⟩ := reader
    rcases hposition with hplace | hplace | hplace <;> (cases hplace; rfl)

/-- What could be read behind a value does not go on with it. -/
theorem ends_bare_of_run {reader after : Reader} (hposition : IsBehindValue reader.position)
    {rest : List Token} (hrun : reader.run? rest = some after) : endsBare rest = true := by
  obtain ⟨hword, hdot⟩ := step_text_behind_value hposition
  unfold endsBare
  split
  · rw [run_cons, hword] at hrun
    cases hrun
  · rw [run_cons, hdot] at hrun
    cases hrun
  · rw [run_cons, step_blank hposition] at hrun
    change reader.run? (_ :: _) = some after at hrun
    rw [run_cons, hword] at hrun
    cases hrun
  · rfl

end Reader

/-! ## Documents -/

section Written

variable {document : Section} (hfits : document.Fits nestingLimit) {front right : List Token}
  {key : String} {value : List Char}
  (hdocument : document.tokens [] = front ++ keyTokens key ++ .string false value :: right)

include hfits hdocument

/-- A written string behind a key is the value of the key. -/
theorem has_value_written :
    HasValueAt document.text (front ++ keyTokens key) (.string false value) right := by
  have htokens : documentTokens? document.text = some (document.tokens []) := tokens_text hfits
  have hread : (Reader.start.run? (document.tokens [])).bind Reader.finish? =
      some document.entries := by
    have hall := document_text hfits
    rw [document?, tokens_text hfits] at hall
    exact hall
  rw [hdocument] at htokens hread
  obtain ⟨last, hlast, -⟩ := Option.bind_eq_some_iff.mp hread
  rw [Reader.run_append] at hlast
  obtain ⟨reader, hreader, hlast⟩ := Option.bind_eq_some_iff.mp hlast
  rw [Reader.run_append] at hreader
  obtain ⟨before, hbefore, hkey⟩ := Option.bind_eq_some_iff.mp hreader
  have hposition := Reader.takes_value_of_key hkey
  refine ⟨htokens, ⟨reader, ?_, hposition⟩, ?_⟩
  · rw [Reader.run_append, hbefore]
    exact hkey
  · rw [Reader.run_cons, Reader.step_value hposition (.inl rfl)] at hlast
    obtain ⟨after, hafter, hlast⟩ := Option.bind_eq_some_iff.mp hlast
    exact Reader.ends_bare_of_run (Reader.is_behind_value_of_deliver hafter) hlast

/-- A word in place of the string is the value of the key. -/
theorem has_value_replaced {word : List Char} (hword : IsWord word) (hmark : '\uFEFF' ∉ word) :
    HasValueAt (String.ofList ((front ++ keyTokens key).flatMap Token.text ++ word ++
      right.flatMap Token.text)) (front ++ keyTokens key) (.word word) right := by
  obtain ⟨-, hreaches, hends⟩ := has_value_written hfits hdocument
  refine ⟨?_, hreaches, hends⟩
  have hlegible := hfits.legible_tokens
  rw [hdocument] at hlegible
  obtain ⟨-, hapart, hright⟩ := hlegible.of_append
  have hstarts : ∀ first ∈ (word ++ right.flatMap Token.text).head?,
      ∃ next ∈ (Token.string false value :: right).head?, StartsPlainly next first := by
    obtain ⟨first, more, rfl⟩ := List.exists_cons_of_ne_nil hword.ne_nil
    rintro _ ⟨⟩
    refine ⟨_, rfl, nofun, fun _ => ?_, ?_⟩
    · exact is_blank_of_ends_word (hword.ends first List.mem_cons_self)
    · rintro rfl
      exact hmark List.mem_cons_self
  have hends : ∀ next ∈ (right.flatMap Token.text).head?, endsWord next = true := by
    intro next hnext
    obtain ⟨token, htoken, hstart⟩ := hright.head hnext
    have htext := (hapart token htoken).1
    exact hstart.ends_word (by simpa [Token.isText] using htext)
  have hskip : '\uFEFF' ∉ ((front ++ keyTokens key).flatMap Token.text ++ word ++
      right.flatMap Token.text).head? := by
    obtain ⟨token, more, hshape⟩ := List.exists_cons_of_ne_nil
      (show front ++ keyTokens key ≠ [] by simp [keyTokens])
    rw [hshape] at hlegible ⊢
    obtain ⟨first, others, htext, hstart⟩ := hlegible.1.starts
    simpa [htext] using hstart.not_mark
  rw [documentTokens?, String.toList_ofList, skip_mark_of_head hskip, List.append_assoc,
    tokens_flat_map_append hlegible hstarts, tokens_word hword hends, tokens_flat_map_text hright]
  rfl

end Written

end DashboardGenerator.Toml
