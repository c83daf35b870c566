import DashboardGenerator.Proofs.Dashboard.Grammar

/-!
# Expressions side by side

An expression is closed if it leaves no placeholder open. Put in front of a character that neither
opens a placeholder nor lengthens what stands before it, a closed expression is read as it is read
on its own, and what follows is read from behind that character (`scan_append_separator`). So its
variables come first, in their order, and the other expression adds those that are new:
`referenced_variables_append_separator`.
-/

namespace DashboardGenerator.Placeholder

/-- The token opens a placeholder that nothing closes. -/
def Token.IsOpen : Token → Prop
  | .openBrackets | .openBraces => True
  | .plain _ | .bracket | .brackets _ | .braces _ | .dollar _ => False

instance (token : Token) : Decidable token.IsOpen :=
  match token with
  | .openBrackets | .openBraces => isTrue trivial
  | .plain _ | .bracket | .brackets _ | .braces _ | .dollar _ => isFalse id

/-- Scanning the expression meets no `[[` without `]]` and no `${` without `}`. -/
def IsClosed (expression : String) : Prop :=
  ∀ token ∈ scan expression.toList, ¬ token.IsOpen

instance (expression : String) : Decidable (IsClosed expression) :=
  List.decidableBAll _ _

/-- The character opens nothing, completes no opening mark and lengthens no name. -/
def IsSeparator (character : Char) : Prop :=
  character ≠ '[' ∧ character ≠ '$' ∧ character ≠ '{' ∧ ¬ IsNameLetter character

/-! ## Tokens in front of a separator -/

/-- The first place of a mark stays the first one if more text is added at the end. -/
theorem EndsAtFirst.append {mark body after : List Char} (hfirst : EndsAtFirst mark body after)
    (more : List Char) : EndsAtFirst mark body (after ++ more) := by
  intro before beyond heq
  by_contra hlt
  -- An earlier place would lie within the body and its mark, in front of all that was added.
  have hprefix : before ++ mark <+: body ++ mark ++ after := by
    have hleft : before ++ mark <+: body ++ mark ++ after ++ more :=
      ⟨beyond, by rw [← heq, List.append_assoc (body ++ mark)]⟩
    refine List.prefix_of_prefix_length_le hleft (List.prefix_append _ _) ?_
    simp only [List.length_append]
    omega
  obtain ⟨rest, hrest⟩ := hprefix
  exact hlt (hfirst before rest hrest.symm)

/-- The first character of a text with more behind it is that of the text, or else the first one of
what is behind it. -/
theorem head_append_cons {after behind : List Char} {separator character : Char}
    (hhead : (after ++ separator :: behind).head? = some character) :
    after.head? = some character ∨ separator = character := by
  cases after with
  | nil => exact .inr (Option.some.inj hhead)
  | cons first rest => exact .inl hhead

variable {separator : Char}

/-- A token that is not open fits the text after it also if a separator follows that text. -/
theorem Token.Fits.append_separator {token : Token} {after : List Char} (hfits : token.Fits after)
    (hclosed : ¬ token.IsOpen) (hseparator : IsSeparator separator) (behind : List Char) :
    token.Fits (after ++ separator :: behind) := by
  obtain ⟨hbracket, -, hbrace, hletter⟩ := hseparator
  cases token with
  | plain character => exact hfits
  | bracket =>
      intro hhead
      exact (head_append_cons hhead).elim hfits hbracket
  | brackets body => exact EndsAtFirst.append hfits _
  | braces body => exact EndsAtFirst.append hfits _
  | openBrackets | openBraces => exact absurd trivial hclosed
  | dollar run =>
      obtain ⟨hopen, hrun, hafter⟩ := hfits
      refine ⟨?_, hrun, ?_⟩
      · intro hhead
        rw [← List.append_assoc] at hhead
        exact (head_append_cons hhead).elim hopen hbrace
      · intro character hhead
        rcases head_append_cons hhead with hhead | hcharacter
        · exact hafter character hhead
        · exact hcharacter ▸ hletter

/-- Tokens that are not open stay in place in front of a separator. -/
theorem WellPlaced.append_separator {tokens rest : List Token} (hplaced : WellPlaced tokens)
    (hclosed : ∀ token ∈ tokens, ¬ token.IsOpen) (hseparator : IsSeparator separator)
    (hrest : WellPlaced rest) : WellPlaced (tokens ++ .plain separator :: rest) := by
  induction tokens with
  | nil => exact ⟨⟨hseparator.1, hseparator.2.1⟩, hrest⟩
  | cons token tokens ih =>
      obtain ⟨hfits, hplaced⟩ := hplaced
      obtain ⟨htoken, hclosed⟩ := List.forall_mem_cons.mp hclosed
      refine ⟨?_, ih hplaced hclosed⟩
      show token.Fits (textOf (tokens ++ .plain separator :: rest))
      rw [text_of_append]
      exact hfits.append_separator htoken hseparator (textOf rest)

/-- The scanner reads a closed expression in front of a separator as it does on its own, and starts
anew behind the separator. -/
theorem scan_append_separator {front : String} (hclosed : IsClosed front)
    (hseparator : IsSeparator separator) (behind : List Char) :
    scan (front.toList ++ separator :: behind) =
      scan front.toList ++ .plain separator :: scan behind := by
  have hfront := scan_decomposes front.toList
  have hbehind := scan_decomposes behind
  refine (decomposes_iff.mp ⟨?_, ?_⟩).symm
  · rw [text_of_append, text_of_cons, hfront.text_eq, hbehind.text_eq]
    rfl
  · exact hfront.placed.append_separator hclosed hseparator hbehind.placed

/-! ## Their names -/

/-- The names of tokens in a row are those of the first ones and then the new ones of the others. -/
theorem names_of_append (tokens rest : List Token) :
    namesOf (tokens ++ rest) =
      namesOf tokens ++ (namesOf rest).filter fun name => name ∉ namesOf tokens := by
  have hnew : ∀ names others : List (List Char),
      (names.removeAll others).eraseDups =
        names.eraseDups.filter fun name => name ∉ others.eraseDups := by
    intro names others
    rw [List.removeAll, eraseDups_filter]
    refine List.filter_congr fun name _ => ?_
    simp [List.mem_eraseDups]
  rw [namesOf, List.filterMap_append, List.filter_append, List.eraseDups_append, hnew]
  rfl

/-- An ordinary character offers no name. -/
theorem names_of_plain_cons (character : Char) (tokens : List Token) :
    namesOf (.plain character :: tokens) = namesOf tokens := rfl

/-- Expressions compose. Behind a closed expression and a separator, any other expression adds those
of its variables that are new: it removes, reorders and renames none of the first ones, and none of
its own is hidden. -/
theorem referenced_variables_append_separator {front : String} (hclosed : IsClosed front)
    (hseparator : IsSeparator separator) (behind : String) :
    referencedVariables (front ++ String.singleton separator ++ behind) =
        referencedVariables front ++
          (referencedVariables behind).filter (fun name => name ∉ referencedVariables front) ∧
      referencedVariables front <+:
        referencedVariables (front ++ String.singleton separator ++ behind) ∧
      ∀ name ∈ referencedVariables behind,
        name ∈ referencedVariables (front ++ String.singleton separator ++ behind) := by
  have hjoined : referencedVariables (front ++ String.singleton separator ++ behind) =
      referencedVariables front ++
        (referencedVariables behind).filter (fun name => name ∉ referencedVariables front) := by
    have htext : (front ++ String.singleton separator ++ behind).toList =
        front.toList ++ separator :: behind.toList := by
      simp
    unfold referencedVariables
    rw [htext, scan_append_separator hclosed hseparator, names_of_append, names_of_plain_cons,
      List.map_append, List.filter_map]
    refine congrArg (_ ++ List.map _ ·) (List.filter_congr fun name _ => ?_)
    refine decide_eq_decide.mpr (Iff.symm (not_congr ?_))
    exact List.mem_map_of_injective fun _ _ => String.ofList_injective
  refine ⟨hjoined, ?_, ?_⟩
  · rw [hjoined]
    exact List.prefix_append _ _
  · intro name hname
    rw [hjoined, List.mem_append, List.mem_filter]
    by_cases hfront : name ∈ referencedVariables front
    · exact .inl hfront
    · exact .inr ⟨hname, by simpa using hfront⟩

/-- A first expression that ends in a bracket, and a second one that starts with closing marks and
mentions a variable of the first again: `[[a]] ${b:[[x} $[`, a bracket and `]}[[c]]$a`. -/
theorem referenced_variables_append_closing_marks :
    IsClosed "[[a]] $\x7bb:[[x\x7d $[" ∧ IsSeparator ']' ∧
      referencedVariables "[[a]] $\x7bb:[[x\x7d $[]]\x7d[[c]]$a" =
        ["a", "b"] ++ ["c", "a"].filter (fun name => name ∉ ["a", "b"]) ∧
      "c" ∈ referencedVariables "[[a]] $\x7bb:[[x\x7d $[]]\x7d[[c]]$a" := by
  have hclosed : IsClosed "[[a]] $\x7bb:[[x\x7d $[" := by decide +kernel
  have hseparator : IsSeparator ']' := by
    unfold IsSeparator IsNameLetter
    decide
  have hfront : referencedVariables "[[a]] $\x7bb:[[x\x7d $[" = ["a", "b"] := by decide +kernel
  have hbehind : referencedVariables "]\x7d[[c]]$a" = ["c", "a"] := by decide +kernel
  obtain ⟨hjoined, -, hmem⟩ :=
    referenced_variables_append_separator hclosed hseparator "]\x7d[[c]]$a"
  rw [hfront, hbehind] at hjoined
  exact ⟨hclosed, hseparator, hjoined, hmem "c" (by rw [hbehind]; simp)⟩

end DashboardGenerator.Placeholder
