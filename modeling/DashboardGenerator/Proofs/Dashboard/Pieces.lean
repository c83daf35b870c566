import DashboardGenerator.Proofs.Dashboard.Grammar

/-!
# Writing placeholders

An expression is put together from pieces: ordinary text, and placeholders in any of the four
notations. A name without an end mark needs something behind it that does not lengthen it (`Joins`);
apart from that pieces may touch. Every piece is read back as its own tokens, whatever stands behind
it (`Piece.well_placed_append`), so the scanner finds the pieces again (`scan_written`) and an
expression references the names that were put into it: `referenced_variables_of_pieces`.
-/

namespace DashboardGenerator.Placeholder

instance (character : Char) : Decidable (IsNameLetter character) :=
  inferInstanceAs (Decidable (_ ∨ _))

instance (letters : List Char) : Decidable (∀ character ∈ letters, IsNameLetter character) :=
  List.decidableBAll _ _

/-- A name as a placeholder carries it, reserved or not. -/
structure Name where
  letters : List Char
  ne_nil : letters ≠ []
  spelled : ∀ character ∈ letters, IsNameLetter character

/-- A part of an expression: text that opens no placeholder, or a placeholder as `[[name]]`, as
`${name}`, as `${name:format}` or as `$name`. -/
inductive Piece where
  | literal (text : List Char) (hbracket : '[' ∉ text) (hdollar : '$' ∉ text)
  | brackets (name : Name)
  | braces (name : Name)
  | formatted (name : Name) (format : List Char) (hformat : '}' ∉ format)
  | dollar (name : Name)

namespace Piece

/-- The piece as text. -/
def text : Piece → List Char
  | literal text _ _ => text
  | brackets name => '[' :: '[' :: name.letters ++ [']', ']']
  | braces name => '$' :: '{' :: name.letters ++ ['}']
  | formatted name format _ => '$' :: '{' :: name.letters ++ ':' :: format ++ ['}']
  | dollar name => '$' :: name.letters

/-- The name that a placeholder carries. -/
def name? : Piece → Option (List Char)
  | literal _ _ _ => none
  | brackets name | braces name | formatted name _ _ | dollar name => some name.letters

/-- The text may follow the piece: it does not lengthen a name without an end mark. -/
def MayPrecede : Piece → List Char → Prop
  | dollar _, after => ∀ character ∈ after.head?, ¬ IsNameLetter character
  | literal .., _ | brackets _, _ | braces _, _ | formatted .., _ => True

/-- The tokens that the piece is read as. -/
def tokens : Piece → List Token
  | literal text _ _ => text.map Token.plain
  | brackets name => [.brackets name.letters]
  | braces name => [.braces name.letters]
  | formatted name format _ => [.braces (name.letters ++ ':' :: format)]
  | dollar name => [.dollar name.letters]

end Piece

/-- The text of pieces in a row. -/
def written (pieces : List Piece) : List Char := pieces.flatMap Piece.text

/-- Every piece may precede the text of those after it. -/
def Joins : List Piece → Prop
  | [] => True
  | piece :: rest => piece.MayPrecede (written rest) ∧ Joins rest

/-! ## Pieces as tokens -/

/-- A mark whose first character does not occur in a body ends the body at its first place. -/
theorem ends_at_first_of_not_mem {first : Char} {mark body : List Char} (hfirst : first ∉ body)
    (after : List Char) : EndsAtFirst (first :: mark) body after := by
  intro before beyond heq
  by_contra hlt
  push Not at hlt
  -- An earlier mark would start within the body.
  have hat := congrArg (·[before.length]?) heq
  simp only [List.append_assoc, List.getElem?_append_left hlt,
    List.getElem?_append_right (Nat.le_refl before.length), Nat.sub_self, List.cons_append,
    List.getElem?_cons_zero] at hat
  exact hfirst (List.mem_of_getElem? hat)

namespace Name

variable (name : Name)

/-- A character that is no name letter does not occur in a name. -/
theorem not_mem {character : Char} (hother : ¬ IsNameLetter character) :
    character ∉ name.letters :=
  fun hmem => hother (name.spelled character hmem)

/-- A name starts with a name letter, whatever follows it. -/
theorem head_append (after : List Char) :
    ∃ character, (name.letters ++ after).head? = some character ∧ IsNameLetter character := by
  obtain ⟨character, rest, hletters⟩ := List.exists_cons_of_ne_nil name.ne_nil
  exact ⟨character, by rw [hletters]; rfl, name.spelled character (by rw [hletters]; simp)⟩

/-- The names of the user are those that are not reserved. -/
theorem is_user_name_iff : IsUserName name.letters ↔ ¬ ['_', '_'] <+: name.letters :=
  ⟨fun huser => huser.2.2, fun hfree => ⟨name.ne_nil, name.spelled, hfree⟩⟩

end Name

namespace Piece

variable (piece : Piece)

/-- The tokens of a piece join to its text. -/
theorem text_of_tokens : textOf piece.tokens = piece.text := by
  cases piece with
  | literal text =>
      simp [tokens, Piece.text, textOf, List.flatMap_map, Token.text]
  | brackets | braces | formatted | dollar => simp [tokens, Piece.text, Token.text]

/-- The tokens of a piece may stand in front of any tokens whose text may follow it. -/
theorem well_placed_append {rest : List Token} (hnext : piece.MayPrecede (textOf rest))
    (hrest : WellPlaced rest) : WellPlaced (piece.tokens ++ rest) := by
  cases piece with
  | literal text hbracket hdollar =>
      simp only [tokens]
      induction text with
      | nil => exact hrest
      | cons character text ih =>
          have hplain : (Token.plain character).Fits (textOf (text.map Token.plain ++ rest)) :=
            ⟨(List.ne_of_not_mem_cons hbracket).symm, (List.ne_of_not_mem_cons hdollar).symm⟩
          exact ⟨hplain, ih (List.not_mem_of_not_mem_cons hbracket)
            (List.not_mem_of_not_mem_cons hdollar) trivial⟩
  | brackets name => exact ⟨ends_at_first_of_not_mem (name.not_mem (by decide)) _, hrest⟩
  | braces name => exact ⟨ends_at_first_of_not_mem (name.not_mem (by decide)) _, hrest⟩
  | formatted name format hformat =>
      refine ⟨ends_at_first_of_not_mem (fun hmem => ?_) _, hrest⟩
      rcases List.mem_append.mp hmem with hname | hmem
      · exact name.not_mem (by decide) hname
      · exact hformat (List.mem_of_ne_of_mem (by decide) hmem)
  | dollar name =>
      refine ⟨⟨fun hbrace => ?_, name.spelled, hnext⟩, hrest⟩
      obtain ⟨character, hhead, hletter⟩ := name.head_append (textOf rest)
      cases hhead.symm.trans hbrace
      exact absurd hletter (by decide)

/-- The tokens of a piece propose the name that it carries, and no other. -/
theorem candidates_of_tokens : piece.tokens.filterMap Token.candidate = piece.name?.toList := by
  cases piece with
  | literal text =>
      rw [tokens, List.filterMap_map]
      exact List.filterMap_eq_nil_iff.mpr fun _ _ => rfl
  | brackets | dollar => rfl
  | braces name =>
      have hcandidate := (candidate_eq_some_iff _ _).mpr
        (Token.Offers.braces name.letters (name.not_mem (by decide)))
      rw [tokens, List.filterMap_cons_some hcandidate]
      rfl
  | formatted name format =>
      have hcandidate := (candidate_eq_some_iff _ _).mpr
        (Token.Offers.format name.letters format (name.not_mem (by decide)))
      rw [tokens, List.filterMap_cons_some hcandidate]
      rfl

end Piece

/-! ## Reading what was written -/

/-- The tokens of pieces in a row join to their text. -/
theorem text_of_flat_map_tokens (pieces : List Piece) :
    textOf (pieces.flatMap Piece.tokens) = written pieces := by
  induction pieces with
  | nil => rfl
  | cons piece rest ih =>
      rw [List.flatMap_cons, text_of_append, piece.text_of_tokens, ih]
      rfl

/-- The tokens of pieces that join are a reading of their text. -/
theorem well_placed_of_joins {pieces : List Piece} (hjoins : Joins pieces) :
    WellPlaced (pieces.flatMap Piece.tokens) := by
  induction pieces with
  | nil => trivial
  | cons piece rest ih =>
      obtain ⟨hnext, hrest⟩ := hjoins
      rw [← text_of_flat_map_tokens] at hnext
      exact piece.well_placed_append hnext (ih hrest)

/-- The scanner reads every piece as its own tokens. -/
theorem scan_written {pieces : List Piece} (hjoins : Joins pieces) :
    scan (written pieces) = pieces.flatMap Piece.tokens := by
  rw [← text_of_flat_map_tokens]
  exact scan_text_of (well_placed_of_joins hjoins)

/-- The tokens of pieces propose the names that the pieces carry, in order. -/
theorem candidates_of_pieces (pieces : List Piece) :
    (pieces.flatMap Piece.tokens).filterMap Token.candidate = pieces.filterMap Piece.name? := by
  induction pieces with
  | nil => rfl
  | cons piece rest ih =>
      rw [List.flatMap_cons, List.filterMap_append, piece.candidates_of_tokens, ih,
        List.filterMap_cons]
      cases piece.name? <;> rfl

/-- What pieces carry as names are names of the user unless they are reserved. -/
theorem is_user_name_of_piece {pieces : List Piece} {name : List Char}
    (hname : name ∈ pieces.filterMap Piece.name?) :
    IsUserName name ↔ ¬ ['_', '_'] <+: name := by
  obtain ⟨piece, -, hpiece⟩ := List.mem_filterMap.mp hname
  cases piece with
  | literal => cases hpiece
  | brackets carried | braces carried | formatted carried | dollar carried =>
      cases hpiece
      exact carried.is_user_name_iff

/-- The names of what was written are the names of its pieces that are not reserved, by first
appearance. -/
theorem names_of_written {pieces : List Piece} (hjoins : Joins pieces) :
    ListsFirst (fun name => ¬ ['_', '_'] <+: name) (pieces.filterMap Piece.name?)
      (namesOf (scan (written pieces))) := by
  have hlists := names_of_lists_first (scan (written pieces))
  rw [scan_written hjoins, candidates_of_pieces] at hlists
  rw [scan_written hjoins]
  refine ⟨hlists.nodup, fun name => ?_, hlists.ordered⟩
  rw [hlists.mem_iff]
  exact and_congr_right is_user_name_of_piece

/-- Writing placeholders and scanning them is a round trip. An expression that is put together from
pieces references the names of its pieces that do not start with two underscores, each once and in
order of first appearance. So it makes no difference in which notation a name is written and what
stands between the names, and no piece hides the name of another one. -/
theorem referenced_variables_of_pieces {pieces : List Piece} (hjoins : Joins pieces) :
    ListsFirst (fun name => ¬ ['_', '_'] <+: name) (pieces.filterMap Piece.name?)
      ((referencedVariables (String.ofList (written pieces))).map String.toList) ∧
    (∀ others, Joins others → others.filterMap Piece.name? = pieces.filterMap Piece.name? →
      referencedVariables (String.ofList (written others)) =
        referencedVariables (String.ofList (written pieces))) ∧
    ∀ piece ∈ pieces, ∀ name, piece.name? = some name → ¬ ['_', '_'] <+: name →
      String.ofList name ∈ referencedVariables (String.ofList (written pieces)) := by
  have hnames : ∀ others, Joins others →
      referencedVariables (String.ofList (written others)) =
        (namesOf (others.flatMap Piece.tokens)).map String.ofList := by
    intro others hothers
    rw [referencedVariables, String.toList_ofList, scan_written hothers]
  have hlists := names_of_written hjoins
  refine ⟨?_, fun others hothers hsame => ?_, fun piece hpiece name hname hfree => ?_⟩
  · rw [toList_referenced_variables, String.toList_ofList]
    exact hlists
  · rw [hnames others hothers, hnames pieces hjoins, namesOf, namesOf, candidates_of_pieces,
      candidates_of_pieces, hsame]
  · have hmem : name ∈ namesOf (scan (written pieces)) :=
      (hlists.mem_iff name).mpr ⟨List.mem_filterMap.mpr ⟨piece, hpiece, hname⟩, hfree⟩
    rw [hnames pieces hjoins, ← scan_written hjoins]
    exact List.mem_map_of_mem hmem

/-- Placeholders in all notations, one directly behind the other: `[[a]]${b:[[c$d]}$__c[[a]]$e-x`. -/
def touchingPieces : List Piece := [
  .brackets ⟨['a'], by decide, by decide⟩,
  .formatted ⟨['b'], by decide, by decide⟩ "[[c$d]".toList (by decide),
  .dollar ⟨['_', '_', 'c'], by decide, by decide⟩,
  .brackets ⟨['a'], by decide, by decide⟩,
  .dollar ⟨['e'], by decide, by decide⟩,
  .literal "-x".toList (by decide) (by decide)]

/-- The names are found although placeholders touch, a format holds openers and a built-in variable
stands in between. -/
theorem referenced_variables_of_touching_pieces :
    Joins touchingPieces ∧
      ListsFirst (fun name => ¬ ['_', '_'] <+: name) [['a'], ['b'], ['_', '_', 'c'], ['a'], ['e']]
        ((referencedVariables (String.ofList (written touchingPieces))).map String.toList) ∧
      "e" ∈ referencedVariables (String.ofList (written touchingPieces)) := by
  have hjoins : Joins touchingPieces := by
    refine ⟨trivial, trivial, ?_, trivial, ?_, trivial, trivial⟩
    · intro character hhead
      obtain rfl : '[' = character := Option.some.inj hhead
      decide
    · intro character hhead
      obtain rfl : '-' = character := Option.some.inj hhead
      decide
  obtain ⟨hlists, -, hmem⟩ := referenced_variables_of_pieces hjoins
  exact ⟨hjoins, hlists, hmem (.dollar ⟨['e'], by decide, by decide⟩) (by simp [touchingPieces])
    ['e'] rfl (by decide)⟩

end DashboardGenerator.Placeholder
