import DashboardGenerator.Proofs.Toml.Lexing

/-!
# Legible documents

What the writer gives for a value or a section is legible if its keys fit: a value up to the token
that closes it (`Literal.Fits.is_legible`), a section in front of anything (`Section.Fits.is_legible`).
So a document is split into the tokens that it was written from: `tokens_text`.
-/

namespace DashboardGenerator.Toml

open Reader

/-! ## Values -/

/-- A token that the writer puts behind a value: a comma, a closing bracket or brace, or a line
break. -/
def Token.closes : Token → Bool
  | .comma | .rightBracket | .rightBrace | .newline => true
  | _ => false

/-- Punctuation or a line break. -/
def Token.isMark : Token → Bool
  | .dot | .equals | .comma | .leftBracket | .rightBracket | .leftBrace | .rightBrace
  | .newline => true
  | .blank _ | .comment | .string .. | .word _ => false

/-- Punctuation and line breaks are legible in front of anything. -/
theorem legible_mark {mark : Token} (hmark : mark.isMark = true) {rest : List Token}
    (hrest : Legible rest) : Legible (mark :: rest) := by
  cases mark with
  | blank | comment | string | word => exact absurd hmark Bool.false_ne_true
  | dot | equals | comma | leftBracket | rightBracket | leftBrace | rightBrace | newline =>
      exact ⟨trivial, fun _ _ => ⟨fun h => Bool.false_ne_true h.1, fun h =>
        Bool.false_ne_true h.1⟩, hrest⟩

/-- A space is legible in front of anything but another one. -/
theorem legible_space {rest : List Token} (hnext : ∀ next ∈ rest.head?, next.isBlank = false)
    (hrest : Legible rest) : Legible (.blank [' '] :: rest) := by
  refine ⟨rfl, fun next hmem => ?_, hrest⟩
  simp [Token.Apart, Token.isText, hnext next hmem]

/-- A word or a string is legible in front of anything but another one. -/
theorem legible_text {token : Token} {rest : List Token} (hplain : token.IsPlain)
    (htoken : token.isBlank = false) (hnext : ∀ next ∈ rest.head?, next.isText = false)
    (hrest : Legible rest) : Legible (token :: rest) := by
  refine ⟨hplain, fun next hmem => ?_, hrest⟩
  simp [Token.Apart, htoken, hnext next hmem]

theorem is_text_of_closes {token : Token} (hcloses : token.closes = true) :
    token.isText = false := by
  cases token <;> first | rfl | exact absurd hcloses Bool.false_ne_true

/-- A key is legible in front of a value. -/
theorem legible_key {key : String} (hkey : IsBareKey key) {rest : List Token}
    (hnext : ∀ next ∈ rest.head?, next.isBlank = false) (hrest : Legible rest) :
    Legible (keyTokens key ++ rest) := by
  refine legible_text ⟨key, hkey⟩ rfl (fun next hmem => ?_) ?_
  · cases hmem
    rfl
  refine legible_space (fun next hmem => ?_) ?_
  · cases hmem
    rfl
  exact legible_mark rfl (legible_space hnext hrest)

/-- No value starts with a blank. -/
theorem Literal.head_tokens (literal : Literal) (rest : List Token) :
    ∀ next ∈ (literal.tokens ++ rest).head?, next.isBlank = false := by
  intro next hmem
  cases literal with
  | boolean value => cases value <;> (cases hmem; rfl)
  | string | array | table => cases hmem; rfl

theorem Literal.head_item_tokens (item : Literal) (items : List Literal) (rest : List Token) :
    ∀ next ∈ (itemTokens (item :: items) ++ rest).head?, next.isBlank = false := by
  cases items with
  | nil => exact item.head_tokens rest
  | cons other items =>
      simp only [itemTokens, List.append_assoc]
      exact item.head_tokens _

theorem Literal.head_entry_tokens (entry : String × Literal) (entries : List (String × Literal))
    (rest : List Token) :
    ∀ next ∈ (entryTokens (entry :: entries) ++ rest).head?, next.isBlank = false := by
  intro next hmem
  cases entries <;> (cases hmem; rfl)

/-- The tokens of a value are legible up to what closes it. -/
def Literal.IsLegible (literal : Literal) : Prop :=
  ∀ next rest, next.closes = true → Legible (next :: rest) →
    Legible (literal.tokens ++ next :: rest)

/-- The elements of an array are legible if each of them is. -/
theorem legible_items {items : List Literal} (hitems : ∀ item ∈ items, item.IsLegible)
    {rest : List Token} (hrest : Legible (.rightBracket :: rest)) :
    Legible (Literal.itemTokens items ++ .rightBracket :: rest) := by
  induction items with
  | nil => exact hrest
  | cons item items ih =>
      obtain ⟨hitem, hitems⟩ := List.forall_mem_cons.mp hitems
      have hothers := ih hitems
      cases items with
      | nil => exact hitem _ _ rfl hrest
      | cons other items =>
          simp only [Literal.itemTokens, List.append_assoc, List.cons_append]
          refine hitem _ _ rfl (legible_mark rfl ?_)
          exact legible_space (Literal.head_item_tokens _ _ _) hothers

/-- The entries of a table are legible if their keys are words and each of their values is legible. -/
theorem legible_entries {entries : List (String × Literal)}
    (hkeys : ∀ entry ∈ entries, IsBareKey entry.1) (hvalues : ∀ entry ∈ entries, entry.2.IsLegible)
    {rest : List Token} (hrest : Legible (.rightBrace :: rest)) :
    Legible (Literal.entryTokens entries ++ .rightBrace :: rest) := by
  induction entries with
  | nil => exact hrest
  | cons entry entries ih =>
      obtain ⟨key, value⟩ := entry
      obtain ⟨hkey, hkeys⟩ := List.forall_mem_cons.mp hkeys
      obtain ⟨hvalue, hvalues⟩ := List.forall_mem_cons.mp hvalues
      have hothers := ih hkeys hvalues
      cases entries with
      | nil =>
          rw [Literal.entryTokens, List.append_assoc]
          exact legible_key hkey (value.head_tokens _) (hvalue _ _ rfl hrest)
      | cons other entries =>
          simp only [Literal.entryTokens, List.append_assoc, List.cons_append]
          refine legible_key hkey (value.head_tokens _) (hvalue _ _ rfl ?_)
          refine legible_mark rfl (legible_space ?_ hothers)
          exact Literal.head_entry_tokens _ _ _

/-- The tokens of a value whose keys fit are legible. -/
theorem Literal.Fits.is_legible {room : Nat} {literal : Literal} (hfits : literal.Fits room) :
    literal.IsLegible := by
  induction hfits with
  | string room value =>
      -- What closes a value is neither a word nor a string, so it keeps apart from both.
      intro next rest hcloses hrest
      refine legible_text rfl rfl (fun other hmem => ?_) hrest
      cases hmem
      exact is_text_of_closes hcloses
  | boolean room value =>
      intro next rest hcloses hrest
      -- Both truth values are spelled like keys.
      have hplain : ∃ key, ∃ word, Literal.tokens (.boolean value) = [.word word] ∧
          bareKey? word = some key := by
        cases value
        · exact ⟨"false", _, rfl, by decide⟩
        · exact ⟨"true", _, rfl, by decide⟩
      obtain ⟨key, word, htokens, hword⟩ := hplain
      rw [htokens]
      refine legible_text ⟨key, hword⟩ rfl (fun other hmem => ?_) hrest
      cases hmem
      exact is_text_of_closes hcloses
  | array room items _ ih =>
      intro next rest _ hrest
      have hclosing : Legible (.rightBracket :: next :: rest) :=
        legible_mark rfl hrest
      simp only [Literal.tokens, List.cons_append, List.append_assoc, List.nil_append]
      exact legible_mark rfl (legible_items ih hclosing)
  | table room entries hkeys _ ih =>
      intro next rest _ hrest
      have hbare : ∀ entry ∈ entries, IsBareKey entry.1 :=
        fun entry hmem => hkeys.bare entry.1 (List.mem_map_of_mem hmem)
      have hclosing : Legible (.rightBrace :: next :: rest) :=
        legible_mark rfl hrest
      simp only [Literal.tokens, List.cons_append, List.append_assoc, List.nil_append]
      exact legible_mark rfl (legible_entries hbare ih hclosing)

/-! ## Sections -/

/-- Lines are legible in front of anything. -/
theorem legible_lines {lines : List (String × Literal)}
    (hkeys : ∀ line ∈ lines, IsBareKey line.1) (hvalues : ∀ line ∈ lines, line.2.IsLegible)
    {rest : List Token} (hrest : Legible rest) :
    Legible (lines.flatMap lineTokens ++ rest) := by
  induction lines with
  | nil => exact hrest
  | cons line lines ih =>
      obtain ⟨hkey, hkeys⟩ := List.forall_mem_cons.mp hkeys
      obtain ⟨hvalue, hvalues⟩ := List.forall_mem_cons.mp hvalues
      have hothers := ih hkeys hvalues
      simp only [List.flatMap_cons, lineTokens, List.append_assoc, List.cons_append,
        List.nil_append]
      refine legible_key hkey (line.2.head_tokens _) ?_
      exact hvalue _ _ rfl (legible_mark rfl hothers)

/-- A header is legible in front of anything. -/
theorem legible_header {path : List String} (hpath : ∀ step ∈ path, IsBareKey step) {key : String}
    (hkey : IsBareKey key) {rest : List Token} (hrest : Legible rest) :
    Legible (headerTokens path key ++ rest) := by
  have hend : Legible (.word key.toList :: .rightBracket :: .rightBracket :: .newline :: rest) := by
    refine legible_text ⟨key, hkey⟩ rfl (fun next hmem => ?_) ?_
    · cases hmem
      rfl
    exact legible_mark rfl (legible_mark rfl (legible_mark rfl hrest))
  have hway : Legible (path.flatMap (fun step => [.word step.toList, .dot]) ++
      .word key.toList :: .rightBracket :: .rightBracket :: .newline :: rest) := by
    induction path with
    | nil => exact hend
    | cons step path ih =>
        obtain ⟨hstep, hpath⟩ := List.forall_mem_cons.mp hpath
        refine legible_text ⟨step, hstep⟩ rfl (fun next hmem => ?_) ?_
        · cases hmem
          rfl
        exact legible_mark rfl (ih hpath)
  simp only [headerTokens, List.cons_append, List.append_assoc, List.nil_append]
  exact legible_mark rfl (legible_mark rfl (legible_mark rfl hway))

/-- The tokens of a section at any path are legible in front of anything. -/
def Section.IsLegible (element : Section) : Prop :=
  ∀ path rest, (∀ step ∈ path, IsBareKey step) → Legible rest →
    Legible (element.tokens path ++ rest)

/-- The elements of an array of tables are legible if each of them is. -/
theorem legible_elements {elements : List Section}
    (helements : ∀ element ∈ elements, element.IsLegible) {path : List String}
    (hpath : ∀ step ∈ path, IsBareKey step) {key : String} (hkey : IsBareKey key)
    {rest : List Token} (hrest : Legible rest) :
    Legible (Section.elementTokens path key elements ++ rest) := by
  have hinner : ∀ step ∈ path ++ [key], IsBareKey step := by
    intro step hmem
    rcases List.mem_append.mp hmem with hway | hlast
    · exact hpath step hway
    · rwa [List.mem_singleton.mp hlast]
  induction elements with
  | nil => exact hrest
  | cons element elements ih =>
      obtain ⟨helement, helements⟩ := List.forall_mem_cons.mp helements
      simp only [Section.elementTokens, List.append_assoc]
      exact legible_header hpath hkey (helement _ _ hinner (ih helements))

/-- The arrays of tables of a section are legible if each of their elements is. -/
theorem legible_groups {groups : List (String × List Section)}
    (hkeys : ∀ group ∈ groups, IsBareKey group.1)
    (helements : ∀ group ∈ groups, ∀ element ∈ group.2, element.IsLegible) {path : List String}
    (hpath : ∀ step ∈ path, IsBareKey step) {rest : List Token} (hrest : Legible rest) :
    Legible (Section.groupTokens path groups ++ rest) := by
  induction groups with
  | nil => exact hrest
  | cons group groups ih =>
      obtain ⟨hkey, hkeys⟩ := List.forall_mem_cons.mp hkeys
      obtain ⟨hgroup, helements⟩ := List.forall_mem_cons.mp helements
      simp only [Section.groupTokens, List.append_assoc]
      exact legible_elements hgroup hpath hkey (ih hkeys helements)

/-- The tokens of a section whose keys fit are legible. -/
theorem Section.Fits.is_legible {room : Nat} {element : Section} (hfits : element.Fits room) :
    element.IsLegible := by
  induction hfits with
  | mk room lines groups hkeys hlines _ ih =>
      intro path rest hpath hrest
      have hline : ∀ line ∈ lines, IsBareKey line.1 := fun line hmem =>
        hkeys.bare line.1 (List.mem_append_left _ (List.mem_map_of_mem hmem))
      have hgroup : ∀ group ∈ groups, IsBareKey group.1 := fun group hmem =>
        hkeys.bare group.1 (List.mem_append_right _ (List.mem_map_of_mem hmem))
      rw [Section.tokens, List.append_assoc]
      exact legible_lines hline (fun line hmem => (hlines line hmem).is_legible)
        (legible_groups hgroup ih hpath hrest)

/-- Where no byte order mark comes first, none is skipped. -/
theorem skip_mark_of_head {text : List Char} (hmark : '\uFEFF' ∉ text.head?) :
    skipByteOrderMark text = text := by
  unfold skipByteOrderMark
  split
  · exact absurd rfl hmark
  · rfl

/-- Legible tokens are read back from a text, which starts with no byte order mark. -/
theorem tokens_skip_mark {tokens : List Token} (hlegible : Legible tokens) :
    tokens? (skipByteOrderMark (tokens.flatMap Token.text)) = some tokens := by
  have hmark : '\uFEFF' ∉ (tokens.flatMap Token.text).head? := by
    intro hfirst
    obtain ⟨_, _, hstart⟩ := hlegible.head hfirst
    exact hstart.not_mark rfl
  rw [skip_mark_of_head hmark, tokens_flat_map_text hlegible]

/-- The tokens of a document are legible. -/
theorem Section.Fits.legible_tokens {room : Nat} {document : Section} (hfits : document.Fits room) :
    Legible (document.tokens []) := by
  have hlegible := hfits.is_legible [] [] (by simp) trivial
  rwa [List.append_nil] at hlegible

/-- The tokens of a document are read back from its text. -/
theorem tokens_text {room : Nat} {document : Section} (hfits : document.Fits room) :
    tokens? (skipByteOrderMark document.text.toList) = some (document.tokens []) := by
  rw [Section.text, String.toList_ofList, tokens_skip_mark hfits.legible_tokens]

end DashboardGenerator.Toml
