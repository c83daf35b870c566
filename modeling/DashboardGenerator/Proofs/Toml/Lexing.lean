import DashboardGenerator.Proofs.Toml.Encoding
import DashboardGenerator.Toml.Writer
import Mathlib.Data.List.TakeWhile

/-!
# Tokens and their text

Tokens are read back from their text if each of them is plain and none runs into the next one:
`tokens_flat_map_text`. A token alone does not tell: the empty string in front of a quote would open
a string of several lines, and two words in a row are one.
-/

namespace DashboardGenerator.Toml

open Number Text Reader

/-! ## Strings -/

/-- The writer's way to write a character is one of those that are read back. -/
theorem encodes_character_escape (character : Char) :
    EncodesCharacter character (escape character) := by
  unfold escape
  split
  · next hescaped =>
      have hascii : character.toNat < 0x80 := by
        rcases hescaped with rfl | rfl | hcontrol | hdelete
        · decide
        · decide
        · omega
        · omega
      have hdigit : ∀ value < 16, IsDigitFor (hexDigit value) value := by decide
      have hhigh : character.toNat / 16 < 16 := by omega
      have hlow : character.toNat % 16 < 16 := Nat.mod_lt _ (by decide)
      -- Two zeros stand in front, so the four digits spell the number of the last two.
      have hspells := (((Spells.nil.digit (by decide) (hdigit 0 (by decide))).digit (by decide)
        (hdigit 0 (by decide))).digit hhigh (hdigit _ hhigh)).digit hlow (hdigit _ hlow)
      have hcode : 16 * (16 * (16 * (16 * 0 + 0) + 0) + character.toNat / 16) +
          character.toNat % 16 = character.toNat := by omega
      rw [hcode] at hspells
      exact .code (show ('u', 4) ∈ codeMarks by decide) hspells
  · next hraw =>
      simp only [not_or, Nat.not_lt] at hraw
      obtain ⟨hquote, hbackslash, hcontrol, hdelete⟩ := hraw
      exact .raw hquote hbackslash (Or.inr ⟨hcontrol, hdelete⟩)

/-- The writer's way to write a text is one of those that are read back. -/
theorem encodes_flat_map_escape (text : List Char) : Encodes text (text.flatMap escape) := by
  induction text with
  | nil => exact .nil
  | cons character text ih =>
      rw [List.flatMap_cons]
      exact .cons (encodes_character_escape character) ih

/-! ## Words -/

/-- A token is read from its first character on. -/
theorem tokens_cons {first : Char} {rest after : List Char} {token : Token}
    (hfrom : tokenFrom? first rest = some (token, after)) :
    tokens? (first :: rest) = (tokens? after).map (token :: ·) := by
  rw [tokens?]
  split
  · next heq => cases hfrom.symm.trans heq; rfl
  · next heq => cases hfrom.symm.trans heq

/-- A character of a key is none of those that end a word, start another token or are skipped. -/
theorem ne_of_is_key_character {character other : Char} (hkey : isKeyCharacter character = true)
    (hother : isKeyCharacter other = false) : character ≠ other := by
  rintro rfl
  exact Bool.false_ne_true (hother.symm.trans hkey)

theorem ends_word_of_is_key_character {character : Char}
    (hkey : isKeyCharacter character = true) : endsWord character = false := by
  have hnone : ['.', '=', ',', '[', ']', '\x7b', '\x7d', ' ', '\t', '#', '\r', '\n'].any
      isKeyCharacter = false := by decide
  rw [endsWord, Bool.eq_false_iff, ne_eq, List.contains_iff_mem]
  exact fun hmem => List.any_eq_false.mp hnone character hmem hkey

/-- The characters make up a word: none of them ends it, and it does not start with a quote. -/
structure IsWord (word : List Char) : Prop where
  ne_nil : word ≠ []
  ends : ∀ character ∈ word, endsWord character = false
  head : '"' ∉ word.head? ∧ '\'' ∉ word.head?

/-- Blanks end a word. -/
theorem is_blank_of_ends_word {character : Char} (hends : endsWord character = false) :
    isBlank character = false := by
  rw [Bool.eq_false_iff]
  intro hblank
  simp only [isBlank, Bool.or_eq_true, beq_iff_eq] at hblank
  rcases hblank with rfl | rfl <;> exact absurd hends (by decide)

/-- A word is taken in up to the character that ends it. -/
theorem token_from_word {first : Char} (hends : endsWord first = false) (hdouble : first ≠ '"')
    (hsingle : first ≠ '\'') (rest : List Char) :
    tokenFrom? first rest =
      some (.word (first :: rest.takeWhile fun character => !endsWord character),
        rest.dropWhile fun character => !endsWord character) := by
  unfold tokenFrom?
  split
  case h_11 => exact absurd rfl hdouble
  case h_12 => exact absurd rfl hsingle
  case h_13 => rw [if_neg (by simp [is_blank_of_ends_word hends])]
  all_goals exact absurd hends (by decide)

/-- A word is a key exactly if it is made up of the characters of one. -/
theorem bare_key_eq_some_iff {word : List Char} {key : String} :
    bareKey? word = some key ↔
      word ≠ [] ∧ (∀ character ∈ word, isKeyCharacter character = true) ∧
        String.ofList word = key := by
  have hword : (!word.isEmpty && word.all isKeyCharacter) = true ↔
      word ≠ [] ∧ ∀ character ∈ word, isKeyCharacter character = true := by
    simp
  rw [bareKey?]
  split
  · next htrue =>
      obtain ⟨hne, hall⟩ := hword.mp htrue
      exact ⟨fun h => ⟨hne, hall, Option.some.inj h⟩, fun h => congrArg some h.2.2⟩
  · next hfalse =>
      exact ⟨nofun, fun h => absurd (hword.mpr ⟨h.1, h.2.1⟩) hfalse⟩

/-- A key makes up a word. -/
theorem is_word_of_bare_key {word : List Char} {key : String} (hkey : bareKey? word = some key) :
    IsWord word := by
  obtain ⟨hne, hall, -⟩ := bare_key_eq_some_iff.mp hkey
  refine ⟨hne, fun character hmem => ends_word_of_is_key_character (hall character hmem), ?_⟩
  have hhead : ∀ quote, isKeyCharacter quote = false → quote ∉ word.head? :=
    fun quote hquote hmem =>
      ne_of_is_key_character (hall quote (List.mem_of_mem_head? hmem)) hquote rfl
  exact ⟨hhead _ (by decide), hhead _ (by decide)⟩

/-- The text of a word is read as that word if the text behind it ends it. -/
theorem tokens_word {word : List Char} (hword : IsWord word) {rest : List Char}
    (hrest : ∀ next ∈ rest.head?, endsWord next = true) :
    tokens? (word ++ rest) = (tokens? rest).map (.word word :: ·) := by
  obtain ⟨hne, hends, hdouble, hsingle⟩ := hword
  cases word with
  | nil => exact absurd rfl hne
  | cons first more =>
      obtain ⟨hfirst, hmore⟩ := List.forall_mem_cons.mp hends
      have hmore : ∀ character ∈ more, (!endsWord character) = true := by
        intro character hmem
        rw [hmore character hmem]
        rfl
      have htake : (more ++ rest).takeWhile (fun character => !endsWord character) = more := by
        rw [List.takeWhile_append_of_pos hmore]
        cases rest with
        | nil => simp
        | cons next rest => simp [hrest next rfl]
      have hdrop : (more ++ rest).dropWhile (fun character => !endsWord character) = rest := by
        rw [List.dropWhile_append_of_pos hmore]
        cases rest with
        | nil => simp
        | cons next rest => simp [hrest next rfl]
      have hfrom := token_from_word hfirst (fun heq => hdouble (heq ▸ rfl))
        (fun heq => hsingle (heq ▸ rfl)) (more ++ rest)
      rw [htake, hdrop] at hfrom
      exact tokens_cons hfrom

/-! ## Plain tokens -/

/-- A word or a string, neither of which may follow the other directly. -/
def Token.isText : Token → Bool
  | .word _ | .string .. => true
  | _ => false

/-- A run of spaces and tabs. -/
def Token.isBlank : Token → Bool
  | .blank _ => true
  | _ => false

/-- The token is one that the writer gives: a single space, a word that may be a key, a string on
one line, a line break or punctuation. -/
def Token.IsPlain : Token → Prop
  | .blank text => text = [' ']
  | .word text => ∃ key, bareKey? text = some key
  | .string multiline _ => multiline = false
  | .comment => False
  | .dot | .equals | .comma | .leftBracket | .rightBracket | .leftBrace | .rightBrace
  | .newline => True

/-- The tokens do not run into each other. -/
def Token.Apart (first second : Token) : Prop :=
  ¬(first.isText ∧ second.isText) ∧ ¬(first.isBlank ∧ second.isBlank)

/-- The tokens are plain, and none runs into the next one. -/
def Legible : List Token → Prop
  | [] => True
  | token :: rest => token.IsPlain ∧ (∀ next ∈ rest.head?, token.Apart next) ∧ Legible rest

/-- What stands behind legible tokens is legible with them. -/
theorem Legible.of_append {tokens after : List Token} (hlegible : Legible (tokens ++ after)) :
    Legible after := by
  induction tokens with
  | nil => exact hlegible
  | cons token tokens ih => exact ih hlegible.2.2

/-- How the text of a plain token starts. -/
structure StartsPlainly (token : Token) (first : Char) : Prop where
  ends_word : token.isText = false → endsWord first = true
  not_blank : token.isBlank = false → Text.isBlank first = false
  not_mark : first ≠ '\uFEFF'

/-- The text of a plain token tells whether it ends a word or a blank in front of it. -/
theorem Token.IsPlain.starts {token : Token} (hplain : token.IsPlain) :
    ∃ first more, token.text = first :: more ∧ StartsPlainly token first := by
  cases token with
  | dot | equals | comma | leftBracket | rightBracket | leftBrace | rightBrace | newline =>
      exact ⟨_, _, rfl, fun _ => rfl, fun _ => rfl, by decide⟩
  | blank text =>
      obtain rfl : text = [' '] := hplain
      exact ⟨_, _, rfl, fun _ => rfl, nofun, by decide⟩
  | comment => exact hplain.elim
  | string multiline value => exact ⟨_, _, rfl, nofun, fun _ => rfl, by decide⟩
  | word text =>
      obtain ⟨key, hkey⟩ := hplain
      obtain ⟨hne, hall, -⟩ := bare_key_eq_some_iff.mp hkey
      cases text with
      | nil => exact absurd rfl hne
      | cons first more =>
          have hfirst := hall first (by simp)
          exact ⟨first, more, rfl, nofun,
            fun _ => is_blank_of_ends_word (ends_word_of_is_key_character hfirst),
            ne_of_is_key_character hfirst (by decide)⟩

/-- How the text of legible tokens starts. -/
theorem Legible.head {tokens : List Token} (hlegible : Legible tokens) {first : Char}
    (hfirst : first ∈ (tokens.flatMap Token.text).head?) :
    ∃ token ∈ tokens.head?, StartsPlainly token first := by
  cases tokens with
  | nil => cases hfirst
  | cons token rest =>
      obtain ⟨start, more, htext, hstart⟩ := hlegible.1.starts
      rw [List.flatMap_cons, htext] at hfirst
      obtain rfl : start = first := Option.some.inj hfirst
      exact ⟨token, rfl, hstart⟩

/-- A plain token is read back from its text if it does not run into what follows. -/
theorem tokens_text_append {token : Token} (hplain : token.IsPlain) {rest : List Char}
    (htext : token.isText = true → ∀ next ∈ rest.head?, endsWord next = true)
    (hblank : token.isBlank = true → ∀ next ∈ rest.head?, Text.isBlank next = false) :
    tokens? (token.text ++ rest) = (tokens? rest).map (token :: ·) := by
  cases token with
  | dot | equals | comma | leftBracket | rightBracket | leftBrace | rightBrace | newline =>
      exact tokens_cons rfl
  | blank text =>
      obtain rfl : text = [' '] := hplain
      apply tokens_cons
      show some _ = _
      cases rest with
      | nil => rfl
      | cons next more => simp [hblank rfl next rfl]
  | comment => exact hplain.elim
  | string multiline value =>
      obtain rfl : multiline = false := hplain
      have hnext : '"' ∉ rest.head? := fun hmem => absurd (htext rfl _ hmem) (by decide)
      show tokens? ('"' :: (value.flatMap escape ++ ['"'] ++ rest)) = _
      rw [List.append_assoc]
      exact tokens_cons (basic_token_of_encodes (encodes_flat_map_escape value) hnext)
  | word text =>
      obtain ⟨key, hkey⟩ := hplain
      exact tokens_word (is_word_of_bare_key hkey) (htext rfl)

/-- Legible tokens are read back in front of a text that starts like the tokens behind them. -/
theorem tokens_flat_map_append {tokens after : List Token} (hlegible : Legible (tokens ++ after))
    {rest : List Char}
    (hrest : ∀ first ∈ rest.head?, ∃ next ∈ after.head?, StartsPlainly next first) :
    tokens? (tokens.flatMap Token.text ++ rest) = (tokens? rest).map (tokens ++ ·) := by
  induction tokens with
  | nil => simp
  | cons token tokens ih =>
      obtain ⟨hplain, hapart, hothers⟩ := hlegible
      -- What comes behind the token starts like the token that comes there.
      have hstarts : ∀ first ∈ (tokens.flatMap Token.text ++ rest).head?,
          ∃ behind ∈ (tokens ++ after).head?, StartsPlainly behind first := by
        intro first hfirst
        cases tokens with
        | nil => exact hrest first hfirst
        | cons behind tokens =>
            obtain ⟨start, more, htext, hstart⟩ := hothers.1.starts
            rw [List.flatMap_cons, htext] at hfirst
            obtain rfl : start = first := Option.some.inj hfirst
            exact ⟨behind, rfl, hstart⟩
      rw [List.flatMap_cons, List.append_assoc, tokens_text_append hplain, ih hothers,
        Option.map_map]
      · rfl
      · intro htext first hfirst
        obtain ⟨behind, hbehind, hstart⟩ := hstarts first hfirst
        have hnext := (hapart behind hbehind).1
        exact hstart.ends_word (by simpa [htext] using hnext)
      · intro hblank first hfirst
        obtain ⟨behind, hbehind, hstart⟩ := hstarts first hfirst
        have hnext := (hapart behind hbehind).2
        exact hstart.not_blank (by simpa [hblank] using hnext)

/-- Legible tokens are read back from their text. -/
theorem tokens_flat_map_text {tokens : List Token} (hlegible : Legible tokens) :
    tokens? (tokens.flatMap Token.text) = some tokens := by
  have hall : Legible (tokens ++ []) := by rwa [List.append_nil]
  have hread := @tokens_flat_map_append tokens [] hall [] nofun
  rw [List.append_nil, tokens?] at hread
  rw [hread, Option.map_some, List.append_nil]

end DashboardGenerator.Toml
