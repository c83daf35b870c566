import DashboardGenerator.Toml.Quoted

/-!
# TOML tokens

A document is split into tokens without regard to where it stands: punctuation, blanks, line breaks,
comments, strings with the text they stand for, and words of all other characters. Whether a word
is a key, or what value it spells, is decided by the reader of the document.
-/

namespace DashboardGenerator.Toml

open Text

/-- One token of a document. -/
inductive Token where
  | dot
  | equals
  | comma
  | leftBracket
  | rightBracket
  | leftBrace
  | rightBrace
  /-- A run of spaces and tabs. -/
  | blank (text : List Char)
  | newline
  | comment
  /-- A string, on one line or delimited so that it may span several. -/
  | string (multiline : Bool) (value : List Char)
  /-- A run of characters that start no other token. -/
  | word (text : List Char)
deriving Repr, DecidableEq

/-- The characters that end a word. -/
def endsWord (character : Char) : Bool :=
  ['.', '=', ',', '[', ']', '\x7b', '\x7d', ' ', '\t', '#', '\r', '\n'].contains character

/-- The text behind a comment, from its line break on; a control character is refused. -/
def afterComment? : List Char → Option (List Char)
  | [] => some []
  | '\n' :: rest => some ('\n' :: rest)
  | '\r' :: '\n' :: rest => some ('\r' :: '\n' :: rest)
  | character :: rest => if isPrintable character then afterComment? rest else none

/-- The text behind a comment is no longer than the comment's own. -/
theorem length_afterComment?_le {text rest : List Char} (read : afterComment? text = some rest) :
    rest.length ≤ text.length := by
  fun_induction afterComment? text with
  | case1 => simp_all
  | case2 => simp_all
  | case3 => simp_all
  | case4 character after _ _ _ ih =>
    have := ih read
    simp only [List.length_cons]
    omega
  | case5 => simp at read

/-- Read the string behind its first double quote. -/
def basicToken? : List Char → Option (Token × List Char)
  | '"' :: '"' :: rest =>
    (basicLines? (skipFirstBreak rest)).map fun (value, after) => (.string true value, after)
  | rest => (basic? rest).map fun (value, after) => (.string false value, after)

/-- Read the string behind its first single quote. -/
def literalToken? : List Char → Option (Token × List Char)
  | '\'' :: '\'' :: rest =>
    (literalLines? (skipFirstBreak rest)).map fun (value, after) => (.string true value, after)
  | rest => (literal? rest).map fun (value, after) => (.string false value, after)

/-- Read the token that starts with a character, and give what follows it. -/
def tokenFrom? (first : Char) (rest : List Char) : Option (Token × List Char) :=
  match first with
  | '.' => some (.dot, rest)
  | '=' => some (.equals, rest)
  | ',' => some (.comma, rest)
  | '[' => some (.leftBracket, rest)
  | ']' => some (.rightBracket, rest)
  | '\x7b' => some (.leftBrace, rest)
  | '\x7d' => some (.rightBrace, rest)
  | '\n' => some (.newline, rest)
  | '\r' =>
    match rest with
    | '\n' :: after => some (.newline, after)
    | _ => none
  | '#' => (afterComment? rest).map fun after => (.comment, after)
  | '"' => basicToken? rest
  | '\'' => literalToken? rest
  | _ =>
    if isBlank first then
      some (.blank (first :: rest.takeWhile isBlank), rest.dropWhile isBlank)
    else
      some (.word (first :: rest.takeWhile fun character => !endsWord character),
        rest.dropWhile fun character => !endsWord character)

/-- Skipping the first line break leaves no more than there was. -/
theorem length_skipFirstBreak_le (text : List Char) :
    (skipFirstBreak text).length ≤ text.length := by
  unfold skipFirstBreak
  split
  · simp
  · simp only [List.length_cons]
    omega
  · simp

/-- A double-quoted string leaves no more than there was behind its first quote. -/
theorem length_basicToken?_le {text rest : List Char} {token : Token}
    (read : basicToken? text = some (token, rest)) : rest.length ≤ text.length := by
  unfold basicToken? at read
  split at read
  · rename_i after
    simp only [Option.map_eq_some_iff, Prod.mk.injEq, Prod.exists] at read
    obtain ⟨_, _, found, _, rfl⟩ := read
    have := length_basicLines?_lt found
    have := length_skipFirstBreak_le after
    simp only [List.length_cons]
    omega
  · simp only [Option.map_eq_some_iff, Prod.mk.injEq, Prod.exists] at read
    obtain ⟨_, _, found, _, rfl⟩ := read
    have := length_basic?_lt found
    omega

/-- A single-quoted string leaves no more than there was behind its first quote. -/
theorem length_literalToken?_le {text rest : List Char} {token : Token}
    (read : literalToken? text = some (token, rest)) : rest.length ≤ text.length := by
  unfold literalToken? at read
  split at read
  · rename_i after
    simp only [Option.map_eq_some_iff, Prod.mk.injEq, Prod.exists] at read
    obtain ⟨_, _, found, _, rfl⟩ := read
    have := length_literalLines?_lt found
    have := length_skipFirstBreak_le after
    simp only [List.length_cons]
    omega
  · simp only [Option.map_eq_some_iff, Prod.mk.injEq, Prod.exists] at read
    obtain ⟨_, _, found, _, rfl⟩ := read
    have := length_literal?_lt found
    omega

/-- A token leaves no more than there was behind its first character. -/
theorem length_tokenFrom?_le {first : Char} {text rest : List Char} {token : Token}
    (read : tokenFrom? first text = some (token, rest)) : rest.length ≤ text.length := by
  unfold tokenFrom? at read
  split at read
  case h_9 =>
    split at read
    · simp only [Option.some.injEq, Prod.mk.injEq] at read
      simp [← read.2]
    · simp at read
  case h_10 =>
    simp only [Option.map_eq_some_iff, Prod.mk.injEq] at read
    obtain ⟨_, found, _, rfl⟩ := read
    exact length_afterComment?_le found
  case h_11 => exact length_basicToken?_le read
  case h_12 => exact length_literalToken?_le read
  case h_13 =>
    split at read
    · simp only [Option.some.injEq, Prod.mk.injEq] at read
      simpa [← read.2] using (List.dropWhile_sublist (l := text) isBlank).length_le
    · simp only [Option.some.injEq, Prod.mk.injEq] at read
      simpa [← read.2] using
        (List.dropWhile_sublist (l := text) fun character => !endsWord character).length_le
  all_goals
    simp only [Option.some.injEq, Prod.mk.injEq] at read
    simp [read.2]

/-- Split a text into tokens. -/
def tokens? (text : List Char) : Option (List Token) :=
  match text with
  | [] => some []
  | first :: rest =>
    match _read : tokenFrom? first rest with
    | some (token, after) => (tokens? after).map (token :: ·)
    | none => none
termination_by text.length
decreasing_by
  have := length_tokenFrom?_le _read
  simp only [List.length_cons]
  omega

end DashboardGenerator.Toml
