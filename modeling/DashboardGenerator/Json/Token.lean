import DashboardGenerator.Number.Digits

/-!
# JSON tokens

A JSON text is split into punctuation, strings, numbers and the three words of the format; white
space between them is dropped. Only natural numbers are read, the only ones that documents hold. A
string may use every escape of the format, a pair of surrogates included, and must not hold a
control character as it is.
-/

namespace DashboardGenerator.Json

open Number

/-- One token of a text. -/
inductive Token where
  | leftBracket
  | rightBracket
  | leftBrace
  | rightBrace
  | comma
  | colon
  | null
  | bool (value : Bool)
  | number (value : Nat)
  | string (value : String)
deriving Repr, DecidableEq

/-- The white space of the format. -/
def isWhite (character : Char) : Bool :=
  character == ' ' || character == '\n' || character == '\r' || character == '\t'

/-- Read the four hexadecimal digits of a code unit. -/
def unit? : List Char → Option (Nat × List Char)
  | first :: second :: third :: fourth :: rest => do
    let first ← hexValue? first
    let second ← hexValue? second
    let third ← hexValue? third
    let fourth ← hexValue? fourth
    some (((first * 16 + second) * 16 + third) * 16 + fourth, rest)
  | _ => none

/-- Read a code unit behind `\u`, and a second one if the first is a leading surrogate. -/
def codeEscape? (text : List Char) : Option (Char × List Char) := do
  let (unit, rest) ← unit? text
  if unit < 0xD800 ∨ 0xDFFF < unit then some (Char.ofNat unit, rest)
  else if 0xDC00 ≤ unit then none
  else
    match rest with
    | '\\' :: 'u' :: rest => do
      let (trail, rest) ← unit? rest
      if 0xDC00 ≤ trail ∧ trail ≤ 0xDFFF then
        some (Char.ofNat (0x10000 + (unit - 0xD800) * 0x400 + (trail - 0xDC00)), rest)
      else none
    | _ => none

/-- Read an escape behind its backslash. -/
def escape? : List Char → Option (Char × List Char)
  | '"' :: rest => some ('"', rest)
  | '\\' :: rest => some ('\\', rest)
  | '/' :: rest => some ('/', rest)
  | 'n' :: rest => some ('\n', rest)
  | 'r' :: rest => some ('\r', rest)
  | 't' :: rest => some ('\t', rest)
  | 'b' :: rest => some ('\x08', rest)
  | 'f' :: rest => some ('\x0c', rest)
  | 'u' :: rest => codeEscape? rest
  | _ => none

/-- A code unit takes four characters. -/
theorem length_unit?_lt {text rest : List Char} {unit : Nat}
    (hread : unit? text = some (unit, rest)) : rest.length < text.length := by
  unfold unit? at hread
  split at hread
  · simp only [Option.bind_eq_bind, Option.bind_eq_some_iff, Option.some.injEq,
      Prod.mk.injEq] at hread
    obtain ⟨_, _, _, _, _, _, _, _, _, rfl⟩ := hread
    simp only [List.length_cons]
    omega
  · cases hread

/-- An escape of code units leaves less than there was. -/
theorem length_codeEscape?_lt {text rest : List Char} {character : Char}
    (hread : codeEscape? text = some (character, rest)) : rest.length < text.length := by
  simp only [codeEscape?, Option.bind_eq_bind, Option.bind_eq_some_iff, Prod.exists] at hread
  obtain ⟨unit, after, hunit, hread⟩ := hread
  have hafter := length_unit?_lt hunit
  split at hread
  · cases hread
    exact hafter
  split at hread
  · cases hread
  split at hread
  · simp only [Option.bind_eq_some_iff, Prod.exists] at hread
    obtain ⟨trail, beyond, htrail, hread⟩ := hread
    have hbeyond := length_unit?_lt htrail
    split at hread
    · simp only [Option.some.injEq, Prod.mk.injEq] at hread
      simp only [List.length_cons] at hafter
      rw [← hread.2]
      omega
    · cases hread
  · cases hread

/-- An escape leaves less than there was behind its backslash. -/
theorem length_escape?_lt {text rest : List Char} {character : Char}
    (hread : escape? text = some (character, rest)) : rest.length < text.length := by
  unfold escape? at hread
  split at hread
  case h_9 => exact Nat.lt_succ_of_lt (length_codeEscape?_lt hread)
  case h_10 => cases hread
  all_goals
    cases hread
    exact Nat.lt_succ_self _

/-- Read the rest of a string behind its first quote. -/
def body? (text : List Char) : Option (List Char × List Char) :=
  match text with
  | [] => none
  | '"' :: rest => some ([], rest)
  | '\\' :: rest =>
    match _read : escape? rest with
    | some (character, after) =>
      (body? after).map fun (value, beyond) => (character :: value, beyond)
    | none => none
  | character :: rest =>
    if 0x20 ≤ character.toNat then
      (body? rest).map fun (value, beyond) => (character :: value, beyond)
    else none
termination_by text.length
decreasing_by
  · have := length_escape?_lt _read
    simp only [List.length_cons]
    omega
  · simp

/-- A closed string leaves less than there was behind its first quote. -/
theorem length_body?_lt {text value rest : List Char}
    (hread : body? text = some (value, rest)) : rest.length < text.length := by
  fun_induction body? text generalizing value rest with
  | case1 => cases hread
  | case2 => cases hread; exact Nat.lt_succ_self _
  | case3 after character inner hescape ih =>
    obtain ⟨⟨_, _⟩, hinner, heq⟩ := Option.map_eq_some_iff.mp hread
    cases heq
    have := ih hinner
    have := length_escape?_lt hescape
    simp only [List.length_cons]
    omega
  | case4 => cases hread
  | case5 character after _ _ _ ih =>
    obtain ⟨⟨_, _⟩, hinner, heq⟩ := Option.map_eq_some_iff.mp hread
    cases heq
    exact Nat.lt_succ_of_lt (ih hinner)
  | case6 => cases hread

/-- The number that digits spell; none but zero itself starts with a zero. -/
def number? (digits : List Char) : Option Nat :=
  if digits.head? = some '0' ∧ digits ≠ ['0'] then none else some (decimalValue digits)

/-- Read the token that starts with a character, and give what follows it. -/
def tokenFrom? (first : Char) (rest : List Char) : Option (Token × List Char) :=
  match first, rest with
  | '[', _ => some (.leftBracket, rest)
  | ']', _ => some (.rightBracket, rest)
  | '\x7b', _ => some (.leftBrace, rest)
  | '\x7d', _ => some (.rightBrace, rest)
  | ',', _ => some (.comma, rest)
  | ':', _ => some (.colon, rest)
  | '"', _ => (body? rest).map fun (value, after) => (.string (String.ofList value), after)
  | 'n', 'u' :: 'l' :: 'l' :: after => some (.null, after)
  | 't', 'r' :: 'u' :: 'e' :: after => some (.bool true, after)
  | 'f', 'a' :: 'l' :: 's' :: 'e' :: after => some (.bool false, after)
  | _, _ =>
    if first.isDigit then
      (number? (first :: rest.takeWhile Char.isDigit)).map fun value =>
        (.number value, rest.dropWhile Char.isDigit)
    else none

/-- A token leaves no more than there was behind its first character. -/
theorem length_tokenFrom?_le {first : Char} {text rest : List Char} {token : Token}
    (hread : tokenFrom? first text = some (token, rest)) : rest.length ≤ text.length := by
  unfold tokenFrom? at hread
  split at hread
  case h_7 =>
    obtain ⟨⟨_, _⟩, hinner, heq⟩ := Option.map_eq_some_iff.mp hread
    cases heq
    exact Nat.le_of_lt (length_body?_lt hinner)
  case h_11 =>
    split at hread
    · obtain ⟨_, _, heq⟩ := Option.map_eq_some_iff.mp hread
      cases heq
      exact (List.dropWhile_sublist _).length_le
    · cases hread
  case h_8 | h_9 | h_10 =>
    cases hread
    simp only [List.length_cons]
    omega
  all_goals
    cases hread
    exact Nat.le_refl _

/-- Split a text into tokens. -/
def tokens? (text : List Char) : Option (List Token) :=
  match text with
  | [] => some []
  | first :: rest =>
    if isWhite first then tokens? rest
    else
      match _read : tokenFrom? first rest with
      | some (token, after) => (tokens? after).map (token :: ·)
      | none => none
termination_by text.length
decreasing_by
  · simp
  · have := length_tokenFrom?_le _read
    simp only [List.length_cons]
    omega

end DashboardGenerator.Json
