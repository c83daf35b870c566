import DashboardGenerator.Number.Digits
import DashboardGenerator.Text.Blank

/-!
# TOML strings

The four kinds of strings. Each reader starts behind the opening quotes and gives the text that the
string stands for together with what follows the closing quotes; it gives nothing for a string that
is not closed, holds a control character, or holds an escape that stands for no character.
-/

namespace DashboardGenerator.Toml

open Number Text

/-- A character that may stand for itself in strings and comments: a tab, or any character that is
no control character of ASCII. -/
def isPrintable (character : Char) : Bool :=
  character == '\t' || (0x20 ≤ character.toNat && character.toNat != 0x7F)

/-- Read exactly `count` hexadecimal digits after a prefix of value `value`. -/
def hexDigits? : Nat → Nat → List Char → Option (Nat × List Char)
  | 0, value, text => some (value, text)
  | _ + 1, _, [] => none
  | count + 1, value, character :: rest =>
    match hexValue? character with
    | some digit => hexDigits? count (16 * value + digit) rest
    | none => none

/-- The character of a code point, if it has one. -/
def character? (code : Nat) : Option Char :=
  if code.isValidChar then some (Char.ofNat code) else none

/-- Read the code point of an escape of `count` hexadecimal digits. -/
def codeEscape? (count : Nat) (text : List Char) : Option (Char × List Char) :=
  match hexDigits? count 0 text with
  | some (code, rest) => (character? code).map fun character => (character, rest)
  | none => none

/-- Read an escape behind its backslash. -/
def escape? : List Char → Option (Char × List Char)
  | 'b' :: rest => some ('\x08', rest)
  | 't' :: rest => some ('\t', rest)
  | 'n' :: rest => some ('\n', rest)
  | 'f' :: rest => some ('\x0c', rest)
  | 'r' :: rest => some ('\r', rest)
  | 'e' :: rest => some ('\x1b', rest)
  | '"' :: rest => some ('"', rest)
  | '\\' :: rest => some ('\\', rest)
  | 'x' :: rest => codeEscape? 2 rest
  | 'u' :: rest => codeEscape? 4 rest
  | 'U' :: rest => codeEscape? 8 rest
  | _ => none

/-- Reading digits leaves no more than there was. -/
theorem length_hexDigits?_le {count value code : Nat} {text rest : List Char}
    (read : hexDigits? count value text = some (code, rest)) : rest.length ≤ text.length := by
  fun_induction hexDigits? count value text with
  | case1 => simp_all
  | case2 => simp at read
  | case3 count value character rest digit _ ih =>
    have := ih read
    simp only [List.length_cons]
    omega
  | case4 => simp at read

/-- Reading a code point leaves no more than there was. -/
theorem length_codeEscape?_le {count : Nat} {text rest : List Char} {character : Char}
    (read : codeEscape? count text = some (character, rest)) : rest.length ≤ text.length := by
  unfold codeEscape? at read
  split at read
  · rename_i code after digits
    have := length_hexDigits?_le digits
    simp only [Option.map_eq_some_iff, Prod.mk.injEq] at read
    obtain ⟨_, _, _, rfl⟩ := read
    exact this
  · simp at read

/-- Reading an escape leaves less than there was. -/
theorem length_escape?_lt {text rest : List Char} {character : Char}
    (read : escape? text = some (character, rest)) : rest.length < text.length := by
  unfold escape? at read
  split at read
  all_goals first
    | simp only [Option.some.injEq, Prod.mk.injEq] at read
      simp [read.2]
    | exact Nat.lt_succ_of_le (length_codeEscape?_le read)
    | simp at read

/-- Read the rest of a basic string: one line, with escapes. -/
def basic? (text : List Char) : Option (List Char × List Char) :=
  match text with
  | [] => none
  | '"' :: rest => some ([], rest)
  | '\\' :: rest =>
    match _read : escape? rest with
    | some (character, after) =>
      (basic? after).map fun (value, beyond) => (character :: value, beyond)
    | none => none
  | character :: rest =>
    if isPrintable character then
      (basic? rest).map fun (value, beyond) => (character :: value, beyond)
    else none
termination_by text.length
decreasing_by
  · have := length_escape?_lt _read
    simp only [List.length_cons]
    omega
  · simp

/-- Read the rest of a literal string: one line, without escapes. -/
def literal? : List Char → Option (List Char × List Char)
  | [] => none
  | '\'' :: rest => some ([], rest)
  | character :: rest =>
    if isPrintable character then
      (literal? rest).map fun (value, beyond) => (character :: value, beyond)
    else none

/-- Skip a line break directly behind the opening quotes of a string of several lines. -/
def skipFirstBreak : List Char → List Char
  | '\n' :: rest => rest
  | '\r' :: '\n' :: rest => rest
  | text => text

/-- Skip blanks and line breaks. -/
def skipBlankLines : List Char → List Char
  | '\r' :: '\n' :: rest => skipBlankLines rest
  | character :: rest =>
    if isBlank character || character == '\n' then skipBlankLines rest else character :: rest
  | [] => []

/-- Behind a backslash that ends its line, the text from the next character on that is neither a
blank nor a line break. -/
def continueLine? (text : List Char) : Option (List Char) :=
  match text.dropWhile isBlank with
  | '\n' :: rest => some (skipBlankLines rest)
  | '\r' :: '\n' :: rest => some (skipBlankLines rest)
  | _ => none

/-- Skipping leaves no more than there was. -/
theorem length_skipBlankLines_le (text : List Char) :
    (skipBlankLines text).length ≤ text.length := by
  fun_induction skipBlankLines text with
  | case1 rest ih =>
    simp only [List.length_cons]
    omega
  | case2 character rest _ _ ih =>
    simp only [List.length_cons]
    omega
  | case3 => simp
  | case4 => simp

/-- Continuing a line leaves less than there was. -/
theorem length_continueLine?_lt {text rest : List Char} (read : continueLine? text = some rest) :
    rest.length < text.length := by
  have dropped := (List.dropWhile_sublist (l := text) isBlank).length_le
  unfold continueLine? at read
  split at read
  · rename_i after shape
    have := length_skipBlankLines_le after
    simp only [Option.some.injEq] at read
    simp only [shape, List.length_cons] at dropped
    subst read
    omega
  · rename_i after shape
    have := length_skipBlankLines_le after
    simp only [Option.some.injEq] at read
    simp only [shape, List.length_cons] at dropped
    subst read
    omega
  · simp at read

/-- Read the rest of a basic string of several lines. Up to two quotes may stand before the
closing three. -/
def basicLines? (text : List Char) : Option (List Char × List Char) :=
  match text with
  | [] => none
  | '"' :: '"' :: '"' :: '"' :: '"' :: rest => some (['"', '"'], rest)
  | '"' :: '"' :: '"' :: '"' :: rest => some (['"'], rest)
  | '"' :: '"' :: '"' :: rest => some ([], rest)
  | '\r' :: '\n' :: rest =>
    (basicLines? rest).map fun (value, beyond) => ('\r' :: '\n' :: value, beyond)
  | '\\' :: rest =>
    match _continued : continueLine? rest with
    | some after => basicLines? after
    | none =>
      match _read : escape? rest with
      | some (character, after) =>
        (basicLines? after).map fun (value, beyond) => (character :: value, beyond)
      | none => none
  | character :: rest =>
    if isPrintable character || character == '\n' then
      (basicLines? rest).map fun (value, beyond) => (character :: value, beyond)
    else none
termination_by text.length
decreasing_by
  · simp only [List.length_cons]
    omega
  · have := length_continueLine?_lt _continued
    simp only [List.length_cons]
    omega
  · have := length_escape?_lt _read
    simp only [List.length_cons]
    omega
  · simp

/-- Read the rest of a literal string of several lines. Up to two quotes may stand before the
closing three. -/
def literalLines? : List Char → Option (List Char × List Char)
  | [] => none
  | '\'' :: '\'' :: '\'' :: '\'' :: '\'' :: rest => some (['\'', '\''], rest)
  | '\'' :: '\'' :: '\'' :: '\'' :: rest => some (['\''], rest)
  | '\'' :: '\'' :: '\'' :: rest => some ([], rest)
  | '\r' :: '\n' :: rest =>
    (literalLines? rest).map fun (value, beyond) => ('\r' :: '\n' :: value, beyond)
  | character :: rest =>
    if isPrintable character || character == '\n' then
      (literalLines? rest).map fun (value, beyond) => (character :: value, beyond)
    else none

/-- A closed basic string ends before its text does. -/
theorem length_basic?_lt {text value rest : List Char} (read : basic? text = some (value, rest)) :
    rest.length < text.length := by
  fun_induction basic? text generalizing value rest with
  | case1 => simp at read
  | case2 after =>
    simp only [Option.some.injEq, Prod.mk.injEq] at read
    simp [read.2]
  | case3 after character inner escaped ih =>
    simp only [Option.map_eq_some_iff, Prod.mk.injEq, Prod.exists] at read
    obtain ⟨_, _, found, _, rfl⟩ := read
    have := ih found
    have := length_escape?_lt escaped
    simp only [List.length_cons]
    omega
  | case4 => simp at read
  | case5 character after _ _ _ ih =>
    simp only [Option.map_eq_some_iff, Prod.mk.injEq, Prod.exists] at read
    obtain ⟨_, _, found, _, rfl⟩ := read
    have := ih found
    simp only [List.length_cons]
    omega
  | case6 => simp at read

/-- A closed literal string ends before its text does. -/
theorem length_literal?_lt {text value rest : List Char}
    (read : literal? text = some (value, rest)) : rest.length < text.length := by
  fun_induction literal? text generalizing value rest with
  | case1 => simp at read
  | case2 after =>
    simp only [Option.some.injEq, Prod.mk.injEq] at read
    simp [read.2]
  | case3 character after _ _ ih =>
    simp only [Option.map_eq_some_iff, Prod.mk.injEq, Prod.exists] at read
    obtain ⟨_, _, found, _, rfl⟩ := read
    have := ih found
    simp only [List.length_cons]
    omega
  | case4 => simp at read

/-- A closed basic string of several lines ends before its text does. -/
theorem length_basicLines?_lt {text value rest : List Char}
    (read : basicLines? text = some (value, rest)) : rest.length < text.length := by
  fun_induction basicLines? text generalizing value rest with
  | case1 => simp at read
  | case2 | case3 | case4 =>
    simp only [Option.some.injEq, Prod.mk.injEq] at read
    simp only [← read.2, List.length_cons]
    omega
  | case5 after ih =>
    simp only [Option.map_eq_some_iff, Prod.mk.injEq, Prod.exists] at read
    obtain ⟨_, _, found, _, rfl⟩ := read
    have := ih found
    simp only [List.length_cons]
    omega
  | case6 after beyond continued ih =>
    have := ih read
    have := length_continueLine?_lt continued
    simp only [List.length_cons]
    omega
  | case7 after _ character inner escaped ih =>
    simp only [Option.map_eq_some_iff, Prod.mk.injEq, Prod.exists] at read
    obtain ⟨_, _, found, _, rfl⟩ := read
    have := ih found
    have := length_escape?_lt escaped
    simp only [List.length_cons]
    omega
  | case8 => simp at read
  | case9 character after _ _ _ _ _ _ ih =>
    simp only [Option.map_eq_some_iff, Prod.mk.injEq, Prod.exists] at read
    obtain ⟨_, _, found, _, rfl⟩ := read
    have := ih found
    simp only [List.length_cons]
    omega
  | case10 => simp at read

/-- A closed literal string of several lines ends before its text does. -/
theorem length_literalLines?_lt {text value rest : List Char}
    (read : literalLines? text = some (value, rest)) : rest.length < text.length := by
  fun_induction literalLines? text generalizing value rest with
  | case1 => simp at read
  | case2 | case3 | case4 =>
    simp only [Option.some.injEq, Prod.mk.injEq] at read
    simp only [← read.2, List.length_cons]
    omega
  | case5 after ih =>
    simp only [Option.map_eq_some_iff, Prod.mk.injEq, Prod.exists] at read
    obtain ⟨_, _, found, _, rfl⟩ := read
    have := ih found
    simp only [List.length_cons]
    omega
  | case6 character after _ _ _ _ _ ih =>
    simp only [Option.map_eq_some_iff, Prod.mk.injEq, Prod.exists] at read
    obtain ⟨_, _, found, _, rfl⟩ := read
    have := ih found
    simp only [List.length_cons]
    omega
  | case7 => simp at read

end DashboardGenerator.Toml
