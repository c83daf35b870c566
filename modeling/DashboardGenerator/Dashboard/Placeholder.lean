/-!
# Placeholders in query expressions

A query may mention a template variable as `[[name]]`, `${name}`, `${name:format}` or `$name`. An
expression is read from left to right as a list of tokens; no token looks behind its own start, and
the tokens joined together are the expression. The variables that an expression references are the
names its tokens propose, less those that are no variable names and those that name a variable of
the display itself (they start with `__`).
-/

namespace DashboardGenerator.Placeholder

/-- One piece of an expression. -/
inductive Token where
  /-- A character that opens nothing. -/
  | plain (character : Char)
  /-- A bracket that no second bracket follows. -/
  | bracket
  /-- Two brackets, a body, and the first two closing brackets after them. -/
  | brackets (body : List Char)
  /-- Two brackets that nothing closes. -/
  | openBrackets
  /-- A dollar sign, a brace, a body, and the first closing brace after them. -/
  | braces (body : List Char)
  /-- A dollar sign and a brace that nothing closes. -/
  | openBraces
  /-- A dollar sign with the run of name characters after it. -/
  | dollar (run : List Char)
deriving Repr, DecidableEq

/-- The characters of a variable name: letters, digits and the underscore, of ASCII alone. -/
def isNameCharacter (character : Char) : Bool :=
  character.isAlphanum || character == '_'

/-- A name that a template may declare: not empty, of name characters only, and not reserved. -/
def isVariableName (name : List Char) : Bool :=
  !name.isEmpty && name.all isNameCharacter && !(['_', '_'].isPrefixOf name)

/-- Split at the first `]]`; it belongs to neither side. -/
def splitBrackets : List Char → Option (List Char × List Char)
  | [] => none
  | ']' :: ']' :: rest => some ([], rest)
  | character :: rest =>
    (splitBrackets rest).map fun (body, after) => (character :: body, after)

/-- Split at the first `}`; it belongs to neither side. -/
def splitBrace : List Char → Option (List Char × List Char)
  | [] => none
  | '}' :: rest => some ([], rest)
  | character :: rest =>
    (splitBrace rest).map fun (body, after) => (character :: body, after)

/-- What follows the closing brackets is shorter than what followed the opening ones. -/
theorem length_lt_of_splitBrackets {text body after : List Char}
    (split : splitBrackets text = some (body, after)) : after.length < text.length := by
  fun_induction splitBrackets text generalizing body after with
  | case1 => simp at split
  | case2 rest =>
    simp only [Option.some.injEq, Prod.mk.injEq] at split
    simp only [← split.2, List.length_cons]
    omega
  | case3 character rest _ ih =>
    simp only [Option.map_eq_some_iff, Prod.mk.injEq, Prod.exists] at split
    obtain ⟨inner, remaining, found, -, rfl⟩ := split
    have := ih found
    simp
    omega

/-- What follows the closing brace is shorter than what followed the opening one. -/
theorem length_lt_of_splitBrace {text body after : List Char}
    (split : splitBrace text = some (body, after)) : after.length < text.length := by
  fun_induction splitBrace text generalizing body after with
  | case1 => simp at split
  | case2 rest =>
    simp only [Option.some.injEq, Prod.mk.injEq] at split
    simp [← split.2]
  | case3 character rest _ ih =>
    simp only [Option.map_eq_some_iff, Prod.mk.injEq, Prod.exists] at split
    obtain ⟨inner, remaining, found, -, rfl⟩ := split
    have := ih found
    simp
    omega

/-- Read an expression as tokens. -/
def scan (text : List Char) : List Token :=
  match text with
  | [] => []
  | '[' :: '[' :: rest =>
    match _split : splitBrackets rest with
    | some (body, after) => .brackets body :: scan after
    | none => .openBrackets :: scan rest
  | '[' :: rest => .bracket :: scan rest
  | '$' :: '{' :: rest =>
    match _split : splitBrace rest with
    | some (body, after) => .braces body :: scan after
    | none => .openBraces :: scan rest
  | '$' :: rest =>
    .dollar (rest.takeWhile isNameCharacter) :: scan (rest.dropWhile isNameCharacter)
  | character :: rest => .plain character :: scan rest
termination_by text.length
decreasing_by
  · have := length_lt_of_splitBrackets _split
    simp only [List.length_cons]
    omega
  · simp only [List.length_cons]
    omega
  · simp
  · have := length_lt_of_splitBrace _split
    simp only [List.length_cons]
    omega
  · simp only [List.length_cons]
    omega
  · have := (List.dropWhile_sublist (l := rest) isNameCharacter).length_le
    simp only [List.length_cons]
    omega
  · simp

/-- The name that a token proposes: the body of brackets, the part of a braced body before its
first colon, or the run after a dollar sign. -/
def Token.candidate : Token → Option (List Char)
  | .brackets body => some body
  | .braces body => some (body.takeWhile (· != ':'))
  | .dollar run => some run
  | .plain _ | .bracket | .openBrackets | .openBraces => none

/-- The variables that a list of tokens mentions, each once, in order of first appearance. -/
def namesOf (tokens : List Token) : List (List Char) :=
  ((tokens.filterMap Token.candidate).filter isVariableName).eraseDups

/-- The template variables that an expression references, each once, in order of first
appearance. -/
def referencedVariables (expression : String) : List String :=
  (namesOf (scan expression.toList)).map String.ofList

end DashboardGenerator.Placeholder
