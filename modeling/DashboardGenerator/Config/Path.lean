import DashboardGenerator.Number.Digits
import DashboardGenerator.Text.Blank

/-!
# Paths into a configuration

A path leads from a named root through keys and indexes, as in `rows[0].panels`. A negative index
counts from the end of its array.
-/

namespace DashboardGenerator.Config

open Number Text

/-- One step from a value to a part of it. -/
inductive Step where
  | key (name : String)
  | index (position : Int)
deriving Repr, DecidableEq

/-- A root key and the steps from its value. -/
structure Path where
  root : String
  steps : List Step
deriving Repr, DecidableEq

/-- A character of a key in a path: a letter or digit of ASCII, an underscore or a hyphen. -/
def isPathCharacter (character : Char) : Bool :=
  character.isAlphanum || character == '_' || character == '-'

/-- Read the key at the start of a text. -/
def pathKey? (text : List Char) : Option (String × List Char) :=
  let name := text.takeWhile isPathCharacter
  if name.isEmpty then none else some (String.ofList name, text.dropWhile isPathCharacter)

/-- The index that digits spell, if it fits into sixty-four bits. -/
def indexOf? (negative : Bool) (digits : List Char) : Option Int :=
  let magnitude := decimalValue digits
  if digits.isEmpty then none
  else if negative then if magnitude ≤ Nat.pow 2 63 then some (-magnitude) else none
  else if magnitude < Nat.pow 2 63 then some magnitude
  else none

/-- Split off a hyphen. -/
def splitHyphen : List Char → Bool × List Char
  | '-' :: rest => (true, rest)
  | rest => (false, rest)

/-- Read an index behind its opening bracket, up to and with the closing one. -/
def pathIndex? (text : List Char) : Option (Int × List Char) :=
  let (negative, text) := splitHyphen (text.dropWhile isBlank)
  match (text.dropWhile Char.isDigit).dropWhile isBlank with
  | ']' :: rest =>
    (indexOf? negative (text.takeWhile Char.isDigit)).map fun index => (index, rest)
  | _ => none

/-- Reading a key leaves no more than there was. -/
theorem length_pathKey?_le {text rest : List Char} {name : String}
    (read : pathKey? text = some (name, rest)) : rest.length ≤ text.length := by
  simp only [pathKey?] at read
  split at read
  · simp at read
  · simp only [Option.some.injEq, Prod.mk.injEq] at read
    simpa [← read.2] using (List.dropWhile_sublist (l := text) isPathCharacter).length_le

/-- Splitting off a hyphen leaves no more than there was. -/
theorem length_splitHyphen_le (text : List Char) :
    (splitHyphen text).2.length ≤ text.length := by
  unfold splitHyphen
  split <;> simp

/-- Reading an index leaves less than there was. -/
theorem length_pathIndex?_lt {text rest : List Char} {index : Int}
    (read : pathIndex? text = some (index, rest)) : rest.length < text.length := by
  simp only [pathIndex?] at read
  split at read
  · rename_i after shape
    simp only [Option.map_eq_some_iff, Prod.mk.injEq] at read
    obtain ⟨_, _, _, rfl⟩ := read
    have first := (List.dropWhile_sublist (l := text) isBlank).length_le
    have second := length_splitHyphen_le (text.dropWhile isBlank)
    have third := (List.dropWhile_sublist (l := (splitHyphen (text.dropWhile isBlank)).2)
      Char.isDigit).length_le
    have fourth := (List.dropWhile_sublist
      (l := (splitHyphen (text.dropWhile isBlank)).2.dropWhile Char.isDigit) isBlank).length_le
    simp only [shape, List.length_cons] at fourth
    omega
  · simp at read

/-- Read the steps of a path behind its root. -/
def steps? (text : List Char) : Option (List Step) :=
  match text with
  | [] => some []
  | '.' :: rest =>
    match _read : pathKey? rest with
    | some (name, after) => (steps? after).map (Step.key name :: ·)
    | none => none
  | '[' :: rest =>
    match _read : pathIndex? rest with
    | some (index, after) => (steps? after).map (Step.index index :: ·)
    | none => none
  | _ :: _ => none
termination_by text.length
decreasing_by
  · have := length_pathKey?_le _read
    simp only [List.length_cons]
    omega
  · have := length_pathIndex?_lt _read
    simp only [List.length_cons]
    omega

/-- Read a text as a path, if it is one. -/
def Path.ofText? (text : String) : Option Path := do
  let (root, rest) ← pathKey? text.toList
  let steps ← steps? rest
  some ⟨root, steps⟩

/-- The path that a key stands for: the one that it spells, or else its own name. -/
def Path.ofKey (key : String) : Path :=
  (Path.ofText? key).getD ⟨key, []⟩

/-- The steps as text. A point separates two keys, and nothing stands behind an index. -/
def stepsText : List Step → String
  | [] => ""
  | .index position :: rest => s!"[{position}]" ++ stepsText rest
  | .key name :: .key next :: rest => name ++ "." ++ stepsText (.key next :: rest)
  | .key name :: rest => name ++ stepsText rest

end DashboardGenerator.Config
