import DashboardGenerator.Json.Basic
import DashboardGenerator.Json.Token

/-!
# Reading JSON

The tokens of a text are read one after the other. The reader keeps the arrays and objects that are
still open, innermost first, and what may come next. A text is well formed if its tokens lead to the
end of one value.
-/

namespace DashboardGenerator.Json

/-- An array or an object that is still open, its parts in reverse order. An object keeps the key
whose value is being read. -/
inductive Frame where
  | array (reversed : List Json)
  | object (reversed : List (String × Json)) (key : String)
deriving Repr

/-- What may come next. -/
inductive Position where
  /-- A value. -/
  | value
  /-- The first element of an array, or its end. -/
  | firstItem
  /-- What follows an element of an array. -/
  | itemEnd
  /-- The first key of an object, or its end. -/
  | firstKey
  /-- A key of an object. -/
  | key
  /-- The colon behind a key. -/
  | colon
  /-- What follows a value of an object. -/
  | fieldEnd
  /-- Nothing: the value is complete. -/
  | finished (value : Json)
deriving Repr

/-- The state of the reader. -/
structure Reader where
  frames : List Frame
  position : Position
deriving Repr

namespace Reader

/-- The reader before the first token. -/
def start : Reader := ⟨[], .value⟩

/-- The reader after a complete value inside open arrays and objects. -/
def after (value : Json) : List Frame → Reader
  | [] => ⟨[], .finished value⟩
  | .array reversed :: outer => ⟨.array (value :: reversed) :: outer, .itemEnd⟩
  | .object reversed key :: outer => ⟨.object ((key, value) :: reversed) key :: outer, .fieldEnd⟩

/-- Read the first token of a value. -/
def value? (frames : List Frame) : Token → Option Reader
  | .null => some (after .null frames)
  | .bool value => some (after (.bool value) frames)
  | .number value => some (after (.number value) frames)
  | .string value => some (after (.string value) frames)
  | .leftBracket => some ⟨.array [] :: frames, .firstItem⟩
  | .leftBrace => some ⟨.object [] "" :: frames, .firstKey⟩
  | .rightBracket | .rightBrace | .comma | .colon => none

/-- Close the innermost array. -/
def closeArray? : List Frame → Option Reader
  | .array reversed :: outer => some (after (.array reversed.reverse) outer)
  | _ => none

/-- Close the innermost object. -/
def closeObject? : List Frame → Option Reader
  | .object reversed _ :: outer => some (after (.object reversed.reverse) outer)
  | _ => none

/-- Read a key of the innermost object. -/
def key? : List Frame → Token → Option Reader
  | .object reversed _ :: outer, .string key => some ⟨.object reversed key :: outer, .colon⟩
  | _, _ => none

/-- Read one token. -/
def step? (reader : Reader) (token : Token) : Option Reader :=
  match reader.position with
  | .value => value? reader.frames token
  | .firstItem =>
    match token with
    | .rightBracket => closeArray? reader.frames
    | other => value? reader.frames other
  | .itemEnd =>
    match token with
    | .comma => some { reader with position := .value }
    | .rightBracket => closeArray? reader.frames
    | _ => none
  | .firstKey =>
    match token with
    | .rightBrace => closeObject? reader.frames
    | other => key? reader.frames other
  | .key => key? reader.frames token
  | .colon =>
    match token with
    | .colon => some { reader with position := .value }
    | _ => none
  | .fieldEnd =>
    match token with
    | .comma => some { reader with position := .key }
    | .rightBrace => closeObject? reader.frames
    | _ => none
  | .finished _ => none

/-- Read tokens. -/
def run? (reader : Reader) (tokens : List Token) : Option Reader :=
  tokens.foldlM step? reader

/-- The value of a text that may end here. -/
def finish? (reader : Reader) : Option Json :=
  match reader.position with
  | .finished value => some value
  | _ => none

end Reader

/-- The value that a text spells, if it is well formed. -/
def parse? (text : String) : Option Json := do
  let tokens ← tokens? text.toList
  let reader ← Reader.start.run? tokens
  reader.finish?

/-- The value of a field of an object. -/
def field? (name : String) : Json → Option Json
  | .object fields => fields.lookup name
  | _ => none

/-- The elements of an array. -/
def items? : Json → Option (List Json)
  | .array items => some items
  | _ => none

/-- The text of a string. -/
def string? : Json → Option String
  | .string value => some value
  | _ => none

end DashboardGenerator.Json
