import DashboardGenerator.Toml.Table
import DashboardGenerator.Toml.Token

/-!
# Reading TOML documents

The tokens of a document are read one after the other. The reader keeps the tables read so far, the
header that the present line belongs to, the arrays and inline tables that are still open, and what
may come next. Arrays and inline tables nest at most `nestingLimit` deep, and a key has at most as
many parts.
-/

namespace DashboardGenerator.Toml

/-- The depth to which arrays and inline tables nest, and the number of parts of a key. -/
def nestingLimit : Nat := 80

/-- What a key is read for. -/
inductive KeyUse where
  /-- A key with a value, on a line or in an inline table. -/
  | pair
  /-- The header of a table. -/
  | table
  /-- The header of an element of an array of tables. -/
  | element
deriving Repr, DecidableEq

/-- An array or an inline table that is still open. The elements of an array are kept in reverse
order; an inline table keeps the key whose value is being read. -/
inductive Frame where
  | array (reversed : List Value)
  | inlineTable (entries : Entries) (key : List String)
deriving Repr

/-- What may come next. -/
inductive Position where
  /-- The start of a line. -/
  | line
  /-- The token behind the first bracket of a line. -/
  | header
  /-- A part of a key, behind the parts read so far. -/
  | keyPart (use : KeyUse) (parts : List String)
  /-- What follows a part of a key. -/
  | keyEnd (use : KeyUse) (parts : List String)
  /-- The second closing bracket of a header. -/
  | headerEnd (path : List String)
  /-- The end of a line. -/
  | lineEnd
  /-- A value. -/
  | value
  /-- An element of an array, or its end. -/
  | item
  /-- What follows an element of an array. -/
  | itemEnd
  /-- A key of an inline table, or its end. -/
  | entry
  /-- What follows a value of an inline table. -/
  | entryEnd
  /-- More of a value without quotes. -/
  | bare (text : List Char)
  /-- What follows a single space behind a value without quotes. -/
  | bareGap (text : List Char)
deriving Repr, DecidableEq

/-- The state of the reader. The key is that of the line whose value is being read. -/
structure Reader where
  tables : Entries
  header : List String
  key : List String
  frames : List Frame
  position : Position
deriving Repr

namespace Reader

/-- The reader before the first token. -/
def start : Reader := ⟨[], [], [], [], .line⟩

/-- The reader with something else coming next. -/
def moveTo (reader : Reader) (position : Position) : Reader :=
  { reader with position }

/-- A character of a key that is written as a word: a letter or digit of ASCII, an underscore or a
hyphen. -/
def isKeyCharacter (character : Char) : Bool :=
  character.isAlphanum || character == '_' || character == '-'

/-- The name of a key that is written as a word. -/
def bareKey? (word : List Char) : Option String :=
  if !word.isEmpty && word.all isKeyCharacter then some (String.ofList word) else none

/-- Read one more part of a key. -/
def addPart? (reader : Reader) (use : KeyUse) (parts : List String) (part : String) :
    Option Reader :=
  if parts.length < nestingLimit then some (reader.moveTo (.keyEnd use (parts ++ [part])))
  else none

/-- Read a part of a key. -/
def keyPart? (reader : Reader) (use : KeyUse) (parts : List String) : Token → Option Reader
  | .word text => do reader.addPart? use parts (← bareKey? text)
  | .string false value => reader.addPart? use parts (String.ofList value)
  | _ => none

/-- Put a finished value where it belongs: into the innermost open array or inline table, or under
the key of its line. -/
def deliver? (reader : Reader) (value : Value) : Option Reader :=
  match reader.frames with
  | [] => do
    let tables ← reader.tables.assignIn? reader.header reader.key value
    some { reader with tables, position := .lineEnd }
  | .array reversed :: outer =>
    some { reader with frames := .array (value :: reversed) :: outer, position := .itemEnd }
  | .inlineTable entries key :: outer => do
    let entries ← entries.assign? key value
    some { reader with frames := .inlineTable entries key :: outer, position := .entryEnd }

/-- Open an array or an inline table. -/
def push? (reader : Reader) (frame : Frame) (position : Position) : Option Reader :=
  if reader.frames.length < nestingLimit then
    some { reader with frames := frame :: reader.frames, position }
  else none

/-- Close the innermost array. -/
def closeArray? (reader : Reader) : Option Reader :=
  match reader.frames with
  | .array reversed :: outer =>
    { reader with frames := outer }.deliver? (.array false reversed.reverse)
  | _ => none

/-- Close the innermost inline table. -/
def closeTable? (reader : Reader) : Option Reader :=
  match reader.frames with
  | .inlineTable entries _ :: outer =>
    { reader with frames := outer }.deliver? (.table .inline entries)
  | _ => none

/-- Read the first token of a value. -/
def value? (reader : Reader) : Token → Option Reader
  | .string _ value => reader.deliver? (.scalar (.string value))
  | .leftBracket => reader.push? (.array []) .item
  | .leftBrace => reader.push? (.inlineTable [] []) .entry
  | .word text => some (reader.moveTo (.bare text))
  | .dot => some (reader.moveTo (.bare ['.']))
  | _ => none

/-- Read what follows a part of a key. -/
def keyEnd? (reader : Reader) (use : KeyUse) (parts : List String) : Token → Option Reader
  | .blank _ => some reader
  | .dot => some (reader.moveTo (.keyPart use parts))
  | .equals =>
    match use, reader.frames with
    | .pair, [] => some { reader with key := parts, position := .value }
    | .pair, .inlineTable entries _ :: outer =>
      some { reader with frames := .inlineTable entries parts :: outer, position := .value }
    | _, _ => none
  | .rightBracket =>
    match use with
    | .pair => none
    | .table => do
      let tables ← reader.tables.openTable? parts
      some { reader with tables, header := parts, position := .lineEnd }
    | .element => some (reader.moveTo (.headerEnd parts))
  | _ => none

/-- Finish a value without quotes. -/
def finishBare? (reader : Reader) (text : List Char) : Option Reader := do
  reader.deliver? (.scalar (← scalar? text))

/-- Read a token anywhere but inside a value without quotes. -/
def settledStep? (reader : Reader) (token : Token) : Option Reader :=
  match reader.position with
  | .line =>
    match token with
    | .blank _ | .newline | .comment => some reader
    | .leftBracket => some (reader.moveTo .header)
    | other => reader.keyPart? .pair [] other
  | .header =>
    match token with
    | .leftBracket => some (reader.moveTo (.keyPart .element []))
    | .blank _ => some (reader.moveTo (.keyPart .table []))
    | other => reader.keyPart? .table [] other
  | .keyPart use parts =>
    match token with
    | .blank _ => some reader
    | other => reader.keyPart? use parts other
  | .keyEnd use parts => reader.keyEnd? use parts token
  | .headerEnd path =>
    match token with
    | .rightBracket => do
      let tables ← reader.tables.openElement? path
      some { reader with tables, header := path, position := .lineEnd }
    | _ => none
  | .lineEnd =>
    match token with
    | .blank _ | .comment => some reader
    | .newline => some (reader.moveTo .line)
    | _ => none
  | .value =>
    match token with
    | .blank _ => some reader
    | other => reader.value? other
  | .item =>
    match token with
    | .blank _ | .newline | .comment => some reader
    | .rightBracket => reader.closeArray?
    | other => reader.value? other
  | .itemEnd =>
    match token with
    | .blank _ | .newline | .comment => some reader
    | .comma => some (reader.moveTo .item)
    | .rightBracket => reader.closeArray?
    | _ => none
  | .entry =>
    match token with
    | .blank _ | .newline | .comment => some reader
    | .rightBrace => reader.closeTable?
    | other => reader.keyPart? .pair [] other
  | .entryEnd =>
    match token with
    | .blank _ | .newline | .comment => some reader
    | .comma => some (reader.moveTo .entry)
    | .rightBrace => reader.closeTable?
    | _ => none
  | .bare _ | .bareGap _ => none

/-- Read one token. A value without quotes goes on through dots, and through a single space if a
word follows it; any other token ends it first. -/
def step? (reader : Reader) (token : Token) : Option Reader :=
  match reader.position with
  | .bare text =>
    match token with
    | .word more => some (reader.moveTo (.bare (text ++ more)))
    | .dot => some (reader.moveTo (.bare (text ++ ['.'])))
    | .blank [' '] => some (reader.moveTo (.bareGap text))
    | other => do (← reader.finishBare? text).settledStep? other
  | .bareGap text =>
    match token with
    | .word more => some (reader.moveTo (.bare (text ++ ' ' :: more)))
    | other => do (← reader.finishBare? text).settledStep? other
  | _ => reader.settledStep? token

/-- Read tokens. -/
def run? (reader : Reader) (tokens : List Token) : Option Reader :=
  tokens.foldlM step? reader

/-- The tables of a document that may end here. -/
def finish? (reader : Reader) : Option Entries := do
  let reader ←
    match reader.position with
    | .bare text | .bareGap text => reader.finishBare? text
    | _ => some reader
  match reader.position with
  | .line | .lineEnd => some reader.tables
  | _ => none

end Reader

/-- The text without a byte order mark in front. -/
def skipByteOrderMark : List Char → List Char
  | '\uFEFF' :: rest => rest
  | text => text

/-- The tables of a document, if its form is right. -/
def document? (text : String) : Option Entries := do
  let tokens ← tokens? (skipByteOrderMark text.toList)
  let reader ← Reader.start.run? tokens
  reader.finish?

end DashboardGenerator.Toml
