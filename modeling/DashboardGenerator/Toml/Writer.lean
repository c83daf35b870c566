import DashboardGenerator.Toml.Document

/-!
# Writing TOML

A document is written in the two ways that TOML has for tables. A `Literal` stands behind its key on
one line, its arrays between brackets and its tables between braces. A `Section` takes several lines:
one for each of its literals, and below them its arrays of tables, each element under a header that
gives the whole path to it. Both say which tree they stand for, and what makes them readable. Keys
are words, but for those of `quotedText`.
-/

namespace DashboardGenerator.Toml

open Number

/-- How one character of a string is written: the quote, the backslash and the control characters
of ASCII by their number, and all else as itself. -/
def escape (character : Char) : List Char :=
  if character = '"' ∨ character = '\\' ∨ character.toNat < 0x20 ∨ character.toNat = 0x7F then
    ['\\', 'u', '0', '0', hexDigit (character.toNat / 16), hexDigit (character.toNat % 16)]
  else [character]

/-- The text of a token. A string is written on one line, and a comment without words. -/
def Token.text : Token → List Char
  | .dot => ['.']
  | .equals => ['=']
  | .comma => [',']
  | .leftBracket => ['[']
  | .rightBracket => [']']
  | .leftBrace => ['\x7b']
  | .rightBrace => ['\x7d']
  | .blank text => text
  | .newline => ['\n']
  | .comment => ['#']
  | .string _ value => '"' :: value.flatMap escape ++ ['"']
  | .word text => text

/-- A key as it stands in front of its value. -/
def keyTokens (key : String) : List Token :=
  [.word key.toList, .blank [' '], .equals, .blank [' ']]

/-! ## Values on one line -/

/-- A value that is written on one line. -/
inductive Literal where
  | string (value : String)
  | boolean (value : Bool)
  | array (items : List Literal)
  | table (entries : List (String × Literal))
deriving Repr

namespace Literal

mutual

/-- The tokens of a value. -/
def tokens : Literal → List Token
  | .string value => [.string false value.toList]
  | .boolean true => [.word ['t', 'r', 'u', 'e']]
  | .boolean false => [.word ['f', 'a', 'l', 's', 'e']]
  | .array items => .leftBracket :: itemTokens items ++ [.rightBracket]
  | .table entries => .leftBrace :: entryTokens entries ++ [.rightBrace]
termination_by structural literal => literal

/-- The tokens of elements, separated by commas. -/
def itemTokens : List Literal → List Token
  | [] => []
  | [item] => item.tokens
  | item :: rest => item.tokens ++ .comma :: .blank [' '] :: itemTokens rest
termination_by structural items => items

/-- The tokens of keys and their values, separated by commas. -/
def entryTokens : List (String × Literal) → List Token
  | [] => []
  | [(key, value)] => keyTokens key ++ value.tokens
  | (key, value) :: rest =>
    keyTokens key ++ value.tokens ++ .comma :: .blank [' '] :: entryTokens rest
termination_by structural entries => entries

end

mutual

/-- The value in the tree of a document. -/
def value : Literal → Value
  | .string value => .scalar (.string value.toList)
  | .boolean value => .scalar (.boolean value)
  | .array items => .array false (itemValues items)
  | .table entries => .table .inline (entryValues entries)
termination_by structural literal => literal

/-- The elements in the tree of a document. -/
def itemValues : List Literal → List Value
  | [] => []
  | item :: rest => item.value :: itemValues rest
termination_by structural items => items

/-- The keys and their values in the tree of a document. -/
def entryValues : List (String × Literal) → Entries
  | [] => []
  | (key, value) :: rest => (key, value.value) :: entryValues rest
termination_by structural entries => entries

end

end Literal

/-! ## Values on several lines -/

/-- A table that is written on several lines: the keys that have a line each, and the arrays of
tables below them. -/
inductive Section where
  | mk (lines : List (String × Literal)) (groups : List (String × List Section))
deriving Repr

/-- The tokens of a key and its value on a line of their own. -/
def lineTokens (line : String × Literal) : List Token :=
  keyTokens line.1 ++ line.2.tokens ++ [.newline]

/-- The tokens of a header, with a blank line above it. -/
def headerTokens (path : List String) (key : String) : List Token :=
  .newline :: .leftBracket :: .leftBracket ::
    path.flatMap (fun step => [.word step.toList, .dot]) ++
    [.word key.toList, .rightBracket, .rightBracket, .newline]

/-- The entry of an array of tables, which is not there without elements. -/
def arrayEntry (key : String) (items : List Value) : Entries :=
  if items.isEmpty then [] else [(key, .array true items)]

namespace Section

mutual

/-- The tokens of a table at a path. -/
def tokens (path : List String) : Section → List Token
  | .mk lines groups => lines.flatMap lineTokens ++ groupTokens path groups
termination_by structural table => table

/-- The tokens of the arrays of tables in a table at a path. -/
def groupTokens (path : List String) : List (String × List Section) → List Token
  | [] => []
  | (key, elements) :: rest => elementTokens path key elements ++ groupTokens path rest
termination_by structural groups => groups

/-- The tokens of the elements of an array of tables. -/
def elementTokens (path : List String) (key : String) : List Section → List Token
  | [] => []
  | element :: rest =>
    headerTokens path key ++ element.tokens (path ++ [key]) ++ elementTokens path key rest
termination_by structural elements => elements

end

mutual

/-- The entries of the table in the tree of a document. -/
def entries : Section → Entries
  | .mk lines groups => Literal.entryValues lines ++ groupEntries groups
termination_by structural table => table

/-- The entries of arrays of tables. -/
def groupEntries : List (String × List Section) → Entries
  | [] => []
  | (key, elements) :: rest => arrayEntry key (elementValues elements) ++ groupEntries rest
termination_by structural groups => groups

/-- The elements of an array of tables. -/
def elementValues : List Section → List Value
  | [] => []
  | element :: rest => .table .header element.entries :: elementValues rest
termination_by structural elements => elements

end

/-- The text of a whole document. -/
def text (document : Section) : String :=
  String.ofList ((document.tokens []).flatMap Token.text)

end Section

/-! ## Quoted keys -/

/-- The tokens of a quoted key and its value on a line of their own. -/
def quotedLineTokens (line : String × Literal) : List Token :=
  [.string false line.1.toList, .blank [' '], .equals, .blank [' ']] ++ line.2.tokens ++ [.newline]

/-- The text of a document whose keys are quoted and have a line each. -/
def quotedText (lines : List (String × Literal)) : String :=
  String.ofList ((lines.flatMap quotedLineTokens).flatMap Token.text)

/-! ## What can be read back -/

/-- The key may be written as a word. -/
def IsBareKey (key : String) : Prop :=
  Reader.bareKey? key.toList = some key

instance (key : String) : Decidable (IsBareKey key) :=
  inferInstanceAs (Decidable (_ = _))

/-- The keys of a table are words, and none is given twice. -/
structure KeysFit (keys : List String) : Prop where
  bare : ∀ key ∈ keys, IsBareKey key
  distinct : keys.Nodup

instance (keys : List String) : Decidable (KeysFit keys) :=
  decidable_of_iff ((∀ key ∈ keys, IsBareKey key) ∧ keys.Nodup)
    ⟨fun h => ⟨h.1, h.2⟩, fun h => ⟨h.bare, h.distinct⟩⟩

/-- Arrays and tables nest at most `room` deep in the value, and the keys of its tables fit. -/
inductive Literal.Fits : Nat → Literal → Prop where
  | string (room value) : Literal.Fits room (.string value)
  | boolean (room value) : Literal.Fits room (.boolean value)
  | array (room items) : (∀ item ∈ items, Literal.Fits room item) →
      Literal.Fits (room + 1) (.array items)
  | table (room entries) : KeysFit (entries.map Prod.fst) →
      (∀ entry ∈ entries, Literal.Fits room entry.2) → Literal.Fits (room + 1) (.table entries)

/-- Sections lie at most `room` deep below each other, and their keys and values fit. -/
inductive Section.Fits : Nat → Section → Prop where
  | mk (room lines groups) : KeysFit (lines.map Prod.fst ++ groups.map Prod.fst) →
      (∀ line ∈ lines, line.2.Fits nestingLimit) →
      (∀ group ∈ groups, ∀ element ∈ group.2, Section.Fits room element) →
      Section.Fits (room + 1) (.mk lines groups)

end DashboardGenerator.Toml
