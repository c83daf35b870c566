import DashboardGenerator.Config.Order
import DashboardGenerator.Config.Value
import DashboardGenerator.Text.Lowercase
import DashboardGenerator.Text.Quoted

/-!
# Reading values out of a configuration

Readers turn a tree into typed values. They are lenient about scalars: any scalar does for a text,
and numbers and some words do for a truth value. A record is a table of its fields or an array of
them in order. A fault names the place and, where it has one, the source of the value. Within a
record a field of the wrong type is reported before a field that is missing: of several the one that
is visited first, in a table by the order of its keys.
-/

namespace DashboardGenerator.Config

/-- What stands at a place. -/
inductive Found where
  | scalar (value : Scalar)
  | nothing
  | sequence
  | map
deriving Repr, DecidableEq

/-- What should stand at a place. -/
inductive Expected where
  | string
  | boolean
  | sequence
  | record (name : String)
deriving Repr, DecidableEq

/-- What is wrong at a place. -/
inductive ReadFault where
  /-- Something that does for no scalar of the expected kind. -/
  | wrongType (found : Found) (expected : Expected)
  /-- Something that has not the expected parts. -/
  | wrongShape (found : Found) (expected : Expected)
  /-- An array that is too short for the record it stands for. -/
  | tooShort (count : Nat) (name : String) (fields : Nat)
  /-- Nothing, where something has to be. -/
  | missing
deriving Repr, DecidableEq

/-- A fault, its place and the source of the value there. -/
structure ReadError where
  fault : ReadFault
  path : List Step
  origin : Origin
deriving Repr, DecidableEq

/-- What stands at a place, in words. -/
def Found.text : Found → String
  | .scalar (.string value) => "string " ++ Text.quoted value
  | .scalar (.boolean value) => "boolean `" ++ (Scalar.boolean value).text ++ "`"
  | .scalar (.integer value) => "integer `" ++ integerText value ++ "`"
  | .scalar (.float value) => "floating point `" ++ value.toPointedText ++ "`"
  | .nothing => "unit value"
  | .sequence => "sequence"
  | .map => "map"

/-- What should stand at a place, in words. -/
def Expected.text : Expected → String
  | .string => "a string"
  | .boolean => "a boolean"
  | .sequence => "a sequence"
  | .record name => "struct " ++ name

/-- What is wrong, in words. -/
def ReadFault.text : ReadFault → String
  | .wrongType found expected | .wrongShape found expected =>
    "invalid type: " ++ found.text ++ ", expected " ++ expected.text
  | .tooShort count name fields =>
    s!"invalid length {count}, expected struct {name} with {fields} elements"
  | .missing => "missing configuration field"

/-- The sentence that reports the fault. -/
def ReadError.message (error : ReadError) : String :=
  match error.fault with
  | .missing => error.fault.text ++ " \"" ++ stepsText error.path ++ "\""
  | .wrongType .. | .wrongShape .. | .tooShort .. =>
    error.fault.text ++
      (if error.path.isEmpty then "" else " for key `" ++ stepsText error.path ++ "`") ++
      error.origin.suffix

/-- The result of reading a value. -/
abbrev Reading (α : Type) := Except ReadError α

/-- How a value is read, given the order in which the keys of its tables are visited. -/
abbrev Reader (α : Type) := Order → Value → Reading α

/-- The fault of a reading, if it has one. -/
def fault? {α : Type} : Reading α → Option ReadError
  | .ok _ => none
  | .error error => some error

/-- The fault seen from the value that the step leads away from. -/
def behind {α : Type} (step : Step) (reading : Reading α) : Reading α :=
  reading.mapError fun error => { error with path := step :: error.path }

/-- What a value is, for a report. -/
def Value.found : Value → Found
  | .nil => .nothing
  | .scalar _ value => .scalar value
  | .array .. => .sequence
  | .table _ => .map

/-- Read a text. -/
def readString : Reader String
  | _, .scalar _ value => .ok value.text
  | _, other => .error ⟨.wrongType other.found .string, [], other.origin⟩

/-- The truth value that a word in lower case stands for. -/
def wordTruth? (word : String) : Option Bool :=
  if word ∈ ["1", "true", "on", "yes"] then some true
  else if word ∈ ["0", "false", "off", "no"] then some false
  else none

/-- Read a truth value. -/
def readBoolean : Reader Bool
  | _, .scalar _ (.boolean value) => .ok value
  | _, .scalar _ (.integer value) => .ok (value != 0)
  | _, .scalar _ (.float value) => .ok (!value.isZero)
  | _, .scalar origin (.string value) =>
    match wordTruth? (Text.lowercase value) with
    | some truth => .ok truth
    | none =>
      .error ⟨.wrongType (.scalar (.string (Text.lowercase value))) .boolean, [], origin⟩
  | _, other => .error ⟨.wrongType other.found .boolean, [], other.origin⟩

/-- Read a value that may be absent. -/
def readOptional {α : Type} (read : Reader α) : Reader (Option α)
  | _, .nil => .ok none
  | order, value => (read order value).map some

/-- Read the elements of an array from a position on. -/
def readItems {α : Type} (read : Reader α) (order : Order) : Nat → List Value → Reading (List α)
  | _, [] => .ok []
  | position, value :: rest => do
    let first ← behind (.index position) (read (order.below (.index position)) value)
    let others ← readItems read order (position + 1) rest
    return first :: others

/-- Read an array. -/
def readList {α : Type} (read : Reader α) : Reader (List α)
  | order, .array _ items => readItems read order 0 items
  | _, other => .error ⟨.wrongShape other.found .sequence, [], .memory⟩

/-- A kind of record: its name and its fields in order. -/
structure Shape where
  name : String
  fields : List String
deriving Repr, DecidableEq

/-- A record before its fields are read: a table, or an array of the fields in order. -/
inductive Record where
  | keyed (entries : List (String × Value))
  | positional (shape : Shape) (items : List Value)

/-- Read a value as a record. -/
def Shape.record (shape : Shape) : Value → Reading Record
  | .table entries => .ok (.keyed entries)
  | .array _ items => .ok (.positional shape items)
  | other => .error ⟨.wrongShape other.found (.record shape.name), [], .memory⟩

namespace Record

/-- Read a field, if the record has it. -/
def field? {α : Type} (record : Record) (order : Order) (name : String) (read : Reader α) :
    Reading (Option α) :=
  match record with
  | .keyed entries =>
    match entries.lookup name with
    | some value => behind (.key name) ((read (order.below (.key name)) value).map some)
    | none => .ok none
  | .positional shape items =>
    let position := shape.fields.idxOf name
    match items[position]? with
    | some value => behind (.index position) ((read (order.below (.index position)) value).map some)
    | none => .ok none

/-- Visit the fields, given what is wrong with each, and report the first fault. The fields of a table
are visited in the order of its keys, those of an array as they are declared. -/
def visit (record : Record) (order : Order) (faults : List (String × Option ReadError)) :
    Reading Unit :=
  let visited :=
    match record with
    | .keyed _ => order.visited faults
    | .positional .. => faults
  match visited.findSome? Prod.snd with
  | some error => .error error
  | none => .ok ()

/-- Insist on a field. -/
def require {α : Type} (record : Record) (name : String) : Option α → Reading α
  | some value => .ok value
  | none =>
    match record with
    | .keyed _ => .error ⟨.missing, [.key name], .memory⟩
    | .positional shape items =>
      .error ⟨.tooShort items.length shape.name shape.fields.length, [], .memory⟩

end Record

end DashboardGenerator.Config
