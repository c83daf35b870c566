import DashboardGenerator.Config.Value
import DashboardGenerator.Toml.Document

/-!
# Configurations from TOML

The tree of a document as a configuration. Dates and times become texts. A number without a value is
a fault of the whole document, also under a key that nobody reads; of several the one that comes
first in the order of keys is reported.
-/

namespace DashboardGenerator.Config

/-- Why a text gives no configuration. -/
inductive ParseFault where
  | form
  | number (fault : Toml.NumberFault)
  /-- A text in another format is refused, in the words of its reader. -/
  | foreign (message : String)
deriving Repr, DecidableEq

/-- The sentence that reports the fault. -/
def ParseFault.message : ParseFault → String
  | .form => "TOML parse error"
  | .number fault => fault.message
  | .foreign message => message

/-- The configuration scalar of a TOML scalar. -/
def ofTomlScalar : Toml.Scalar → Except Toml.NumberFault Scalar
  | .string value => .ok (.string (String.ofList value))
  | .boolean value => .ok (.boolean value)
  | .integer value => .ok (.integer value)
  | .float value => .ok (.float value)
  | .dateTime value => .ok (.string (String.ofList value.text))
  | .unfit fault => .error fault

/-- The fault of the least key, if any key has one. -/
def leastFault? {α : Type} : List (String × Except Toml.NumberFault α) →
    Option (String × Toml.NumberFault)
  | [] => none
  | (_, .ok _) :: rest => leastFault? rest
  | (key, .error fault) :: rest =>
    match leastFault? rest with
    | some (other, otherFault) => some (if other < key then (other, otherFault) else (key, fault))
    | none => some (key, fault)

/-- The entries with a value. -/
def settled {α : Type} (entries : List (String × Except Toml.NumberFault α)) :
    List (String × α) :=
  entries.filterMap fun (key, value) => value.toOption.map fun value => (key, value)

/-- The entries, if all of them have a value. -/
def settle {α : Type} (entries : List (String × Except Toml.NumberFault α)) :
    Except Toml.NumberFault (List (String × α)) :=
  match leastFault? entries with
  | some (_, fault) => .error fault
  | none => .ok (settled entries)

mutual

/-- The configuration of a TOML value. -/
def ofTomlValue (origin : Origin) : Toml.Value → Except Toml.NumberFault Value
  | .scalar value => (ofTomlScalar value).map (.scalar origin)
  | .array _ items => (ofTomlItems origin items).map (.array origin)
  | .table _ entries => (settle (ofTomlEntries origin entries)).map .table
termination_by structural value => value

/-- The configurations of the elements of an array. -/
def ofTomlItems (origin : Origin) : List Toml.Value → Except Toml.NumberFault (List Value)
  | [] => .ok []
  | item :: rest => do
    let first ← ofTomlValue origin item
    let others ← ofTomlItems origin rest
    return first :: others
termination_by structural items => items

/-- The configurations of the entries of a table. -/
def ofTomlEntries (origin : Origin) :
    List (String × Toml.Value) → List (String × Except Toml.NumberFault Value)
  | [] => []
  | (key, value) :: rest => (key, ofTomlValue origin value) :: ofTomlEntries origin rest
termination_by structural entries => entries

end

/-- The values that a TOML text gives to its top-level keys. -/
def ofToml (origin : Origin) (text : String) : Except ParseFault (List (String × Value)) :=
  match Toml.document? text with
  | none => .error .form
  | some entries => (settle (ofTomlEntries origin entries)).mapError .number

end DashboardGenerator.Config
