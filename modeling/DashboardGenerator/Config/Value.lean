import DashboardGenerator.Number.Shortest

/-!
# Configuration trees

A configuration is a tree of tables, arrays and scalars, put together from several sources. Scalars
and arrays remember where they came from, so that a fault can name the source; tables are put
together key by key and belong to none.
-/

namespace DashboardGenerator.Config

/-- Where a value came from. -/
inductive Origin where
  | memory
  | file (path : String)
  | environment
deriving Repr, DecidableEq

/-- The source as the end of a sentence. -/
def Origin.suffix : Origin → String
  | .memory => ""
  | .file path => " in " ++ path
  | .environment => " in the environment"

/-- A value without parts. -/
inductive Scalar where
  | string (value : String)
  | boolean (value : Bool)
  | integer (value : Int)
  | float (value : Binary64)
deriving Repr, DecidableEq

/-- An integer in decimal. -/
def integerText (value : Int) : String :=
  let digits := Nat.toDigits 10 value.natAbs
  String.ofList (if value < 0 then '-' :: digits else digits)

/-- The scalar as a text. -/
def Scalar.text : Scalar → String
  | .string value => value
  | .boolean true => "true"
  | .boolean false => "false"
  | .integer value => integerText value
  | .float value => value.toText

/-- A configuration tree. A gap in an array is `nil`. -/
inductive Value where
  | nil
  | scalar (origin : Origin) (value : Scalar)
  | array (origin : Origin) (items : List Value)
  | table (entries : List (String × Value))
deriving Repr, Inhabited

namespace Value

/-- The entries of a table; any other value has none. -/
def entries : Value → List (String × Value)
  | .table entries => entries
  | .nil | .scalar .. | .array .. => []

/-- The elements of an array; any other value has none. -/
def items : Value → List Value
  | .array _ items => items
  | .nil | .scalar .. | .table _ => []

/-- The source of a scalar or an array. -/
def origin : Value → Origin
  | .scalar origin _ | .array origin _ => origin
  | .nil | .table _ => .memory

/-- The source of an array; an array that takes the place of another value has none. -/
def arrayOrigin : Value → Origin
  | .array origin _ => origin
  | .nil | .scalar .. | .table _ => .memory

end Value

end DashboardGenerator.Config
