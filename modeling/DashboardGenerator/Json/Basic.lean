/-!
# JSON documents

The values of a JSON document. Numbers are natural numbers, the only ones that dashboards hold, and
the fields of an object keep their order.
-/

namespace DashboardGenerator

/-- A JSON value. -/
inductive Json where
  | null
  | bool (value : Bool)
  | number (value : Nat)
  | string (value : String)
  | array (items : List Json)
  | object (fields : List (String × Json))
deriving Repr, Inhabited

namespace Json

/-- A string, or `null` for none. -/
def ofOptionString : Option String → Json
  | some value => .string value
  | none => .null

end Json

end DashboardGenerator
