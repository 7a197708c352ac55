import DeclaredEnv.Number.Binary64

/-!
# Values of a TOML document

* `Scalar` — the values without parts.  Of a date or a time only the sort is kept.
* `Value` — scalars, arrays and tables; a table keeps the order of its keys.
* `Value.typeName` — the word for the sort of a value.
-/

namespace DeclaredEnv.Toml

open Number

/-- A value without parts. -/
inductive Scalar where
  | string (s : String)
  | integer (n : Int)
  | float (x : Binary64)
  | boolean (b : Bool)
  | datetime
  deriving DecidableEq, Repr

/-- A value of a document. -/
inductive Value where
  | scalar (s : Scalar)
  | array (items : List Value)
  | table (fields : List (String × Value))
  deriving Repr

/-- A table: keys with values, in order. -/
abbrev Table := List (String × Value)

/-- The word for the sort of a scalar. -/
def Scalar.typeName : Scalar → String
  | .string _ => "string"
  | .integer _ => "integer"
  | .float _ => "float"
  | .boolean _ => "boolean"
  | .datetime => "datetime"

/-- The word for the sort of a value. -/
def Value.typeName : Value → String
  | .scalar s => s.typeName
  | .array _ => "array"
  | .table _ => "table"

end DeclaredEnv.Toml
