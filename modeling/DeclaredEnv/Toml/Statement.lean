import DeclaredEnv.Toml.Value

/-!
# What the lines of a TOML document say

* `KeyPath` — a dotted key: the tables to pass through, and the key in the last of them.
* `Term` — a value as written: an inline table is still a list of assignments.
* `Statement` — a header or an assignment.
-/

namespace DeclaredEnv.Toml

/-- A dotted key. -/
structure KeyPath where
  parents : List String
  last : String
  deriving DecidableEq, Repr

/-- Every part of a dotted key, in order. -/
def KeyPath.parts (p : KeyPath) : List String := p.parents ++ [p.last]

/-- A value as written. -/
inductive Term where
  | scalar (s : Scalar)
  | array (items : List Term)
  | inline (fields : List (KeyPath × Term))
  deriving Repr

/-- What one line says. -/
inductive Statement where
  /-- `[path]`: what follows belongs to this table. -/
  | table (path : KeyPath)
  /-- `[[path]]`: what follows belongs to a new element of this array of tables. -/
  | element (path : KeyPath)
  /-- `path = value` in the table of the last header. -/
  | assign (path : KeyPath) (value : Term)
  deriving Repr

end DeclaredEnv.Toml
