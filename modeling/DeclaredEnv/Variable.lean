import DeclaredEnv.Condition

/-!
# Declared variables

* `Variable` — a declaration whose parts have been interpreted.
* `Requirement` — when a variable has to be set; a default outweighs a condition, and a condition
  the kind.
* `Variable.fallback` — the value of a variable that is not set and need not be.
-/

namespace DeclaredEnv

/-- A declared variable. -/
structure Variable where
  subject : String
  name : String
  kind : Kind
  default? : Option Value
  description : String
  /-- The condition as it was written. -/
  requiredWhen : Option String
  condition : Option Condition
  /-- The applications that use the variable, each once. -/
  applications : List String
  deriving DecidableEq, Repr

/-- When a variable has to be set. -/
inductive Requirement where
  | always
  | conditional
  | never
  deriving DecidableEq, Repr

/-- The word for a requirement. -/
def Requirement.word : Requirement → String
  | .always => "always"
  | .conditional => "conditional"
  | .never => "never"

namespace Variable

/-- When the variable has to be set. -/
def requirement (v : Variable) : Requirement :=
  if v.default?.isSome then .never
  else if v.condition.isSome then .conditional
  else if v.kind.optional then .never
  else .always

/-- The default, or the absence of a value where the kind admits it. -/
def fallback (v : Variable) : Option Value :=
  match v.default? with
  | some d => some d
  | none => if v.kind.optional then some .null else none

/-- The application uses the variable. -/
def usedBy (v : Variable) (application : String) : Bool := v.applications.contains application

/-- Equality of declarations, doubles compared as numbers. -/
def same (v w : Variable) : Bool :=
  (match v.default?, w.default? with
    | some d, some e => d.same e
    | none, none => true
    | _, _ => false) &&
  { v with default? := none } == { w with default? := none }

end Variable

end DeclaredEnv
