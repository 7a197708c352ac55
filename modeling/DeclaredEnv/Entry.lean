/-!
# Entries of a schema document

* `Entry` — one declaration of a variable as it is written, with nothing interpreted yet.
-/

namespace DeclaredEnv

/-- One declaration of a variable, as written. -/
structure Entry where
  /-- The group of variables that the declaration belongs to. -/
  subject : String
  /-- The name of the environment variable. -/
  name : String
  /-- The written form of the variable's kind. -/
  type : String
  description : String
  default? : Option String
  /-- The condition under which the variable has to be set. -/
  requiredWhen : Option String
  /-- The applications that use the variable. -/
  applications : List String
  deriving DecidableEq, Repr

end DeclaredEnv
