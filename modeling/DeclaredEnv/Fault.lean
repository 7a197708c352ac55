import DeclaredEnv.Condition

/-!
# Faults of a schema document

* `Fault` — one thing that is wrong with a list of entries, with the words for it.
-/

namespace DeclaredEnv

/-- One thing that is wrong with a list of entries. -/
inductive Fault where
  /-- The type is no kind. -/
  | unknownType (subject name token : String)
  /-- The default is no value of the kind. -/
  | defaultMismatch (subject name raw : String) (kind : Kind)
  /-- An earlier entry of the subject has the same name. -/
  | declaredTwice (subject name : String)
  /-- The condition is no comparison. -/
  | malformedCondition (subject name text : String)
  /-- The condition names a variable that no subject has. -/
  | unknownReference (subject name reference : String)
  /-- The condition names a variable that cannot be compared with its literal. -/
  | notComparable (subject name reference : String) (reason : NotComparable)
  /-- The condition names a variable that only another subject has. -/
  | otherSubject (subject name reference other : String)
  /-- Conditions refer to each other in a circle; the chain ends with the name it begins with. -/
  | cycle (subject : String) (chain : List String)
  deriving DecidableEq, Repr

namespace Fault

/-- The subject in which the fault lies. -/
def subject : Fault → String
  | .unknownType s .. => s
  | .defaultMismatch s .. => s
  | .declaredTwice s .. => s
  | .malformedCondition s .. => s
  | .unknownReference s .. => s
  | .notComparable s .. => s
  | .otherSubject s .. => s
  | .cycle s .. => s

/-- The fault in words. -/
def message : Fault → String
  | .unknownType s n token =>
    s ++ "." ++ n ++ ": unknown type \"" ++ token ++
      "\": expected str, int, float, bool, or Optional[...] of those"
  | .defaultMismatch s n raw kind =>
    s ++ "." ++ n ++ ": default \"" ++ raw ++ "\" is not a valid " ++ kind.token
  | .declaredTwice s n => s ++ "." ++ n ++ ": variable is declared more than once"
  | .malformedCondition s n text =>
    s ++ "." ++ n ++ ": malformed required_when \"" ++ text ++ "\": expected VARIABLE=VALUE"
  | .unknownReference s n r =>
    s ++ "." ++ n ++ ": required_when references unknown variable " ++ r
  | .notComparable s n r reason =>
    s ++ "." ++ n ++ ": required_when cannot use " ++ r ++ ": " ++ reason.message
  | .otherSubject s n r other =>
    s ++ "." ++ n ++ ": required_when references " ++ r ++
      ", which is declared in subject " ++ other
  | .cycle s chain => s ++ ": required_when conditions form a cycle: " ++ " -> ".intercalate chain

end Fault

/-- How many faults there are, in words. -/
def faultSummary (faults : List Fault) : String :=
  "invalid schema: " ++ toString faults.length ++ " error(s)"

end DeclaredEnv
