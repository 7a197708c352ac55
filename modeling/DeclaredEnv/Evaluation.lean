import DeclaredEnv.Schema

/-!
# Evaluating an environment

* `Environment` — the texts of the variables that are set.
* `Slot` — what an environment and a declaration say about a variable before conditions are looked
  at.
* `Subject.problem?` — what is wrong with a variable, if anything.
* `Schema.evaluate` — the values of every variable of a target, or every violation.
-/

namespace DeclaredEnv

/-- The texts of the variables that are set. -/
abbrev Environment := String → Option String

/-- The environment of a list of names with texts; a later pair outweighs an earlier one. -/
def Environment.ofPairs (pairs : List (String × String)) : Environment := fun name =>
  pairs.reverse.lookup name

/-- What a schema is evaluated for. -/
inductive Target where
  | application (name : String)
  | subject (name : String)
  deriving DecidableEq, Repr

/-- What is known of a variable before conditions are looked at. -/
inductive Slot where
  | value (v : Value)
  /-- The variable is set to a text that does not fit its kind. -/
  | mismatch (raw : String)
  /-- The variable is not set and has no fallback. -/
  | absent
  deriving DecidableEq, Repr

/-- What is known of a variable before conditions are looked at. -/
def Variable.slot (env : Environment) (v : Variable) : Slot :=
  match env v.name with
  | some raw =>
    match v.kind.read? raw with
    | some value => .value value
    | none => .mismatch raw
  | none =>
    match v.requirement with
    | .never => .value (v.fallback.getD .null)
    | _ => .absent

/-- The value of a slot, none standing for a missing one. -/
def Slot.valueOrNull : Slot → Value
  | .value v => v
  | _ => .null

/-- What is wrong with a variable in an environment. -/
inductive Problem where
  | mismatch (kind : Kind) (raw : String)
  | missing
  | missingWhen (condition : Condition)
  deriving DecidableEq, Repr

namespace Problem

/-- The word for the sort of a problem. -/
def word : Problem → String
  | .mismatch .. => "type_mismatch"
  | _ => "missing"

/-- The problem in words. -/
def message : Problem → String
  | .mismatch kind raw => "expected " ++ kind.token ++ ", got \"" ++ raw ++ "\""
  | .missing => "required but not set"
  | .missingWhen c => "required when " ++ c.text ++ " but not set"

end Problem

/-- A variable with what is wrong with it. -/
structure Violation where
  subject : String
  name : String
  problem : Problem
  deriving DecidableEq, Repr

namespace Violation

/-- The violation in words. -/
def message (v : Violation) : String :=
  v.subject ++ "." ++ v.name ++ ": " ++ v.problem.message

/-- The violation in JSON. -/
def toJson (v : Violation) : Json :=
  .obj [("subject", .str v.subject), ("variable", .str v.name),
    ("kind", .str v.problem.word), ("message", .str v.problem.message)]

end Violation

/-- Violations in JSON. -/
def violationsJson (violations : List Violation) : Json := .arr (violations.map Violation.toJson)

/-- The values of the variables of one subject, in order. -/
structure ResolvedSubject where
  name : String
  values : List (String × Value)
  deriving DecidableEq, Repr

/-- The values of the variables of a target. -/
structure Resolved where
  subjects : List ResolvedSubject
  deriving DecidableEq, Repr

namespace Resolved

/-- The value of a variable. -/
def get? (r : Resolved) (subject name : String) : Option Value :=
  match r.subjects.find? (·.name == subject) with
  | none => none
  | some s => (s.values.find? (·.1 == name)).map (·.2)

/-- The values in JSON: an object of objects. -/
def toJson (r : Resolved) : Json :=
  .obj (r.subjects.map fun s => (s.name, .obj (s.values.map fun p => (p.1, p.2.toJson))))

end Resolved

namespace Subject

/-- What is known of the variable of a name before conditions are looked at. -/
def slot? (s : Subject) (env : Environment) (name : String) : Option Slot :=
  (s.find? name).map (·.slot env)

/--
What is wrong with a variable.  One that is absent is missing if it has no condition, or if its
condition holds for the value of the variable that it refers to.
-/
def problem? (s : Subject) (env : Environment) (v : Variable) : Option Problem :=
  match v.slot env with
  | .value _ => none
  | .mismatch raw => some (.mismatch v.kind raw)
  | .absent =>
    match v.condition with
    | none => some .missing
    | some c =>
      match s.slot? env c.reference with
      | some (.value other) => if c.holdsFor other then some (.missingWhen c) else none
      | _ => none

/-- Every violation of a subject, in the order of its variables. -/
def violations (s : Subject) (env : Environment) : List Violation :=
  s.vars.filterMap fun v => (s.problem? env v).map fun p => ⟨v.subject, v.name, p⟩

/-- The values of a subject, in the order of its variables. -/
def resolve (s : Subject) (env : Environment) : ResolvedSubject :=
  ⟨s.name, s.vars.map fun v => (v.name, (v.slot env).valueOrNull)⟩

end Subject

/-- Why an evaluation gives no values. -/
inductive EvaluationError where
  | unknownApplication (name : String)
  | unknownSubject (name : String)
  | invalid (violations : List Violation)
  deriving DecidableEq, Repr

/-- The error in words. -/
def EvaluationError.message : EvaluationError → String
  | .unknownApplication name => "unknown application: " ++ name
  | .unknownSubject name => "unknown subject: " ++ name
  | .invalid violations =>
    "validation failed with " ++ toString violations.length ++ " violation(s)"

namespace Schema

/-- The subjects of a target, in order. -/
def targetSubjects (s : Schema) : Target → Except EvaluationError (List Subject)
  | .subject name =>
    match s.subject? name with
    | some subject => .ok [subject]
    | none => .error (.unknownSubject name)
  | .application name =>
    match scopeOf? s.scopes name with
    | some scope => .ok (scope.subjects.filterMap s.subject?)
    | none => .error (.unknownApplication name)

/-- Every violation of a list of subjects. -/
def violationsOf (subjects : List Subject) (env : Environment) : List Violation :=
  subjects.flatMap (·.violations env)

/-- The values of every variable of a target, or every violation. -/
def evaluate (s : Schema) (target : Target) (env : Environment) :
    Except EvaluationError Resolved :=
  match s.targetSubjects target with
  | .error e => .error e
  | .ok subjects =>
    let violations := violationsOf subjects env
    if violations.isEmpty then .ok ⟨subjects.map (·.resolve env)⟩ else .error (.invalid violations)

end Schema

end DeclaredEnv
