import DeclaredEnv.Variable

/-!
# Subjects and the applications that need them

* `Subject` — a named list of variables.
* `Scope` — an application with the subjects it needs.
* `scopesOf` — the scopes of a list of subjects.  Subjects, variables and applications are walked in
  order; an application, and a subject in its scope, stands where it is first met.
-/

namespace DeclaredEnv

/-- A named list of variables. -/
structure Subject where
  name : String
  vars : List Variable
  deriving DecidableEq, Repr

/-- The variable of a name. -/
def Subject.find? (s : Subject) (name : String) : Option Variable :=
  s.vars.find? (·.name == name)

/-- An application with the subjects it needs. -/
structure Scope where
  application : String
  subjects : List String
  deriving DecidableEq, Repr

/-- Note that an application needs a subject. -/
def Scope.note (application subject : String) : List Scope → List Scope
  | [] => [⟨application, [subject]⟩]
  | s :: rest =>
    if s.application = application then
      (if s.subjects.contains subject then s else { s with subjects := s.subjects ++ [subject] }) ::
        rest
    else s :: note application subject rest

/-- Note everything that the variables of a subject say. -/
def Scope.noteSubject (scopes : List Scope) (s : Subject) : List Scope :=
  s.vars.foldl
    (fun scopes v => v.applications.foldl (fun scopes a => note a s.name scopes) scopes) scopes

/-- The scopes of a list of subjects. -/
def scopesOf (subjects : List Subject) : List Scope := subjects.foldl Scope.noteSubject []

/-- The scope of an application. -/
def scopeOf? (scopes : List Scope) (application : String) : Option Scope :=
  scopes.find? (·.application == application)

/-- A scope in JSON. -/
def Scope.toJson (s : Scope) : Json :=
  .obj [("application", .str s.application), ("subjects", .arr (s.subjects.map .str))]

/-- Scopes in JSON. -/
def scopesJson (scopes : List Scope) : Json := .arr (scopes.map Scope.toJson)

end DeclaredEnv
