import DeclaredEnv.Group
import DeclaredEnv.Scope

/-!
# Schemas

* `Schema` — the subjects of a document whose entries have no fault.
* `Schema.build` — the schema of a list of entries, or every fault of it: first the repeated
  declarations, then the faults of each subject.
* `Schema.same` — equality of schemas, doubles compared as numbers.
-/

namespace DeclaredEnv

/-- The subjects of a document, in the order of their first entries. -/
structure Schema where
  subjects : List Subject
  deriving DecidableEq, Repr

/-- The subject of a group. -/
def Group.toSubject (g : Group) (groups : List Group) : Subject := ⟨g.subject, g.vars groups⟩

namespace Grouping

/-- Every fault of the entries. -/
def faults (a : Grouping) : List Fault :=
  a.repeated.map (fun e => .declaredTwice e.subject e.name) ++
    a.groups.flatMap (·.faults a.groups)

/-- The subjects of the groups; an entry without a kind is left out. -/
def subjects (a : Grouping) : List Subject := a.groups.map (·.toSubject a.groups)

end Grouping

namespace Schema

/-- The schema of a list of entries, or what is wrong with them. -/
def build (entries : List Entry) : Except (List Fault) Schema :=
  let grouping := Grouping.ofEntries entries
  if grouping.faults.isEmpty then .ok ⟨grouping.subjects⟩ else .error grouping.faults

/-- The subject of a name. -/
def subject? (s : Schema) (name : String) : Option Subject := s.subjects.find? (·.name == name)

/-- The applications with the subjects they need. -/
def scopes (s : Schema) : List Scope := scopesOf s.subjects

/-- The number of variables. -/
def variableCount (s : Schema) : Nat := s.subjects.foldl (fun n t => n + t.vars.length) 0

end Schema

/-- Lists agree element by element. -/
def sameBy {α : Type} (same : α → α → Bool) : List α → List α → Bool
  | [], [] => true
  | x :: xs, y :: ys => same x y && sameBy same xs ys
  | _, _ => false

/-- Equality of subjects, doubles compared as numbers. -/
def Subject.same (s t : Subject) : Bool :=
  s.name == t.name && sameBy Variable.same s.vars t.vars

/-- Equality of schemas, doubles compared as numbers. -/
def Schema.same (s t : Schema) : Bool := sameBy Subject.same s.subjects t.subjects

end DeclaredEnv
