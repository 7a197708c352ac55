import DeclaredEnv.Naming
import DeclaredEnv.Schema

/-!
# Manifests

* `Schema.manifest` — a schema in JSON for code generators: every subject with its variables, and
  every application with its subjects.
-/

namespace DeclaredEnv

/-- An optional value in JSON, `null` if there is none. -/
def optionalJson {α : Type} (toJson : α → Json) : Option α → Json
  | some a => toJson a
  | none => .null

/-- A variable in the manifest. -/
def Variable.manifest (v : Variable) : Json :=
  .obj [("name", .str v.name),
    ("field", .str (fieldName v.name)),
    ("type", .str v.kind.base.token),
    ("nullable", .bool v.kind.optional),
    ("required", .str v.requirement.word),
    ("default", optionalJson Value.toJson v.default?),
    ("description", .str v.description),
    ("required_when", optionalJson Condition.toJson v.condition),
    ("applications", .arr (v.applications.map .str))]

/-- A subject in the manifest. -/
def Subject.manifest (s : Subject) : Json :=
  .obj [("name", .str s.name),
    ("class_name", .str (className s.name)),
    ("property_name", .str (propertyName s.name)),
    ("variables", .arr (s.vars.map Variable.manifest))]

/-- An application in the manifest. -/
def Scope.manifest (s : Scope) : Json :=
  .obj [("name", .str s.application),
    ("class_name", .str (className s.application)),
    ("subjects", .arr (s.subjects.map .str))]

/-- The manifest of a schema. -/
def Schema.manifest (s : Schema) : Json :=
  .obj [("subjects", .arr (s.subjects.map Subject.manifest)),
    ("applications", .arr (s.scopes.map Scope.manifest))]

end DeclaredEnv
