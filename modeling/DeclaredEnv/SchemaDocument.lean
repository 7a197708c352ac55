import DeclaredEnv.Entry
import DeclaredEnv.Number.Layout
import DeclaredEnv.Toml.Document

/-!
# Schema documents

A schema document is a TOML table of subjects; a subject is a table of variables, and a variable a
table with the keys `type`, `description`, `default`, `required_when` and `applications`.

* `EntryFault`, `LoadError` — why a document has no list of entries.
* `entryOf` — the entry of the table of one variable.
* `entriesOf` — the entries of a document in order, or the first fault.
* `SchemaDocument.load` — the entries of a text.
-/

namespace DeclaredEnv

open Number Toml

/-- What is wrong with a subject or a variable in a document; `found` names the sort of a value. -/
inductive EntryFault where
  | notVariables (found : String)
  | notVariable (found : String)
  | unknownKey (key : String)
  | missingType
  | notString (key found : String)
  | defaultNotScalar (found : String)
  | applicationsNotArray (found : String)
  | applicationNotString (found : String)
  deriving DecidableEq, Repr

/-- The fault in words. -/
def EntryFault.message : EntryFault → String
  | .notVariables found => "expected a table of variables, got " ++ found
  | .notVariable found => "expected a variable table, got " ++ found
  | .unknownKey key => "unknown key \"" ++ key ++ "\""
  | .missingType => "missing type"
  | .notString key found => key ++ " must be a string, got " ++ found
  | .defaultNotScalar found => "default must be a scalar, got " ++ found
  | .applicationsNotArray found => "applications must be an array, got " ++ found
  | .applicationNotString found => "applications must contain strings, got " ++ found

/-- Why a text has no list of entries. -/
inductive LoadError where
  | invalidToml
  | invalidEntry (path : String) (fault : EntryFault)
  deriving DecidableEq, Repr

/-- The keys of the table of a variable. -/
def entryKeys : List String := ["type", "description", "default", "required_when", "applications"]

/--
A double as a default shows a fraction, so that it never reads as a whole number.  It is positional
for leading digits from `10 ^ (-4)` to `10 ^ 15`.
-/
def defaultFloatLayout : FloatLayout := ⟨some (-4, 15), ['.', '0'], [], .away⟩

/-- The text of a default, if it is a scalar that can be one. -/
def defaultText : Toml.Value → Except EntryFault String
  | .scalar (.string s) => .ok s
  | .scalar (.integer n) => .ok (String.ofList (integerText n))
  | .scalar (.float x) => .ok (String.ofList (defaultFloatLayout.text x))
  | .scalar (.boolean b) => .ok (if b then "true" else "false")
  | other => .error (.defaultNotScalar other.typeName)

/-- The text of a value that has to be a string. -/
def stringOf (key : String) : Toml.Value → Except EntryFault String
  | .scalar (.string s) => .ok s
  | other => .error (.notString key other.typeName)

/-- The names of applications in an array. -/
def applicationNames : List Toml.Value → Except EntryFault (List String)
  | [] => .ok []
  | .scalar (.string s) :: rest => do
    let names ← applicationNames rest
    pure (s :: names)
  | other :: _ => .error (.applicationNotString other.typeName)

/-- The applications of a variable. -/
def applicationsOf : Toml.Value → Except EntryFault (List String)
  | .array items => applicationNames items
  | other => .error (.applicationsNotArray other.typeName)

/-- What a reader of values makes of a key, if the table has it. -/
def optionalField {α : Type} (read : Toml.Value → Except EntryFault α) (fields : Table)
    (key : String) : Except EntryFault (Option α) :=
  match fields.lookup key with
  | none => .ok none
  | some v => some <$> read v

/--
The entry of the table of a variable.  A key that is not known comes first among the faults, then
`type`, `default`, `applications`, `description` and `required_when`.
-/
def entryOf (subject name : String) (fields : Table) : Except EntryFault Entry := do
  match fields.find? fun field => !entryKeys.contains field.1 with
  | some (key, _) => .error (.unknownKey key)
  | none =>
    match ← optionalField (stringOf "type") fields "type" with
    | none => .error .missingType
    | some type =>
      let default? ← optionalField defaultText fields "default"
      let applications ← optionalField applicationsOf fields "applications"
      let description ← optionalField (stringOf "description") fields "description"
      let requiredWhen ← optionalField (stringOf "required_when") fields "required_when"
      pure { subject, name, type, description := description.getD "", default?, requiredWhen,
             applications := applications.getD [] }

/-- The entries of the tables of one subject. -/
def subjectEntries (subject : String) : Table → Except LoadError (List Entry)
  | [] => .ok []
  | (name, .table fields) :: rest =>
    match entryOf subject name fields with
    | .error fault => .error (.invalidEntry (subject ++ "." ++ name) fault)
    | .ok entry => do
      let entries ← subjectEntries subject rest
      pure (entry :: entries)
  | (name, other) :: _ =>
    .error (.invalidEntry (subject ++ "." ++ name) (.notVariable other.typeName))

/-- The entries of a document, in order. -/
def entriesOf : Table → Except LoadError (List Entry)
  | [] => .ok []
  | (subject, .table members) :: rest => do
    let entries ← subjectEntries subject members
    let more ← entriesOf rest
    pure (entries ++ more)
  | (subject, other) :: _ => .error (.invalidEntry subject (.notVariables other.typeName))

/-- The entries of a text. -/
def SchemaDocument.load (text : String) : Except LoadError (List Entry) :=
  match Document.ofText? text with
  | none => .error .invalidToml
  | some table => entriesOf table

/-- The source names a document on the web. -/
def isUrl (source : String) : Bool :=
  "http://".toList.isPrefixOf source.toList || "https://".toList.isPrefixOf source.toList

end DeclaredEnv
