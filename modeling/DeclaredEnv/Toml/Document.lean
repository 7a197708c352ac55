import DeclaredEnv.Toml.Line
import DeclaredEnv.Toml.Moment

/-!
# The table that a document describes

* `Node` — a part of a document under construction.  A table knows whether a header named it, a
  longer header implied it, or a dotted key made it; this decides what may still be added to it.
* `assignIn` — add a value under a dotted key, which may pass through tables that such keys made.
* `Fields.within` — change the table that a header's path leads to.
* `openTable` — open the table of a header.  A table that a longer header implied moves behind the
  other keys of its parent.
* `Term.toValue?` — a value as written, if no inline table assigns a key twice.
* `Document.ofStatements?`, `Document.ofText?` — the whole table.  A key stands where it first
  appears, or where its table was opened.
-/

namespace DeclaredEnv.Toml

/-- How a table under construction came to be. -/
inductive Origin where
  | header
  | implied
  | dotted
  deriving DecidableEq, Repr

/-- A part of a document under construction. -/
inductive Node where
  /-- A value, to which nothing can be added. -/
  | value (v : Value)
  | table (origin : Origin) (fields : List (String × Node))
  /-- An array of tables; only the last one can be added to. -/
  | tables (elements : List (List (String × Node)))
  deriving Repr

/-- The keys of a table under construction, in order. -/
abbrev Fields := List (String × Node)

namespace Fields

/-- Give a key its node: in its place if the key is there, at the end if it is new. -/
def put (key : String) (node : Node) : Fields → Fields
  | [] => [(key, node)]
  | (k, n) :: rest => if k = key then (k, node) :: rest else (k, n) :: put key node rest

/-- The fields without a key. -/
def remove (key : String) (fields : Fields) : Fields := fields.filter (·.1 != key)

/-- Change the last of some tables. -/
def inLast (f : Fields → Option Fields) : List Fields → Option (List Fields)
  | [] => none
  | [last] => (f last).map ([·])
  | first :: rest => (inLast f rest).map (first :: ·)

/--
Change the table that a path leads to.  Tables on the way that are not there yet are implied, and an
array of tables stands for its last one.
-/
def within (f : Fields → Option Fields) : (path : List String) → Fields → Option Fields
  | [], fields => f fields
  | key :: path, fields =>
    match fields.lookup key with
    | none => (within f path []).map fun inner => fields.put key (.table .implied inner)
    | some (.table origin inner) =>
      (within f path inner).map fun inner => fields.put key (.table origin inner)
    | some (.tables elements) =>
      (inLast (within f path) elements).map fun elements => fields.put key (.tables elements)
    | some (.value _) => none

end Fields

/--
Add a value under a key after passing through the tables `parents`.  These must come from dotted
keys or be new; a table that a header implied may be passed through, but not added to.
-/
def assignIn (last : String) (v : Value) : (parents : List String) → Fields → Option Fields
  | [], fields =>
    match fields.lookup last with
    | some _ => none
    | none => some (fields.put last (.value v))
  | key :: parents, fields =>
    match fields.lookup key with
    | none => (assignIn last v parents []).map fun inner => fields.put key (.table .dotted inner)
    | some (.table .dotted inner) =>
      (assignIn last v parents inner).map fun inner => fields.put key (.table .dotted inner)
    | some (.table .implied inner) =>
      if parents.isEmpty then none
      else
        (assignIn last v parents inner).map fun inner => fields.put key (.table .implied inner)
    | some (.tables elements) =>
      if parents.isEmpty then none
      else
        (Fields.inLast (assignIn last v parents) elements).map fun elements =>
          fields.put key (.tables elements)
    | some (.table .header _) => none
    | some (.value _) => none

/--
Open the table of a header, which no header and no dotted key has opened before.  The table becomes
the last of its parent; what longer headers have put into it stays in it.
-/
def openTable (key : String) (fields : Fields) : Option Fields :=
  match fields.lookup key with
  | none => some (fields ++ [(key, .table .header [])])
  | some (.table .implied inner) => some (fields.remove key ++ [(key, .table .header inner)])
  | some _ => none

/-- Begin a new element of an array of tables. -/
def openElement (key : String) (fields : Fields) : Option Fields :=
  match fields.lookup key with
  | none => some (fields.put key (.tables [[]]))
  | some (.tables elements) => some (fields.put key (.tables (elements ++ [[]])))
  | some _ => none

mutual

/-- The value that a finished node holds. -/
def Node.toValue : Node → Value
  | .value v => v
  | .table _ fields => .table (fieldsToTable fields)
  | .tables elements => .array (elementsToValues elements)

/-- The table that finished fields hold. -/
def fieldsToTable : List (String × Node) → Table
  | [] => []
  | (key, node) :: rest => (key, node.toValue) :: fieldsToTable rest

/-- The tables that finished elements hold. -/
def elementsToValues : List (List (String × Node)) → List Value
  | [] => []
  | fields :: rest => .table (fieldsToTable fields) :: elementsToValues rest

end

/-- Make assignments in order, beginning with an empty table. -/
def assignAll (assignments : List (KeyPath × Value)) : Option Fields :=
  assignments.foldlM (fun fields a => assignIn a.1.last a.2 a.1.parents fields) []

mutual

/-- The value of a term. -/
def Term.toValue? : Term → Option Value
  | .scalar s => some (.scalar s)
  | .array items => (termsToValues? items).map .array
  | .inline fields => do
    let assignments ← fieldsToAssignments? fields
    let fields ← assignAll assignments
    pure (.table (fieldsToTable fields))

/-- The values of the items of an array. -/
def termsToValues? : List Term → Option (List Value)
  | [] => some []
  | t :: rest => do
    let v ← t.toValue?
    let vs ← termsToValues? rest
    pure (v :: vs)

/-- The assignments of an inline table with their values. -/
def fieldsToAssignments? : List (KeyPath × Term) → Option (List (KeyPath × Value))
  | [] => some []
  | (path, t) :: rest => do
    let v ← t.toValue?
    let more ← fieldsToAssignments? rest
    pure ((path, v) :: more)

end

namespace Document

/-- A document under construction: its root table, and the path of the table that is open. -/
structure State where
  root : Fields
  opened : List String
  deriving Repr

/-- Take up one statement. -/
def step (s : State) : Statement → Option State
  | .table path => do
    let root ← s.root.within (openTable path.last) path.parents
    pure ⟨root, path.parts⟩
  | .element path => do
    let root ← s.root.within (openElement path.last) path.parents
    pure ⟨root, path.parts⟩
  | .assign path t => do
    let v ← t.toValue?
    let root ← s.root.within (assignIn path.last v path.parents) s.opened
    pure { s with root }

/-- The table that statements describe, if they agree with each other. -/
def ofStatements? (statements : List Statement) : Option Table :=
  (statements.foldlM step ⟨[], []⟩).map fun s => fieldsToTable s.root

/-- The table that a text describes. -/
def ofText? (text : String) : Option Table := do
  let statements ← statements? text
  let table ← ofStatements? statements
  fieldsWithMoments? table

end Document

end DeclaredEnv.Toml
