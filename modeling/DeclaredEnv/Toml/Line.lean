import DeclaredEnv.Toml.Scalar
import DeclaredEnv.Toml.Statement

/-!
# The lines of a document

* `keyPath` — a dotted key of at most 79 parts.
* `term` — a value with at most a given depth of arrays and inline tables.
* `line` — a blank line, a comment, a header or an assignment.
* `statements?` — what a whole text says, if every line can be read.
-/

namespace DeclaredEnv.Toml

open Reader

/-- The greatest depth of arrays and inline tables, and the greatest number of parts of a key. -/
def nestingLimit : Nat := 79

/-- A character of a key without quotes. -/
def isBareKeyChar (c : Char) : Bool := c.isAlphanum || c == '-' || c == '_'

/-- A key without dots. -/
def simpleKey : Reader String :=
  basicString <|> literalString <|> do
    let first ← one isBareKeyChar
    let rest ← takeWhile isBareKeyChar
    pure (String.ofList (first :: rest))

/-- A dotted key. -/
def keyPath : Reader KeyPath := do
  let parts ← separated (do blanks; let key ← simpleKey; blanks; pure key) (char '.')
  match parts.getLast? with
  | some last =>
    if parts.length ≤ nestingLimit then pure ⟨parts.dropLast, last⟩ else failure
  | none => failure

/-- An assignment of a value that `value` reads. -/
def assignment (value : Reader Term) : Reader (KeyPath × Term) := do
  let path ← keyPath
  char '='
  blanks
  let v ← value
  pure (path, v)

/-- The items of an array that `item` reads: over several lines, with a comma after the last or
not. -/
def arrayOf (item : Reader Term) : Reader (List Term) := do
  char '['
  let items ← optional do
    let items ← separated (do spread; let v ← item; spread; pure v) (char ',')
    let _ ← optional (char ',')
    pure items
  spread
  char ']'
  pure (items.getD [])

/-- The assignments of an inline table, which stands on one line. -/
def inlineTable (value : Reader Term) : Reader (List (KeyPath × Term)) := do
  char '\x7b'
  let fields ← optional (separated (do
    let field ← assignment value
    blanks
    pure field) (char ','))
  blanks
  char '\x7d'
  pure (fields.getD [])

/-- A value with at most `depth` arrays and inline tables inside each other. -/
def term : (depth : Nat) → Reader Term
  | 0 => .scalar <$> scalar
  | depth + 1 =>
    (.scalar <$> scalar)
    <|> (.array <$> arrayOf (term depth))
    <|> (.inline <$> inlineTable (term depth))

/-- The header of a table, or of an element of an array of tables. -/
def header : Reader Statement :=
  (do
    word ['[', '[']
    let path ← keyPath
    word [']', ']']
    pure (.element path))
  <|> do
    char '['
    let path ← keyPath
    char ']'
    pure (.table path)

/-- What one line says; blank lines and comments say nothing. -/
def line : Reader (Option Statement) := do
  blanks
  (do newline; pure none)
    <|> (do comment; newline <|> atEnd; pure none)
    <|> (do let h ← header; lineEnd; pure (some h))
    <|> do
      let (path, value) ← assignment (term nestingLimit)
      lineEnd
      pure (some (.assign path value))

/-- What a text says, from its first character on. -/
def document : Reader (List Statement) := do
  let _ ← optional (char '\uFEFF')
  let lines ← many line
  blanks
  atEnd
  pure (lines.filterMap id)

/-- What a text says, if every line can be read. -/
def statements? (text : String) : Option (List Statement) :=
  (document.run text.toList).map (·.1)

end DeclaredEnv.Toml
