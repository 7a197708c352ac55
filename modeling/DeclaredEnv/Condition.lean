import DeclaredEnv.Value

/-!
# Conditions on another variable

* `Comparison` — the text `VARIABLE=LITERAL` in its two parts.
* `Condition` — a comparison that has been tied to the kind of the variable it names.
* `Comparison.ofText?` — reading a comparison, blanks around either part being ignored.
* `Comparison.bind` — tying a comparison to a kind: only a text or truth value that is always
  present can be compared.
* `Condition.holdsFor` — the condition holds for the value of the other variable.
-/

namespace DeclaredEnv

open Text

/-- What a condition compares with. -/
inductive Literal where
  | bool (b : Bool)
  | str (s : String)
  deriving DecidableEq, Repr

/-- The other variable of the subject has this value. -/
structure Condition where
  reference : String
  expected : Literal
  deriving DecidableEq, Repr

/-- The text `VARIABLE=LITERAL` in its two parts. -/
structure Comparison where
  reference : String
  literal : String
  deriving DecidableEq, Repr

/-- An ASCII letter or `_`, then ASCII letters, digits and `_`. -/
def isIdentifier : List Char → Bool
  | [] => false
  | c :: rest => (c.isAlpha || c == '_') && rest.all fun d => d.isAlphanum || d == '_'

/-- A character that a literal cannot have: blanks, and what would join several comparisons. -/
def isBarred (c : Char) : Bool :=
  c == '=' || c == '&' || c == '|' || c == ',' || isBlank c

/-- A literal has at least one character and none that is barred. -/
def isLiteral (s : List Char) : Bool := !s.isEmpty && s.all fun c => !isBarred c

/-- The comparison that a text writes; the first `=` parts it. -/
def Comparison.ofText? (text : String) : Option Comparison :=
  match text.toList.dropWhile (· != '=') with
  | [] => none
  | _ :: right =>
    let reference := trim (text.toList.takeWhile (· != '='))
    let literal := trim right
    if isIdentifier reference && isLiteral literal then
      some ⟨String.ofList reference, String.ofList literal⟩
    else none

/-- Why a variable cannot be compared with a literal. -/
inductive NotComparable where
  | mayBeUnset (kind : Kind)
  | notBoolean (literal : String)
  | wrongBase (base : Base)
  deriving DecidableEq, Repr

/-- The reason in words. -/
def NotComparable.message : NotComparable → String
  | .mayBeUnset kind => kind.token ++ " variable without a default may be unset"
  | .notBoolean literal => "expected true or false for a bool variable, got \"" ++ literal ++ "\""
  | .wrongBase base => "only bool and str variables can be compared, found " ++ base.token

/-- The literal of a truth value, in ASCII letters of either case. -/
def booleanLiteral? (literal : String) : Option Bool :=
  let word := String.ofList (asciiLowercase literal.toList)
  if word = "true" then some true else if word = "false" then some false else none

/-- The condition of a comparison with a variable of this kind, which may have a default. -/
def Comparison.bind (c : Comparison) (kind : Kind) (hasDefault : Bool) :
    Except NotComparable Condition :=
  if kind.optional && !hasDefault then .error (.mayBeUnset kind)
  else
    match kind.base with
    | .bool =>
      match booleanLiteral? c.literal with
      | some b => .ok ⟨c.reference, .bool b⟩
      | none => .error (.notBoolean c.literal)
    | .str => .ok ⟨c.reference, .str c.literal⟩
    | base => .error (.wrongBase base)

namespace Literal

/-- The literal as a value. -/
def toValue : Literal → Value
  | .bool b => .bool b
  | .str s => .str s

end Literal

namespace Condition

/-- The condition as a comparison. -/
def text (c : Condition) : String := c.reference ++ "=" ++ c.expected.toValue.text

/-- The condition in JSON. -/
def toJson (c : Condition) : Json :=
  .obj [("referenced_variable", .str c.reference), ("operator", .str "equals"),
    ("expected", c.expected.toValue.toJson)]

/-- The condition holds for a value of the other variable. -/
def holdsFor (c : Condition) (v : Value) : Bool := v == c.expected.toValue

end Condition

end DeclaredEnv
