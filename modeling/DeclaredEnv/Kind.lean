/-!
# Kinds of variables

* `Base` — what a value can be: a text, a whole number, a double or a truth value.
* `Kind` — a base kind that may or may not admit the absence of a value.
* `Kind.token`, `Kind.ofToken?` — the eight written forms.

Principal results: `ofToken?_token`, `token_of_ofToken?` — the tokens and the kinds correspond.
-/

namespace DeclaredEnv

/-- What a present value is. -/
inductive Base where
  | str
  | int
  | float
  | bool
  deriving DecidableEq, Repr

/-- What a variable holds: a value of the base kind or, if `optional`, none. -/
structure Kind where
  base : Base
  optional : Bool
  deriving DecidableEq, Repr

/-- The written form of a base kind. -/
def Base.token : Base → String
  | .str => "str"
  | .int => "int"
  | .float => "float"
  | .bool => "bool"

namespace Kind

/-- The written form of a kind. -/
def token (k : Kind) : String :=
  if k.optional then "Optional[" ++ k.base.token ++ "]" else k.base.token

/-- Every kind, those that require a value first. -/
def all : List Kind :=
  [⟨.str, false⟩, ⟨.int, false⟩, ⟨.float, false⟩, ⟨.bool, false⟩,
   ⟨.str, true⟩, ⟨.int, true⟩, ⟨.float, true⟩, ⟨.bool, true⟩]

/-- The kind that a token writes. -/
def ofToken? (token : String) : Option Kind := all.find? (·.token == token)

theorem ofToken?_token (k : Kind) : ofToken? k.token = some k := by
  obtain ⟨b, o⟩ := k
  cases b <;> cases o <;> decide

theorem token_of_ofToken? {t : String} {k : Kind} (h : ofToken? t = some k) : k.token = t := by
  simpa using List.find?_some h

end Kind

end DeclaredEnv
