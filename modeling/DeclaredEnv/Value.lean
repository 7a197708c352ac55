import DeclaredEnv.Json
import DeclaredEnv.Kind
import DeclaredEnv.Text.Blank
import DeclaredEnv.Text.LetterCase

/-!
# Values and their reading

* `Value` — a resolved value: of one of the base kinds, or none at all.
* `Kind.read?` — the value that a raw text gives for a kind.  A text is taken as it is; the other
  kinds ignore blanks at both ends.  A double must be finite.
* `Value.text`, `Value.toJson` — how a value is written.
-/

namespace DeclaredEnv

open Number Text

/-- A resolved value. -/
inductive Value where
  | null
  | str (s : String)
  | int (n : Int)
  | float (x : Binary64)
  | bool (b : Bool)
  deriving DecidableEq, Repr

namespace Value

/-- Doubles are written positionally whatever their size, and a whole one without a fraction. -/
def floatLayout : FloatLayout := ⟨none, [], [], .away⟩

/-- The text of a double by itself. -/
def floatText (x : Binary64) : String := String.ofList (floatLayout.text x)

/-- The text of a value by itself. -/
def text : Value → String
  | .null => "null"
  | .str s => s
  | .int n => String.ofList (integerText n)
  | .float x => floatText x
  | .bool b => if b then "true" else "false"

/-- The value in JSON; a double that is not finite has none. -/
def toJson : Value → Json
  | .null => .null
  | .str s => .str s
  | .int n => .int n
  | .float x => if x.isFinite then .float x else .null
  | .bool b => .bool b

/-- There is no value. -/
def isNull : Value → Bool
  | .null => true
  | _ => false

/-- The text, if the value is one. -/
def asText? : Value → Option String
  | .str s => some s
  | _ => none

/-- The whole number, if the value is one. -/
def asInt? : Value → Option Int
  | .int n => some n
  | _ => none

/-- The number as a double, if the value is a double or a whole number. -/
def asFloat? : Value → Option Binary64
  | .float x => some x
  | .int n => some (.ofInt n)
  | _ => none

/-- The truth value, if the value is one. -/
def asBool? : Value → Option Bool
  | .bool b => some b
  | _ => none

/-- Equality of values, doubles compared as numbers. -/
def same : Value → Value → Bool
  | .float x, .float y => x.sameNumber y
  | v, w => v == w

/-- The base kind of a value, if there is one. -/
def base? : Value → Option Base
  | .null => none
  | .str _ => some .str
  | .int _ => some .int
  | .float _ => some .float
  | .bool _ => some .bool

end Value

/-- The words for true. -/
def trueWords : List String := ["true", "1", "yes", "on"]

/-- The words for false. -/
def falseWords : List String := ["false", "0", "no", "off"]

/-- A truth value from one of its words, in ASCII letters of either case. -/
def readBool? (s : List Char) : Option Bool :=
  let word := String.ofList (asciiLowercase s)
  if trueWords.contains word then some true
  else if falseWords.contains word then some false
  else none

/-- The value that a raw text gives for a base kind. -/
def Base.read? (b : Base) (raw : String) : Option Value :=
  match b with
  | .str => some (.str raw)
  | .int => (readInteger? (trim raw.toList)).map .int
  | .float => ((readFloat? (trim raw.toList)).filter Binary64.isFinite).map .float
  | .bool => (readBool? (trim raw.toList)).map .bool

/-- The value that a raw text gives for a kind.  No text stands for the absence of a value. -/
def Kind.read? (k : Kind) (raw : String) : Option Value := k.base.read? raw

/-- A value that was read is one of its base kind. -/
theorem Base.base?_of_read? {b : Base} {raw : String} {v : Value} (h : b.read? raw = some v) :
    v.base? = some b := by
  cases b <;> simp only [Base.read?, Option.map_eq_some_iff, Option.some.injEq] at h
  · subst h; rfl
  all_goals obtain ⟨_, _, rfl⟩ := h; rfl

end DeclaredEnv
