import DeclaredEnv.Number.Layout

/-!
# JSON values and their text

* `Json` — JSON values whose objects keep the order of their fields and whose numbers keep apart
  whole numbers and doubles.
* `Json.Spacing` — the blanks that a text has between its parts.
* `Json.chars` — the text of a value; empty arrays and objects stay on their line.
* `Json.compact` — the text without any blank.
* `Json.pretty` — the text on several lines, two more spaces of indent a level.
* `Json.same` — equality of values, doubles compared as numbers.
-/

namespace DeclaredEnv

open Number

/-- A JSON value. -/
inductive Json where
  | null
  | bool (b : Bool)
  | int (n : Int)
  | float (x : Binary64)
  | str (s : String)
  | arr (items : List Json)
  | obj (fields : List (String × Json))
  deriving Repr

namespace Json

/--
Doubles have a fraction in positional notation, which covers leading digits from `10 ^ (-5)` to
`10 ^ 15`; beyond, a positive exponent has a sign.  A tie goes to the even digit.
-/
def floatLayout : FloatLayout := ⟨some (-5, 15), ['.', '0'], ['+'], .toEven⟩

/-- A code point below 256 in four hexadecimal digits. -/
def fourHexDigits (n : Nat) : List Char :=
  ['0', '0', Nat.digitChar (n / 16 % 16), Nat.digitChar (n % 16)]

/-- One character inside quotes: quotes, backslashes and controls below the space are escaped. -/
def escapedChar (c : Char) : List Char :=
  if c = '"' then ['\\', '"']
  else if c = '\\' then ['\\', '\\']
  else if c = '\x08' then ['\\', 'b']
  else if c = '\x0c' then ['\\', 'f']
  else if c = '\n' then ['\\', 'n']
  else if c = '\r' then ['\\', 'r']
  else if c = '\t' then ['\\', 't']
  else if c.toNat < 32 then '\\' :: 'u' :: fourHexDigits c.toNat
  else [c]

/-- A text between quotes. -/
def quotedText (s : String) : List Char := '"' :: s.toList.flatMap escapedChar ++ ['"']

/-- A double; JSON has no form for infinities and undefined numbers, which become `null`. -/
def floatText (x : Binary64) : List Char :=
  if x.isFinite then floatLayout.text x else "null".toList

/-- The blanks between the parts of a text. -/
structure Spacing where
  /-- What stands before a member at a depth, and before the bracket that closes the depth above. -/
  line : (depth : Nat) → List Char
  /-- What stands between the colon of a field and its value. -/
  afterColon : List Char

/-- No blanks at all. -/
def Spacing.none : Spacing := ⟨fun _ => [], []⟩

/-- Every member on a line of its own, indented for its depth. -/
def Spacing.lines : Spacing := ⟨fun depth => '\n' :: List.replicate (2 * depth) ' ', [' ']⟩

/-- Brackets around members at the depth below `depth`. -/
def bracketed (spacing : Spacing) (depth : Nat) (opening closing : Char)
    (members : List (List Char)) : List Char :=
  if members.isEmpty then [opening, closing]
  else
    opening :: List.intercalate [','] (members.map (spacing.line (depth + 1) ++ ·)) ++
      spacing.line depth ++ [closing]

mutual

/-- The text of a value that begins at a depth. -/
def chars (spacing : Spacing) (depth : Nat) : Json → List Char
  | .null => "null".toList
  | .bool b => (if b then "true" else "false").toList
  | .int n => integerText n
  | .float x => floatText x
  | .str s => quotedText s
  | .arr items => bracketed spacing depth '[' ']' (itemChars spacing (depth + 1) items)
  | .obj fields =>
    bracketed spacing depth '\x7b' '\x7d' (fieldChars spacing (depth + 1) fields)

/-- The texts of the items of an array. -/
def itemChars (spacing : Spacing) (depth : Nat) : List Json → List (List Char)
  | [] => []
  | item :: rest => chars spacing depth item :: itemChars spacing depth rest

/-- The texts of the fields of an object. -/
def fieldChars (spacing : Spacing) (depth : Nat) : List (String × Json) → List (List Char)
  | [] => []
  | (key, value) :: rest =>
    (quotedText key ++ ':' :: spacing.afterColon ++ chars spacing depth value) ::
      fieldChars spacing depth rest

end

/-- The text without blanks. -/
def compact (j : Json) : String := String.ofList (j.chars .none 0)

/-- The text on several lines. -/
def pretty (j : Json) : String := String.ofList (j.chars .lines 0)

mutual

/-- Equality of values: doubles as numbers, objects with the order of their fields. -/
def same : Json → Json → Bool
  | .null, .null => true
  | .bool a, .bool b => a == b
  | .int m, .int n => m == n
  | .float x, .float y => x.sameNumber y
  | .str s, .str t => s == t
  | .arr xs, .arr ys => sameItems xs ys
  | .obj xs, .obj ys => sameFields xs ys
  | _, _ => false

/-- Equality of the items of two arrays. -/
def sameItems : List Json → List Json → Bool
  | [], [] => true
  | x :: xs, y :: ys => same x y && sameItems xs ys
  | _, _ => false

/-- Equality of the fields of two objects. -/
def sameFields : List (String × Json) → List (String × Json) → Bool
  | [], [] => true
  | (k, x) :: xs, (l, y) :: ys => k == l && same x y && sameFields xs ys
  | _, _ => false

end

end Json

end DeclaredEnv
