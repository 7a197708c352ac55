import DeclaredEnv.Json
import DeclaredEnv.Toml.Text

/-!
# Reading JSON text

* `Json.readChar?` — a character between quotes, alone or as an escape.
* `Json.numberOf?` — the number that a text is: no needless zero in front, and a digit on either
  side of a point.
* `Json.readMembers?` — what stands between two brackets, with commas in between.
* `Json.readValue?` — a value at the front of a text.
* `Json.ofText?` — the value of a text that holds one value and nothing else.

Each reader gives what it has read and what is left of the text.  Brackets can be nested no deeper
than the text is long, so the length of the text bounds the recursion.
-/

namespace DeclaredEnv.Json

open Number Toml

/-- A blank between the parts of a text. -/
def isSpace (c : Char) : Bool := [' ', '\n', '\r', '\t'].contains c

/-- The text without the blanks at its front. -/
def skipSpace (s : List Char) : List Char := s.dropWhile isSpace

/-! ## Texts -/

/-- A number of four hexadecimal digits. -/
def readUnit? : List Char → Option (Nat × List Char)
  | a :: b :: c :: d :: rest =>
    if [a, b, c, d].all isHexDigit then some (numberInBase 16 [a, b, c, d], rest) else none
  | _ => none

/-- The character of one number, or of two that are a pair of surrogates. -/
def readUnits? (s : List Char) : Option (Char × List Char) := do
  let (unit, rest) ← readUnit? s
  match charAt? unit, rest with
  | some c, _ => pure (c, rest)
  | none, '\\' :: 'u' :: rest =>
    let (low, rest) ← readUnit? rest
    if unit < 0xdc00 ∧ 0xdc00 ≤ low ∧ low < 0xe000 then
      let c ← charAt? (0x10000 + (unit - 0xd800) * 0x400 + (low - 0xdc00))
      pure (c, rest)
    else none
  | none, _ => none

/-- What a backslash and the characters behind it stand for. -/
def readEscape? : List Char → Option (Char × List Char)
  | '"' :: rest => some ('"', rest)
  | '\\' :: rest => some ('\\', rest)
  | '/' :: rest => some ('/', rest)
  | 'b' :: rest => some ('\x08', rest)
  | 'f' :: rest => some ('\x0c', rest)
  | 'n' :: rest => some ('\n', rest)
  | 'r' :: rest => some ('\r', rest)
  | 't' :: rest => some ('\t', rest)
  | 'u' :: rest => readUnits? rest
  | _ => none

/-- A character between quotes; controls below the space are not allowed there. -/
def readChar? : List Char → Option (Char × List Char)
  | [] => none
  | c :: rest =>
    if c = '\\' then readEscape? rest
    else if c = '"' ∨ c.toNat < 32 then none
    else some (c, rest)

/-- Characters up to the closing quotes; `budget` bounds their number. -/
def readChars? : (budget : Nat) → List Char → Option (List Char × List Char)
  | _, '"' :: rest => some ([], rest)
  | 0, _ => none
  | budget + 1, s => do
    let (c, rest) ← readChar? s
    let (cs, rest) ← readChars? budget rest
    pure (c :: cs, rest)

/-- A text whose opening quotes have been taken off. -/
def readString? (s : List Char) : Option (String × List Char) := do
  let (cs, rest) ← readChars? s.length s
  pure (String.ofList cs, rest)

/-! ## Numbers -/

/-- A character of which numbers consist. -/
def isNumberPart (c : Char) : Bool := c.isDigit || ['-', '+', '.', 'e', 'E'].contains c

/-- Digits without a needless zero in front. -/
def isWhole (s : List Char) : Bool := s == ['0'] || isDigits s && s.head? != some '0'

/-- The mark of an exponent and the exponent, or nothing. -/
def isExponent : List Char → Bool
  | [] => true
  | mark :: s => (mark == 'e' || mark == 'E') && (readExponent? s).isSome

/-- A fraction and an exponent, or one of them, or nothing. -/
def isTail : List Char → Bool
  | '.' :: s => !(s.takeWhile Char.isDigit).isEmpty && isExponent (s.dropWhile Char.isDigit)
  | s => isExponent s

/-- The number of a text without sign, if it has the form of one; `s` is the text with its sign. -/
def unsignedOf? (negative : Bool) (s unsigned : List Char) : Option Json :=
  let whole := unsigned.takeWhile Char.isDigit
  let tail := unsigned.dropWhile Char.isDigit
  if isWhole whole ∧ isTail tail then
    if tail.isEmpty then
      some (.int (if negative then -(digitsValue whole : Int) else digitsValue whole))
    else ((readFloat? s).filter (·.isFinite)).map .float
  else none

/-- The number that a text is: a whole number, or the nearest double if there is one. -/
def numberOf? : List Char → Option Json
  | '-' :: unsigned => unsignedOf? true ('-' :: unsigned) unsigned
  | unsigned => unsignedOf? false unsigned unsigned

/-- A number, which ends where no character of one follows. -/
def readNumber? (s : List Char) : Option (Json × List Char) :=
  (numberOf? (s.takeWhile isNumberPart)).map (·, s.dropWhile isNumberPart)

/-! ## Values -/

section Members

variable {α : Type} (read : List Char → Option (α × List Char)) (closing : Char)

/-- Members up to the closing bracket, one at least; `budget` bounds their number. -/
def readRest? : (budget : Nat) → List Char → Option (List α × List Char)
  | 0, _ => none
  | budget + 1, s => do
    let (a, rest) ← read (skipSpace s)
    match skipSpace rest with
    | [] => none
    | c :: rest =>
      if c = closing then pure ([a], rest)
      else if c = ',' then
        let (as, rest) ← readRest? budget rest
        pure (a :: as, rest)
      else none

/-- Members up to the closing bracket. -/
def readMembers? (s : List Char) : Option (List α × List Char) :=
  match skipSpace s with
  | [] => none
  | c :: rest => if c = closing then some ([], rest) else readRest? read closing s.length s

/-- A name between quotes, a colon and what `read` reads. -/
def readField? : List Char → Option ((String × α) × List Char)
  | '"' :: rest => do
    let (name, rest) ← readString? rest
    match skipSpace rest with
    | ':' :: rest =>
      let (a, rest) ← read (skipSpace rest)
      pure ((name, a), rest)
    | _ => none
  | _ => none

end Members

/-- A value in which brackets are nested less than `depth` deep. -/
def readValue? : (depth : Nat) → List Char → Option (Json × List Char)
  | 0, _ => none
  | depth + 1, s =>
    match s with
    | 'n' :: 'u' :: 'l' :: 'l' :: rest => some (.null, rest)
    | 't' :: 'r' :: 'u' :: 'e' :: rest => some (.bool true, rest)
    | 'f' :: 'a' :: 'l' :: 's' :: 'e' :: rest => some (.bool false, rest)
    | '"' :: rest => (readString? rest).map fun (s, rest) => (.str s, rest)
    | '[' :: rest =>
      (readMembers? (readValue? depth) ']' rest).map fun (items, rest) => (.arr items, rest)
    | '\x7b' :: rest =>
      (readMembers? (readField? (readValue? depth)) '\x7d' rest).map fun (fields, rest) =>
        (.obj fields, rest)
    | s => readNumber? s

/-- The value of a text that holds one value and, but for blanks, nothing else. -/
def ofText? (text : String) : Option Json :=
  let s := skipSpace text.toList
  match readValue? s.length s with
  | some (value, rest) => if (skipSpace rest).isEmpty then some value else none
  | none => none

end DeclaredEnv.Json
