import DeclaredEnv.Number.Decimal
import DeclaredEnv.Toml.Text
import DeclaredEnv.Toml.Value

/-!
# Numbers, dates and truth values of a document

* `integer` — a 64-bit number in decimal digits, or in another base after `0x`, `0o` or `0b`.
* `float` — a double, with a fraction or an exponent, or one of the words `inf` and `nan`.  A
  literal beyond the largest double is refused if it is positive.
* `datetime` — a date, a time of day, or both with or without an offset.
* `scalar` — any value without parts.
-/

namespace DeclaredEnv.Toml

open Number Reader

/-- Digits of a class, with single underscores between them left out. -/
def digitRun (p : Char → Bool) : Reader (List Char) := do
  let first ← one p
  let rest ← many do
    let _ ← optional (char '_')
    one p
  pure (first :: rest)

/-- An optional sign as it is written. -/
def sign : Reader (List Char) := do
  match ← optional (one fun c => c == '+' || c == '-') with
  | some c => pure [c]
  | none => pure []

/-- A whole number in decimal digits; no digit follows a leading zero. -/
def wholeText : Reader (List Char) := do
  let mark ← sign
  let digits ← (do char '0'; pure ['0']) <|> digitRun Char.isDigit
  pure (mark ++ digits)

/-- A number in a base after its mark. -/
def inBase (mark : Char) (base : Nat) (p : Char → Bool) : Reader Int := do
  word ['0', mark]
  let digits ← digitRun p
  let n : Int := numberInBase base digits
  given (if InRange n then some n else none)

/-- A whole number. -/
def integer : Reader Int :=
  inBase 'x' 16 isHexDigit
  <|> inBase 'o' 8 (fun c => decide ('0' ≤ c) && decide (c ≤ '7'))
  <|> inBase 'b' 2 (fun c => c == '0' || c == '1')
  <|> do
    let text ← wholeText
    given (readInteger? text)

/-- The exponent of a double, with its mark. -/
def exponentText : Reader (List Char) := do
  let _ ← one fun c => c == 'e' || c == 'E'
  let mark ← sign
  let digits ← digitRun Char.isDigit
  pure ('e' :: mark ++ digits)

/-- The fraction of a double, with its point. -/
def fractionText : Reader (List Char) := do
  char '.'
  let digits ← digitRun Char.isDigit
  pure ('.' :: digits)

/-- The words for infinite and undefined doubles. -/
def specialFloat : Reader Binary64 := do
  let mark ← sign
  (do word ['i', 'n', 'f']; pure (.infinite (mark == ['-'])))
    <|> (do word ['n', 'a', 'n']; pure .nan)

/-- A double. -/
def float : Reader Binary64 :=
  (do
    let whole ← wholeText
    let rest ← exponentText <|> (do
      let fraction ← fractionText
      let exponent ← optional exponentText
      pure (fraction ++ exponent.getD []))
    match readFloat? (whole ++ rest) with
    | some (.infinite false) => failure
    | some x => pure x
    | none => failure)
  <|> specialFloat

/-- A number of exactly `count` digits between two bounds. -/
def numberBetween (count low high : Nat) : Reader Nat := do
  let digits ← exactly Char.isDigit count
  let n := digitsValue digits
  if low ≤ n ∧ n ≤ high then pure n else failure

/-- The number of days of a month. -/
def daysIn (year month : Nat) : Nat :=
  if month = 2 then
    if year % 4 = 0 ∧ (year % 100 ≠ 0 ∨ year % 400 = 0) then 29 else 28
  else if month = 4 ∨ month = 6 ∨ month = 9 ∨ month = 11 then 30
  else 31

/-- A date of the calendar. -/
def date : Reader Unit := do
  let year ← numberBetween 4 0 9999
  char '-'
  let month ← numberBetween 2 1 12
  char '-'
  let _ ← numberBetween 2 1 (daysIn year month)
  pure ()

/-- A time of day; a second may be a leap second. -/
def timeOfDay : Reader Unit := do
  let _ ← numberBetween 2 0 23
  char ':'
  let _ ← numberBetween 2 0 59
  char ':'
  let _ ← numberBetween 2 0 60
  let _ ← optional do
    char '.'
    let _ ← one Char.isDigit
    takeWhile Char.isDigit

/-- The distance from universal time. -/
def offset : Reader Unit :=
  (do let _ ← one fun c => c == 'Z' || c == 'z')
  <|> do
    let _ ← one fun c => c == '+' || c == '-'
    let _ ← numberBetween 2 0 23
    char ':'
    let _ ← numberBetween 2 0 59

/-- A date, a time of day, or both, which may have an offset. -/
def datetime : Reader Unit :=
  (do
    date
    let _ ← optional do
      let _ ← one fun c => c == 'T' || c == 't' || c == ' '
      timeOfDay
      optional offset)
  <|> timeOfDay

/-- The words for truth values. -/
def boolean : Reader Bool :=
  (do word ['t', 'r', 'u', 'e']; pure true) <|> (do word ['f', 'a', 'l', 's', 'e']; pure false)

/-- A value without parts. -/
def scalar : Reader Scalar :=
  (.string <$> string)
  <|> (.boolean <$> boolean)
  <|> (do datetime; pure .datetime)
  <|> (.float <$> float)
  <|> (.integer <$> integer)

end DeclaredEnv.Toml
