import DeclaredEnv.Number.Binary64
import DeclaredEnv.Number.Integer

/-!
# Decimal numbers and their reading

* `Decimal` — a coefficient and a power of ten.
* `Decimal.rank` — the rank of the nearest double.
* `readFloat?` — a double from its decimal text: an optional sign, digits with at most one point
  and at least one digit, and an optional exponent.  A text beyond the largest double reads as
  infinite, and there are words for infinite and undefined doubles.
-/

namespace DeclaredEnv.Number

/-- The number `coefficient * 10 ^ exponent`. -/
structure Decimal where
  coefficient : Nat
  exponent : Int
  deriving DecidableEq, Repr

/-- The exponent of the leading digit. -/
def Decimal.leading (d : Decimal) : Int :=
  (naturalText d.coefficient).length - 1 + d.exponent

/--
The rank of the double nearest to a decimal.  From `10 ^ 310` on every decimal is beyond the largest
double, and below `10 ^ (-330)` each is nearer to zero than to the least one, so the exact quotient
is taken in between only.
-/
def Decimal.rank (d : Decimal) : Nat :=
  if d.coefficient = 0 then 0
  else if 310 < d.leading then rankCount
  else if d.leading < -330 then 0
  else
    nearestRank (d.coefficient * Nat.pow 10 d.exponent.toNat) (Nat.pow 10 (-d.exponent).toNat)

/-- The exponent part of a number, after its mark: an optional sign and digits. -/
def readExponent? (s : List Char) : Option Int :=
  let (negative, digits) := readSign s
  if isDigits digits then
    some (if negative then -(digitsValue digits : Int) else digitsValue digits)
  else none

/-- A decimal without sign: digits with at most one point, and an optional exponent. -/
def readDecimal? (s : List Char) : Option Decimal :=
  let whole := s.takeWhile Char.isDigit
  let afterWhole := s.dropWhile Char.isDigit
  let (fraction, rest) := match afterWhole with
    | '.' :: tail => (tail.takeWhile Char.isDigit, tail.dropWhile Char.isDigit)
    | other => ([], other)
  let digits := whole ++ fraction
  if digits.isEmpty then none
  else
    let exponent? := match rest with
      | [] => some 0
      | mark :: tail => if mark = 'e' ∨ mark = 'E' then readExponent? tail else none
    exponent?.map fun e => ⟨digitsValue digits, e - fraction.length⟩

/-- A double without a number, from one of its words in either case of ASCII. -/
def readSpecial? (negative : Bool) (s : List Char) : Option Binary64 :=
  match String.ofList (s.map Char.toLower) with
  | "inf" => some (.infinite negative)
  | "infinity" => some (.infinite negative)
  | "nan" => some .nan
  | _ => none

/-- A double from its decimal text or its word. -/
def readFloat? (s : List Char) : Option Binary64 :=
  let (negative, rest) := readSign s
  match readDecimal? rest with
  | some d => some (.ofRank negative d.rank)
  | none => readSpecial? negative rest

end DeclaredEnv.Number
