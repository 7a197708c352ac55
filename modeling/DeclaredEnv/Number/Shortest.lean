import DeclaredEnv.Number.Decimal

/-!
# The fewest digits that read back

* `Tie` — what becomes of a magnitude half-way between two decimals that both read back.
* `shortest` — the decimal with the fewest digits that reads back as a rank; of two such decimals
  the nearer one.

On the grid of decimals with `n` digits only the two neighbours of the magnitude can read back if
any does.  Seventeen digits are enough for a double; should none read back, the exact decimal is
taken, so that `shortest` reads back by its definition.
-/

namespace DeclaredEnv.Number

/-- Where a magnitude half-way between two decimals goes. -/
inductive Tie where
  | toEven
  | away
  deriving DecidableEq, Repr

/-- The exponent of the leading digit of a magnitude that is not zero, plus 324. -/
def leadingShifted (rank : Nat) : Nat :=
  (naturalText (units rank * Nat.pow 10 324 / unitsPerOne)).length - 1

/-- The exact magnitude as a decimal. -/
def exactDecimal (rank : Nat) : Decimal := ⟨units rank * Nat.pow 5 1074, -1074⟩

/-- The upper neighbour of a fraction is the nearer one, or the one that a tie goes to. -/
def goesUp (tie : Tie) (num den : Nat) : Bool :=
  decide (den < 2 * (num % den)) ||
    (2 * (num % den) == den && (tie == .away || num / den % 2 == 1))

/-- Of two neighbours the one that reads back as the rank; if both do, the upper one if `up`. -/
def chooseNeighbour (rank : Nat) (up : Bool) (below above : Decimal) : Option Decimal :=
  match below.rank == rank, above.rank == rank with
  | true, true => some (if up then above else below)
  | true, false => some below
  | false, true => some above
  | false, false => none

/-- The neighbour with `digits` digits that reads back, if any; the nearer one if both do. -/
def nearestWith (tie : Tie) (rank digits : Nat) : Option Decimal :=
  let top := leadingShifted rank
  let num := units rank * Nat.pow 10 (323 + digits)
  let den := unitsPerOne * Nat.pow 10 top
  let exponent : Int := top - 323 - digits
  chooseNeighbour rank (goesUp tie num den) ⟨num / den, exponent⟩ ⟨num / den + 1, exponent⟩

/-- Take off trailing zeros, at most `fuel` of them. -/
def stripZeros : (fuel : Nat) → Decimal → Decimal
  | 0, d => d
  | fuel + 1, d =>
    if d.coefficient % 10 = 0 then stripZeros fuel ⟨d.coefficient / 10, d.exponent + 1⟩ else d

/-- The decimal without trailing zeros; zero has the exponent `0`. -/
def Decimal.normal (d : Decimal) : Decimal :=
  if d.coefficient = 0 then ⟨0, 0⟩ else stripZeros (naturalText d.coefficient).length d

/-- The decimal with the fewest digits that reads back as the rank. -/
def shortest (tie : Tie) (rank : Nat) : Decimal :=
  if rank = 0 then ⟨0, 0⟩
  else
    (((List.range 17).findSome? fun n => nearestWith tie rank (n + 1)).getD
      (exactDecimal rank)).normal

end DeclaredEnv.Number
