/-!
# Runs of letters with one distance to their other case

* `CaseRun` — the code points `first`, `first + stride`, … up to `last`, which all move by `shift`.
* `shifted?` — what a list of runs makes of a character.
-/

namespace DeclaredEnv.Text

/-- The code points `first`, `first + stride`, … up to `last`, which all move by `shift`. -/
structure CaseRun where
  first : Nat
  last : Nat
  stride : Nat
  shift : Int
  deriving DecidableEq, Repr

/-- The run holds the code point. -/
def CaseRun.holds (r : CaseRun) (n : Nat) : Bool :=
  decide (r.first ≤ n) && decide (n ≤ r.last) && (n - r.first) % r.stride == 0

/-- The character that the first run holding `c` moves it to. -/
def shifted? (runs : List CaseRun) (c : Char) : Option Char :=
  (runs.find? (·.holds c.toNat)).map fun r => Char.ofNat ((c.toNat : Int) + r.shift).toNat

end DeclaredEnv.Text
