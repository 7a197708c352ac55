/-!
# Sets of characters as intervals

* `inRanges` — membership in a list of closed intervals of code points.
-/

namespace DeclaredEnv.Text

/-- The code point of the character lies in one of the closed intervals. -/
def inRanges (ranges : List (Nat × Nat)) (c : Char) : Bool :=
  ranges.any fun r => decide (r.1 ≤ c.toNat) && decide (c.toNat ≤ r.2)

end DeclaredEnv.Text
