/-!
# Double-precision numbers

A finite double is a sign and a **rank**: the place of its magnitude among all magnitudes in
increasing order, from `0` for zero on.  Below `2 ^ 53` neighbours are one unit of `2 ^ (-1074)`
apart; from there on the distance doubles every `2 ^ 52` ranks.

* `Binary64` — finite, infinite, or no number.
* `units` — the magnitude at a rank, counted in units of `2 ^ (-1074)`.
* `nearestRank` — the rank whose magnitude is nearest to a fraction; a tie goes to the even rank.
* `Binary64.ofRatio`, `Binary64.ofInt` — the nearest double, infinite beyond the largest one.
* `Binary64.sameNumber` — equality of numbers, where the two zeros are equal.

Principal result: `nearestRank_units` — rounding a magnitude gives its own rank.
-/

namespace DeclaredEnv.Number

/-- The number of ranks from one doubling of the distance to the next: `2 ^ 52`. -/
def ranksPerDoubling : Nat := 4503599627370496

/-- The number of finite magnitudes; as a rank it stands for "beyond the largest double". -/
def rankCount : Nat := 2047 * ranksPerDoubling

/-- A double-precision number. -/
inductive Binary64 where
  | finite (negative : Bool) (rank : Nat) (rank_lt : rank < rankCount)
  | infinite (negative : Bool)
  | nan
  deriving DecidableEq, Repr

/-- How many units make one: `2 ^ 1074`. -/
def unitsPerOne : Nat := Nat.pow 2 1074

theorem unitsPerOne_pos : 0 < unitsPerOne := by decide +kernel

/-- The magnitude at a rank, in units of `2 ^ (-1074)`. -/
def units (rank : Nat) : Nat :=
  if rank < 2 * ranksPerDoubling then rank
  else
    (rank % ranksPerDoubling + ranksPerDoubling) * Nat.pow 2 (rank / ranksPerDoubling - 1)

/-- The quotient rounded to a whole number, a half to the even one. -/
def divHalfEven (n d : Nat) : Nat :=
  if 2 * (n % d) < d then n / d
  else if d < 2 * (n % d) then n / d + 1
  else n / d + n / d % 2

/--
The rank nearest to the fraction `num / den`, and at least `rankCount` beyond the largest double.
The distance between neighbours is `2 ^ shift` units, where `shift` leaves 53 binary digits.
-/
def nearestRank (num den : Nat) : Nat :=
  let shift := (num * unitsPerOne / den).log2 - 52
  shift * ranksPerDoubling + divHalfEven (num * unitsPerOne) (den * Nat.pow 2 shift)

namespace Binary64

/-- The double of a sign and a rank; a rank past the last is infinity. -/
def ofRank (negative : Bool) (rank : Nat) : Binary64 :=
  if h : rank < rankCount then .finite negative rank h else .infinite negative

/-- The double nearest to a fraction. -/
def ofRatio (negative : Bool) (num den : Nat) : Binary64 := ofRank negative (nearestRank num den)

/-- The double nearest to a whole number. -/
def ofInt (n : Int) : Binary64 := ofRatio (decide (n < 0)) n.natAbs 1

/-- The double is neither infinite nor undefined. -/
def isFinite : Binary64 → Bool
  | .finite .. => true
  | _ => false

/-- Equality of numbers: the zeros are equal, and an undefined number equals nothing. -/
def sameNumber : Binary64 → Binary64 → Bool
  | .finite n r _, .finite m s _ => r == s && (n == m || r == 0)
  | .infinite n, .infinite m => n == m
  | _, _ => false

theorem sameNumber_self {x : Binary64} (h : x.isFinite = true) : x.sameNumber x = true := by
  cases x <;> simp_all [isFinite, sameNumber]

theorem sameNumber_comm (x y : Binary64) : x.sameNumber y = y.sameNumber x := by
  cases x with
  | finite n r =>
    cases y with
    | finite m s =>
      rw [Bool.eq_iff_iff]
      simp only [sameNumber, Bool.and_eq_true, Bool.or_eq_true, beq_iff_eq]
      constructor
      · rintro ⟨rfl, h⟩
        exact ⟨rfl, h.imp_left Eq.symm⟩
      · rintro ⟨rfl, h⟩
        exact ⟨rfl, h.imp_left Eq.symm⟩
    | infinite | nan => rfl
  | infinite n =>
    cases y with
    | infinite m => exact Bool.beq_comm
    | finite | nan => rfl
  | nan => cases y <;> rfl

end Binary64

/-- A quotient without remainder needs no rounding. -/
theorem divHalfEven_mul (m : Nat) {d : Nat} (h : 0 < d) : divHalfEven (m * d) d = m := by
  simp [divHalfEven, h]

theorem pow_two_pos (e : Nat) : 0 < Nat.pow 2 e := Nat.two_pow_pos e

/-- A number of 53 binary digits times a power of two. -/
theorem log2_mul_pow {m : Nat} (e : Nat) (low : ranksPerDoubling ≤ m)
    (high : m < 2 * ranksPerDoubling) : (m * Nat.pow 2 e).log2 = 52 + e := by
  have hpe := pow_two_pos e
  have hm : 0 < m := Nat.lt_of_lt_of_le (by decide) low
  have hne : m * Nat.pow 2 e ≠ 0 := Nat.ne_of_gt (Nat.mul_pos hm hpe)
  apply Nat.le_antisymm
  · refine Nat.le_of_lt_succ ((Nat.log2_lt hne).mpr ?_)
    have hsplit : Nat.pow 2 (53 + e) = Nat.pow 2 53 * Nat.pow 2 e := Nat.pow_add 2 53 e
    have hexp : (52 + e).succ = 53 + e := by omega
    rw [hexp]
    change m * Nat.pow 2 e < Nat.pow 2 (53 + e)
    rw [hsplit]
    exact Nat.mul_lt_mul_of_pos_right high hpe
  · refine (Nat.le_log2 hne).mpr ?_
    have hsplit : Nat.pow 2 (52 + e) = Nat.pow 2 52 * Nat.pow 2 e := Nat.pow_add 2 52 e
    change Nat.pow 2 (52 + e) ≤ m * Nat.pow 2 e
    rw [hsplit]
    exact Nat.mul_le_mul_right _ low

theorem nearestRank_units (rank : Nat) : nearestRank (units rank) unitsPerOne = rank := by
  have hpos := unitsPerOne_pos
  unfold nearestRank
  generalize unitsPerOne = p at hpos ⊢
  have hd : units rank * p / p = units rank := Nat.mul_div_cancel _ hpos
  simp only [hd]
  unfold units
  split
  · next h =>
    have hs : rank.log2 - 52 = 0 := by
      rcases Nat.eq_zero_or_pos rank with rfl | hr
      · rfl
      · have hlog : rank.log2 < 53 := (Nat.log2_lt (Nat.ne_of_gt hr)).mpr h
        omega
    rw [hs]
    change 0 * ranksPerDoubling + divHalfEven (rank * p) (p * 1) = rank
    rw [Nat.zero_mul, Nat.zero_add, Nat.mul_one]
    exact divHalfEven_mul rank hpos
  · next h =>
    have hr : ranksPerDoubling = 4503599627370496 := rfl
    have hlow : rank % ranksPerDoubling < ranksPerDoubling := Nat.mod_lt _ (by decide)
    have hsum := Nat.div_add_mod rank ranksPerDoubling
    have hq : 2 ≤ rank / ranksPerDoubling :=
      (Nat.le_div_iff_mul_le (by decide)).mpr (Nat.le_of_not_lt h)
    generalize hm : rank % ranksPerDoubling + ranksPerDoubling = m
    generalize he : rank / ranksPerDoubling - 1 = e
    have hs : (m * Nat.pow 2 e).log2 - 52 = e := by
      rw [log2_mul_pow e (by omega) (by omega)]
      omega
    have hcomm : m * Nat.pow 2 e * p = m * (p * Nat.pow 2 e) := by
      rw [Nat.mul_assoc, Nat.mul_comm (Nat.pow 2 e) p]
    rw [hs, hcomm, divHalfEven_mul m (Nat.mul_pos hpos (pow_two_pos e))]
    have hdiv : rank / ranksPerDoubling = e + 1 := by omega
    rw [hdiv, Nat.mul_comm, Nat.add_mul] at hsum
    omega

end DeclaredEnv.Number
