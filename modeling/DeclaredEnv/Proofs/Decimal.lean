import DeclaredEnv.Number.Layout
import Mathlib.Data.List.TakeWhile

/-!
# Doubles read back from their digits

A decimal may be written with more or fewer zeros at its end; the double nearest to it does not
depend on that.  So the digits that were chosen because they read back still do after zeros were
taken off, and after the number was laid out around its point.

Principal results: `Decimal.rank_mul_pow` — zeros at the end of a coefficient count as its exponent
does.  `rank_shortest` — the decimal with the fewest digits reads back.
`readDecimal?_positionalText` — positional notation reads as a decimal of the same rank.
-/

namespace DeclaredEnv.Number

/-! ## Fractions in other terms -/

theorem divHalfEven_mul_mul (n d : Nat) {k : Nat} (hk : 0 < k) :
    divHalfEven (n * k) (d * k) = divHalfEven n d := by
  have hlt (a b : Nat) : a * k < b * k ↔ a < b := Nat.mul_lt_mul_right hk
  unfold divHalfEven
  rw [Nat.mul_div_mul_right n d hk, Nat.mul_mod_mul_right, ← Nat.mul_assoc]
  simp only [hlt]

theorem nearestRank_mul_mul (num den : Nat) {k : Nat} (hk : 0 < k) :
    nearestRank (num * k) (den * k) = nearestRank num den := by
  have hnum : num * k * unitsPerOne = num * unitsPerOne * k := Nat.mul_right_comm ..
  have hden (shift : Nat) : den * k * Nat.pow 2 shift = den * Nat.pow 2 shift * k :=
    Nat.mul_right_comm ..
  simp only [nearestRank, hnum, hden, Nat.mul_div_mul_right _ _ hk, divHalfEven_mul_mul _ _ hk]

/-! ## Zeros at the end -/

theorem pow_ten_succ (e : Nat) : Nat.pow 10 (e + 1) = Nat.pow 10 e * 10 := rfl

theorem naturalText_mul_ten {n : Nat} (hn : 0 < n) :
    naturalText (n * 10) = naturalText n ++ ['0'] := by
  have h := Nat.toDigits_append_toDigits (b := 10) (d := 0) (by decide) hn (by decide)
  rw [Nat.add_zero, Nat.mul_comm] at h
  exact h.symm

namespace Decimal

theorem rank_mul_ten (c : Nat) (e : Int) :
    (⟨c * 10, e⟩ : Decimal).rank = (⟨c, e + 1⟩ : Decimal).rank := by
  rcases Nat.eq_zero_or_pos c with rfl | hc
  · simp only [rank, Nat.zero_mul, if_true]
  have hleading : (⟨c * 10, e⟩ : Decimal).leading = (⟨c, e + 1⟩ : Decimal).leading := by
    simp only [leading, naturalText_mul_ten hc, List.length_append, List.length_singleton]
    omega
  have hnearest : nearestRank (c * 10 * Nat.pow 10 e.toNat) (Nat.pow 10 (-e).toNat) =
      nearestRank (c * Nat.pow 10 (e + 1).toNat) (Nat.pow 10 (-(e + 1)).toNat) := by
    rcases Int.lt_or_le e 0 with he | he
    · -- the zero cancels against one of the denominator
      have h₁ : (e + 1).toNat = e.toNat := by omega
      have h₂ : (-e).toNat = (-(e + 1)).toNat + 1 := by omega
      rw [h₁, h₂, pow_ten_succ, Nat.mul_right_comm, nearestRank_mul_mul _ _ (by decide)]
    · have h₁ : (e + 1).toNat = e.toNat + 1 := by omega
      have h₂ : (-e).toNat = (-(e + 1)).toNat := by omega
      rw [h₁, h₂, pow_ten_succ, Nat.mul_assoc c 10, Nat.mul_comm 10]
  have hne : c * 10 ≠ 0 := by omega
  simp only [rank, hleading, hnearest, if_neg hne, if_neg (Nat.ne_of_gt hc)]

/-- **Zeros at the end of a coefficient count as its exponent does.** -/
theorem rank_mul_pow (c k : Nat) (e : Int) :
    (⟨c * Nat.pow 10 k, e⟩ : Decimal).rank = (⟨c, e + k⟩ : Decimal).rank := by
  induction k generalizing e with
  | zero =>
    show (⟨c * 1, e⟩ : Decimal).rank = _
    rw [Nat.mul_one, Int.natCast_zero, Int.add_zero]
  | succ k ih =>
    have he : e + 1 + (k : Int) = e + ((k + 1 : Nat) : Int) := by omega
    rw [pow_ten_succ, ← Nat.mul_assoc, rank_mul_ten, ih, he]

theorem rank_stripZeros (fuel : Nat) (d : Decimal) : (stripZeros fuel d).rank = d.rank := by
  induction fuel generalizing d with
  | zero => rfl
  | succ fuel ih =>
    unfold stripZeros
    split
    · rename_i hzero
      have hc : d.coefficient / 10 * 10 = d.coefficient := by omega
      rw [ih, ← rank_mul_ten, hc]
    · rfl

theorem rank_normal (d : Decimal) : d.normal.rank = d.rank := by
  unfold normal
  split
  · rename_i hzero
    simp only [rank, hzero, if_true]
  · exact rank_stripZeros _ d

end Decimal

/-! ## The digits that were chosen -/

theorem rank_of_chooseNeighbour {rank : Nat} {up : Bool} {below above d : Decimal}
    (h : chooseNeighbour rank up below above = some d) : d.rank = rank := by
  unfold chooseNeighbour at h
  split at h
  · rename_i hbelow habove
    cases h
    split
    · exact beq_iff_eq.mp habove
    · exact beq_iff_eq.mp hbelow
  · rename_i hbelow _
    cases h
    exact beq_iff_eq.mp hbelow
  · rename_i _ habove
    cases h
    exact beq_iff_eq.mp habove
  · cases h

/-- A decimal is chosen because it reads back. -/
theorem rank_of_nearestWith {tie : Tie} {rank digits : Nat} {d : Decimal}
    (h : nearestWith tie rank digits = some d) : d.rank = rank :=
  rank_of_chooseNeighbour h

theorem units_pos {rank : Nat} (h : 0 < rank) : 0 < units rank := by
  unfold units
  split
  · exact h
  · have hr : 0 < ranksPerDoubling := by decide
    exact Nat.mul_pos (Nat.lt_of_lt_of_le hr (Nat.le_add_left _ _)) (pow_two_pos _)

/-- Each doubling of the distance between neighbours doubles the bound on the magnitude. -/
theorem units_lt {rank k : Nat} (h : rank < (k + 2) * ranksPerDoubling) :
    units rank < Nat.pow 2 (53 + k) := by
  have hr : 0 < ranksPerDoubling := by decide
  have hbound : Nat.pow 2 (53 + k) = 2 * ranksPerDoubling * Nat.pow 2 k := Nat.pow_add 2 53 k
  rw [hbound, units]
  split
  · rename_i hlow
    exact Nat.lt_of_lt_of_le hlow (Nat.le_mul_of_pos_right _ (pow_two_pos k))
  · have hdoublings : rank / ranksPerDoubling < k + 2 := (Nat.div_lt_iff_lt_mul hr).mpr h
    have hpow : Nat.pow 2 (rank / ranksPerDoubling - 1) ≤ Nat.pow 2 k :=
      Nat.pow_le_pow_right (by decide) (by omega)
    have hlt : rank % ranksPerDoubling + ranksPerDoubling < 2 * ranksPerDoubling := by
      rw [Nat.two_mul]
      exact Nat.add_lt_add_right (Nat.mod_lt rank hr) _
    exact Nat.mul_lt_mul_of_lt_of_le hlt hpow (pow_two_pos k)

/-- How many times the last place of an exact decimal makes a unit: `5 ^ 1074`. -/
def placesPerUnit : Nat := Nat.pow 5 1074

theorem placesPerUnit_pos : 0 < placesPerUnit := by decide +kernel

theorem pow_ten_eq : Nat.pow 10 1074 = unitsPerOne * placesPerUnit := by decide +kernel

/-- The exact decimal of a magnitude has from 745 to 1385 digits. -/
theorem length_naturalText_units {rank : Nat} (hpos : 0 < rank) (h : rank < rankCount) :
    744 < (naturalText (units rank * placesPerUnit)).length ∧
      (naturalText (units rank * placesPerUnit)).length ≤ 1385 := by
  have hlow : 10 ^ 744 ≤ placesPerUnit := by decide +kernel
  have hhigh : Nat.pow 2 (53 + 2045) * placesPerUnit ≤ 10 ^ 1385 := by decide +kernel
  constructor
  · rw [← Nat.not_le, naturalText, Nat.length_toDigits_le_iff (by decide) (by decide), Nat.not_lt]
    exact hlow.trans (Nat.le_mul_of_pos_left _ (units_pos hpos))
  · refine (Nat.length_toDigits_le_iff (by decide) (by decide)).mpr ?_
    exact Nat.lt_of_lt_of_le ((Nat.mul_lt_mul_right placesPerUnit_pos).mpr (units_lt h)) hhigh

theorem exactDecimal_eq (rank : Nat) : exactDecimal rank = ⟨units rank * placesPerUnit, -1074⟩ := by
  rw [exactDecimal, placesPerUnit]

/-- The exact magnitude reads back, as it is within the range in which the quotient is taken. -/
theorem rank_exactDecimal {rank : Nat} (hpos : 0 < rank) (h : rank < rankCount) :
    (exactDecimal rank).rank = rank := by
  obtain ⟨hlow, hhigh⟩ := length_naturalText_units hpos h
  have hne : units rank * placesPerUnit ≠ 0 :=
    Nat.ne_of_gt (Nat.mul_pos (units_pos hpos) placesPerUnit_pos)
  have hleading : (⟨units rank * placesPerUnit, -1074⟩ : Decimal).leading =
      (naturalText (units rank * placesPerUnit)).length - 1 + -1074 := rfl
  have hterms : nearestRank (units rank * placesPerUnit * Nat.pow 10 0) (Nat.pow 10 1074) =
      nearestRank (units rank) unitsPerOne := by
    have hone : Nat.pow 10 0 = 1 := rfl
    rw [pow_ten_eq, hone, Nat.mul_one, nearestRank_mul_mul _ _ placesPerUnit_pos]
  rw [exactDecimal_eq, Decimal.rank, if_neg hne, if_neg (by omega), if_neg (by omega)]
  exact hterms.trans (nearestRank_units rank)

/-- **The decimal with the fewest digits reads back.** -/
theorem rank_shortest (tie : Tie) {rank : Nat} (h : rank < rankCount) :
    (shortest tie rank).rank = rank := by
  unfold shortest
  split
  · rename_i hzero
    rw [hzero]
    rfl
  · rename_i hne
    rw [Decimal.rank_normal]
    cases hfound : (List.range 17).findSome? fun n => nearestWith tie rank (n + 1) with
    | none => exact rank_exactDecimal (Nat.pos_of_ne_zero hne) h
    | some d =>
      obtain ⟨n, _, hn⟩ := List.exists_of_findSome?_eq_some hfound
      exact rank_of_nearestWith hn

/-! ## Digits around a point -/

theorem isDigit_of_mem_naturalText {n : Nat} {c : Char} (h : c ∈ naturalText n) :
    c.isDigit = true :=
  Nat.isDigit_of_mem_toDigits (by decide) (by decide) h

/-- A text is split where its first character of another class stands. -/
theorem span_append {p : Char → Bool} {front : List Char} (hfront : ∀ c ∈ front, p c = true)
    (back : List Char) (hback : ∀ c ∈ back.head?, p c = false) :
    (front ++ back).takeWhile p = front ∧ (front ++ back).dropWhile p = back := by
  have hstop : back.takeWhile p = [] ∧ back.dropWhile p = back := by
    cases back with
    | nil => exact ⟨rfl, rfl⟩
    | cons c rest =>
      have hc : ¬p c = true := Bool.eq_false_iff.mp (hback c rfl)
      exact ⟨List.takeWhile_cons_of_neg hc, List.dropWhile_cons_of_neg hc⟩
  rw [List.takeWhile_append_of_pos hfront, List.dropWhile_append_of_pos hfront, hstop.1, hstop.2,
    List.append_nil]
  exact ⟨rfl, rfl⟩

theorem forall_mem_head?_cons {p : Char → Bool} {c : Char} (h : p c = false) (rest : List Char) :
    ∀ d ∈ (c :: rest).head?, p d = false := by
  rintro d hd
  cases hd
  exact h

theorem readDecimal?_of_digits {s : List Char} (hne : s ≠ []) (h : ∀ c ∈ s, c.isDigit = true) :
    readDecimal? s = some ⟨digitsValue s, 0⟩ := by
  have htake : s.takeWhile Char.isDigit = s := List.takeWhile_eq_self_iff.mpr h
  have hdrop : s.dropWhile Char.isDigit = [] := List.dropWhile_eq_nil_iff.mpr h
  simp [readDecimal?, htake, hdrop, hne]

theorem readDecimal?_of_point {whole fraction : List Char} (hne : whole ≠ [])
    (hwhole : ∀ c ∈ whole, c.isDigit = true) (hfraction : ∀ c ∈ fraction, c.isDigit = true) :
    readDecimal? (whole ++ '.' :: fraction) =
      some ⟨digitsValue (whole ++ fraction), -fraction.length⟩ := by
  obtain ⟨htake, hdrop⟩ := span_append hwhole ('.' :: fraction) (forall_mem_head?_cons rfl _)
  have htake' : fraction.takeWhile Char.isDigit = fraction :=
    List.takeWhile_eq_self_iff.mpr hfraction
  have hdrop' : fraction.dropWhile Char.isDigit = [] := List.dropWhile_eq_nil_iff.mpr hfraction
  simp [readDecimal?, htake, hdrop, htake', hdrop', hne]

theorem digitsValue_append_zeros (s : List Char) (k : Nat) :
    digitsValue (s ++ List.replicate k '0') = digitsValue s * Nat.pow 10 k := by
  rw [digitsValue, Nat.ofDigitChars_append, Nat.ofDigitChars_replicate_zero, Nat.mul_comm]
  rfl

theorem digitsValue_zeros_append (k : Nat) (s : List Char) :
    digitsValue (List.replicate k '0' ++ s) = digitsValue s := by
  rw [digitsValue, Nat.ofDigitChars_append, Nat.ofDigitChars_replicate_zero, Nat.mul_zero]
  rfl

theorem isDigit_of_mem_zeros {k : Nat} {c : Char} (h : c ∈ List.replicate k '0') :
    c.isDigit = true := by
  rw [List.eq_of_mem_replicate h]
  rfl

/-- What may follow a whole number without changing it: nothing, or a fraction of zero. -/
def EndsWhole (ending : List Char) : Prop := ending = [] ∨ ending = ['.', '0']

/-- **Positional notation reads as a decimal of the same rank.** -/
theorem readDecimal?_positionalText {ending : List Char} (hending : EndsWhole ending) (c : Nat)
    (e : Int) : ∃ d, readDecimal? (positionalText ending (naturalText c) e) = some d ∧
      d.rank = (⟨c, e⟩ : Decimal).rank := by
  have hne : naturalText c ≠ [] := Nat.toDigits_ne_nil
  have hdigits : ∀ ch ∈ naturalText c, ch.isDigit = true := fun _ => isDigit_of_mem_naturalText
  unfold positionalText
  split
  · -- a whole number: the zeros at its end are its exponent
    rename_i he
    have hall : ∀ ch ∈ naturalText c ++ List.replicate e.toNat '0', ch.isDigit = true := by
      intro ch hch
      exact (List.mem_append.mp hch).elim (hdigits ch) isDigit_of_mem_zeros
    rcases hending with rfl | rfl
    · have hexponent : (0 : Int) + e.toNat = e := by omega
      rw [List.append_nil]
      refine ⟨_, readDecimal?_of_digits (by simp [hne]) hall, ?_⟩
      rw [digitsValue_append_zeros, digitsValue_naturalText, Decimal.rank_mul_pow, hexponent]
    · -- the fraction is one more zero
      have hfraction : ∀ ch ∈ ['0'], ch.isDigit = true := by simp
      have hexponent : -((['0'] : List Char).length : Int) + ((e.toNat + 1 : Nat) : Int) = e := by
        rw [List.length_singleton]
        omega
      refine ⟨_, readDecimal?_of_point (by simp [hne]) hall hfraction, ?_⟩
      rw [List.append_assoc, ← List.replicate_succ', digitsValue_append_zeros,
        digitsValue_naturalText, Decimal.rank_mul_pow, hexponent]
  · simp only
    split
    · -- the point stands among the digits
      rename_i he hplaces
      have hlength : ((naturalText c).drop ((naturalText c).length - (-e).toNat)).length =
          (-e).toNat := by
        rw [List.length_drop]
        omega
      have htake : (naturalText c).take ((naturalText c).length - (-e).toNat) ≠ [] := by
        rw [ne_eq, List.take_eq_nil_iff]
        rintro (h | h)
        · omega
        · exact hne h
      refine ⟨_, readDecimal?_of_point htake (fun ch hch => hdigits ch (List.mem_of_mem_take hch))
        (fun ch hch => hdigits ch (List.mem_of_mem_drop hch)), ?_⟩
      have hexponent : -((-e).toNat : Int) = e := by omega
      rw [List.take_append_drop, digitsValue_naturalText, hlength, hexponent]
    · -- the point stands before the digits, and zeros between
      rename_i he hplaces
      have hall : ∀ ch ∈ List.replicate ((-e).toNat - (naturalText c).length) '0' ++ naturalText c,
          ch.isDigit = true := by
        intro ch hch
        exact (List.mem_append.mp hch).elim isDigit_of_mem_zeros (hdigits ch)
      have hlength : (List.replicate ((-e).toNat - (naturalText c).length) '0' ++
          naturalText c).length = (-e).toNat := by
        rw [List.length_append, List.length_replicate]
        omega
      have hexponent : -((-e).toNat : Int) = e := by omega
      have hzero : ['0'] = List.replicate 1 '0' := rfl
      have hread : readDecimal? (['0'] ++ '.' ::
          (List.replicate ((-e).toNat - (naturalText c).length) '0' ++ naturalText c)) =
            some ⟨c, e⟩ := by
        rw [readDecimal?_of_point (List.cons_ne_nil _ _) (List.forall_mem_singleton.mpr rfl) hall,
          hlength, hexponent, hzero, digitsValue_zeros_append, digitsValue_zeros_append,
          digitsValue_naturalText]
      exact ⟨_, hread, rfl⟩

end DeclaredEnv.Number
