import DeclaredEnv.Proofs.ReadBack

/-!
# Texts of one kind read as another

* `readFloat?_integerText` — a whole number of 64 bits reads as the double nearest to it.
* `readBool?_integerText_eq_some_iff` — as a truth value only `0` and `1` read.
* `readInteger?_text`, `readBool?_text` — a double that shows its fraction reads as neither.
-/

namespace DeclaredEnv

open Number Text

namespace Number

/-! ## Whole numbers as doubles -/

/-- The text of a whole number is the usual one. -/
theorem ofList_integerText (n : Int) : String.ofList (integerText n) = toString n := by
  cases n with
  | ofNat m => rfl
  | negSucc m =>
    have hneg : Int.negSucc m < 0 := Int.negSucc_lt_zero m
    rw [integerText, if_pos hneg, Int.natAbs_negSucc]
    show String.ofList (['-'] ++ naturalText (m + 1)) = "-" ++ Nat.repr (m + 1)
    rw [String.ofList_append]
    rfl

theorem divHalfEven_le (n d : Nat) : divHalfEven n d ≤ n / d + 1 := by
  unfold divHalfEven
  split
  · omega
  · split <;> omega

/-- The magnitude of a number of 64 bits is far below the largest double. -/
theorem nearestRank_lt {m : Nat} (hm : m ≤ Nat.pow 2 63) : nearestRank m 1 < rankCount := by
  have hunits : m * unitsPerOne < Nat.pow 2 1138 := by
    have htop : Nat.pow 2 63 * unitsPerOne < Nat.pow 2 1138 := by decide +kernel
    exact Nat.lt_of_le_of_lt (Nat.mul_le_mul_right _ hm) htop
  unfold nearestRank
  simp only [Nat.div_one, Nat.one_mul]
  generalize m * unitsPerOne = n at hunits ⊢
  have hlog : n.log2 < 1138 := by
    rcases Nat.eq_zero_or_pos n with rfl | hn
    · decide
    · exact (Nat.log2_lt (Nat.ne_of_gt hn)).mpr hunits
  generalize hshift : n.log2 - 52 = shift
  -- what the shift leaves has at most 53 binary digits
  have hquotient : n / Nat.pow 2 shift < Nat.pow 2 53 := by
    rw [Nat.div_lt_iff_lt_mul (pow_two_pos shift)]
    have hpow : Nat.pow 2 (n.log2 + 1) ≤ Nat.pow 2 (53 + shift) :=
      Nat.pow_le_pow_right (by decide) (by omega)
    have hsplit : Nat.pow 2 (53 + shift) = Nat.pow 2 53 * Nat.pow 2 shift := Nat.pow_add 2 53 shift
    rw [← hsplit]
    exact Nat.lt_of_lt_of_le Nat.lt_log2_self hpow
  have hround := divHalfEven_le n (Nat.pow 2 shift)
  have hr : ranksPerDoubling = 4503599627370496 := rfl
  have hcount : rankCount = 2047 * 4503599627370496 := rfl
  have h53 : Nat.pow 2 53 = 9007199254740992 := rfl
  rw [h53] at hquotient
  rw [hr, hcount]
  omega

theorem rank_natural {m : Nat} (hm : m ≤ Nat.pow 2 63) :
    (⟨m, 0⟩ : Decimal).rank = nearestRank m 1 := by
  rcases Nat.eq_zero_or_pos m with rfl | hpos
  · simp [Decimal.rank, nearestRank, divHalfEven]
  · have hlength : (naturalText m).length ≤ 19 :=
      (Nat.length_toDigits_le_iff (by decide) (by decide)).mpr
        (Nat.lt_of_le_of_lt hm (by decide))
    have hleading : (⟨m, 0⟩ : Decimal).leading = (naturalText m).length - 1 + 0 := rfl
    rw [Decimal.rank, if_neg (Nat.ne_of_gt hpos), if_neg (by omega), if_neg (by omega)]
    show nearestRank (m * 1) 1 = nearestRank m 1
    rw [Nat.mul_one]

theorem natAbs_le_of_inRange {n : Int} (h : InRange n) : n.natAbs ≤ Nat.pow 2 63 := by
  have hpow : Nat.pow 2 63 = 9223372036854775808 := rfl
  obtain ⟨hlow, hhigh⟩ := h
  omega

/-- **A whole number reads as the double nearest to it.** -/
theorem readFloat?_integerText {n : Int} (h : InRange n) :
    readFloat? (integerText n) = some (.ofInt n) := by
  have hread : readDecimal? (naturalText n.natAbs) = some ⟨n.natAbs, 0⟩ := by
    rw [readDecimal?_of_digits (naturalText_ne_nil _) fun _ => isDigit_of_mem_naturalText,
      digitsValue_naturalText]
  have hrank := rank_natural (natAbs_le_of_inRange h)
  unfold integerText
  split
  · rename_i hn
    simp only [readFloat?, readSign, hread, hrank, Binary64.ofInt, Binary64.ofRatio, hn,
      decide_true]
  · rename_i hn
    simp only [readFloat?, readSign_of_readDecimal? hread, hread, hrank, Binary64.ofInt,
      Binary64.ofRatio, hn, decide_false]

theorem isFinite_ofInt {n : Int} (h : InRange n) : (Binary64.ofInt n).isFinite = true := by
  have hlt := nearestRank_lt (natAbs_le_of_inRange h)
  rw [Binary64.ofInt, Binary64.ofRatio, Binary64.ofRank, dif_pos hlt]
  rfl

/-! ## Doubles as whole numbers -/

theorem isDigit_of_readInteger? {s : List Char} {n : Int} (h : readInteger? s = some n) :
    ∀ c ∈ s, c.isDigit = true ∨ c = '-' ∨ c = '+' := by
  have hdigits : isDigits (readSign s).2 = true := by
    simp only [readInteger?, Option.ite_none_right_eq_some] at h
    exact h.1
  have hall : ∀ c ∈ (readSign s).2, c.isDigit = true := by
    simp only [isDigits, Bool.and_eq_true, List.all_eq_true] at hdigits
    exact hdigits.2
  intro c hc
  unfold readSign at hall
  split at hall
  · rcases List.mem_cons.mp hc with rfl | hc
    · exact .inr (.inl rfl)
    · exact .inl (hall c hc)
  · rcases List.mem_cons.mp hc with rfl | hc
    · exact .inr (.inr rfl)
    · exact .inl (hall c hc)
  · exact .inl (hall c hc)

/-- **A double that shows its fraction is no whole number.** -/
theorem readInteger?_text {l : FloatLayout} (hl : l.wholeEnding = ['.', '0']) (x : Binary64) :
    readInteger? (l.text x) = none := by
  cases x with
  | nan => rfl
  | infinite negative => cases negative <;> rfl
  | finite negative rank rank_lt =>
    refine Option.eq_none_iff_forall_ne_some.mpr fun n hn => ?_
    have hchars := isDigit_of_readInteger? hn
    rcases mark_mem_text hl (x := .finite negative rank rank_lt) rfl with h | h
    · exact absurd (hchars '.' h) (by decide)
    · exact absurd (hchars 'e' h) (by decide)

end Number

/-! ## Numbers as truth values -/

/-- The words for a truth value. -/
def wordsFor (b : Bool) : List String := if b then trueWords else falseWords

theorem mem_wordsFor_of_readBool? {s : List Char} {b : Bool} (h : readBool? s = some b) :
    String.ofList (asciiLowercase s) ∈ wordsFor b := by
  unfold readBool? at h
  simp only at h
  split at h
  · rename_i hword
    cases h
    exact List.contains_iff_mem.mp hword
  · split at h
    · rename_i hword
      cases h
      exact List.contains_iff_mem.mp hword
    · cases h

theorem toLower_of_isNumeral {c : Char} (h : isNumeral c = true) : c.toLower = c := by
  rcases isNumeral_iff.mp h with hdigit | rfl | rfl | rfl | rfl
  · have hhigh : c.val ≤ '9'.val := of_decide_eq_true (Bool.and_eq_true_iff.mp hdigit).2
    unfold Char.toLower
    split
    · rename_i hupper
      have hlow : 'A'.val ≤ '9'.val := UInt32.le_trans hupper.1 hhigh
      exact absurd hlow (by decide)
    · rfl
  all_goals rfl

/-- A number that reads as a truth value is a word for it. -/
theorem mem_wordsFor_of_isNumeral {s : List Char} (hs : ∀ c ∈ s, isNumeral c = true) {b : Bool}
    (h : readBool? s = some b) : String.ofList s ∈ wordsFor b := by
  have hlower : asciiLowercase s = s := by
    rw [asciiLowercase, List.map_congr_left fun c hc => toLower_of_isNumeral (hs c hc), List.map_id']
  have hword := mem_wordsFor_of_readBool? h
  rwa [hlower] at hword

/-- **Of the whole numbers `0` and `1` read as truth values.** -/
theorem readBool?_integerText_eq_some_iff {n : Int} (h : InRange n) {b : Bool} :
    readBool? (integerText n) = some b ↔ n = if b then 1 else 0 := by
  constructor
  · intro hread
    have hword := mem_wordsFor_of_isNumeral (fun _ => isNumeral_of_mem_integerText) hread
    have hvalue : ∀ b, ∀ w ∈ wordsFor b, ∀ m ∈ readInteger? w.toList, m = if b then 1 else 0 := by
      decide
    refine hvalue b _ hword n ?_
    rw [String.toList_ofList]
    exact readInteger?_integerText h
  · rintro rfl
    cases b <;> rfl

/-- **A double that shows its fraction is no truth value.** -/
theorem readBool?_text {l : FloatLayout} (hl : l.Readable) (hending : l.wholeEnding = ['.', '0'])
    (x : Binary64) : readBool? (l.text x) = none := by
  cases x with
  | nan => rfl
  | infinite negative => cases negative <;> rfl
  | finite negative rank rank_lt =>
    let x : Binary64 := .finite negative rank rank_lt
    have hnumeral : ∀ c ∈ l.text x, isNumeral c = true := fun _ => isNumeral_of_mem_text hl rfl
    refine Option.eq_none_iff_forall_ne_some.mpr fun b hb => ?_
    have hword := mem_wordsFor_of_isNumeral hnumeral hb
    -- the words that are numbers have no mark
    have hwords : ∀ b, ∀ w ∈ wordsFor b, w.toList.all isNumeral = true →
        '.' ∉ w.toList ∧ 'e' ∉ w.toList := by decide
    have hall : (String.ofList (l.text x)).toList.all isNumeral = true := by
      rw [String.toList_ofList]
      exact List.all_eq_true.mpr hnumeral
    obtain ⟨hpoint, hmark⟩ := hwords b _ hword hall
    rw [String.toList_ofList] at hpoint hmark
    exact (mark_mem_text hending (x := x) rfl).elim hpoint hmark

end DeclaredEnv
