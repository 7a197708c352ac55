import DeclaredEnv.Proofs.Decimal

/-!
# Doubles read back from their texts

A layout writes the digits that were chosen around a point or with an exponent.  Neither changes the
number, so every double reads back, whichever layout wrote it.

* `FloatLayout.Readable` — a layout that adds no more than a fraction of zero and a plus sign.
* `isNumeral` — the characters of which the texts of finite doubles consist.

Principal results: `readDecimal?_decimalText` — a decimal reads as one of the same rank.
`readFloat?_text` — every double reads back from its text.  `isNumeral_of_mem_text`,
`mark_mem_text` — a finite double has digits, signs and marks only, and one that shows fractions has
a mark that no whole number has.
-/

namespace DeclaredEnv.Number

theorem naturalText_ne_nil (n : Nat) : naturalText n ≠ [] := Nat.toDigits_ne_nil

/-! ## Exponents -/

theorem readExponent?_integerText (n : Int) : readExponent? (integerText n) = some n := by
  unfold integerText
  split
  · rename_i hn
    have hv : (-(n.natAbs : Int)) = n := by omega
    simp only [readExponent?, readSign, isDigits_naturalText, digitsValue_naturalText, if_true, hv]
  · rename_i hn
    have hv : (n.natAbs : Int) = n := by omega
    simp only [readExponent?, readSign_of_isDigits (isDigits_naturalText _), isDigits_naturalText,
      digitsValue_naturalText, if_true, hv, Bool.false_eq_true, if_false]

/-- What may stand before a positive exponent: nothing, or a plus sign. -/
def MarksPositive (mark : List Char) : Prop := mark = [] ∨ mark = ['+']

/-- An exponent as a layout writes it. -/
def exponentPart (mark : List Char) (n : Int) : List Char :=
  (if 0 < n then mark else []) ++ integerText n

theorem readExponent?_exponentPart {mark : List Char} (hmark : MarksPositive mark) (n : Int) :
    readExponent? (exponentPart mark n) = some n := by
  unfold exponentPart
  by_cases hn : 0 < n
  · rw [if_pos hn]
    rcases hmark with rfl | rfl
    · exact readExponent?_integerText n
    · have hv : (n.natAbs : Int) = n := by omega
      have htext : integerText n = naturalText n.natAbs := if_neg (by omega)
      show readExponent? ('+' :: integerText n) = some n
      simp only [readExponent?, readSign, htext, isDigits_naturalText, digitsValue_naturalText,
        if_true, hv, Bool.false_eq_true, if_false]
  · rw [if_neg hn, List.nil_append]
    exact readExponent?_integerText n

/-! ## Scientific notation -/

section Reading

variable {whole fraction tail : List Char} {e : Int}

theorem readDecimal?_of_exponent (hne : whole ≠ []) (hwhole : ∀ c ∈ whole, c.isDigit = true)
    (he : readExponent? tail = some e) :
    readDecimal? (whole ++ 'e' :: tail) = some ⟨digitsValue whole, e⟩ := by
  obtain ⟨htake, hdrop⟩ := span_append hwhole ('e' :: tail) (forall_mem_head?_cons rfl _)
  simp [readDecimal?, htake, hdrop, hne, he]

theorem readDecimal?_of_point_exponent (hne : whole ≠ [])
    (hwhole : ∀ c ∈ whole, c.isDigit = true) (hfraction : ∀ c ∈ fraction, c.isDigit = true)
    (he : readExponent? tail = some e) :
    readDecimal? (whole ++ '.' :: (fraction ++ 'e' :: tail)) =
      some ⟨digitsValue (whole ++ fraction), e - fraction.length⟩ := by
  obtain ⟨htake, hdrop⟩ :=
    span_append hwhole ('.' :: (fraction ++ 'e' :: tail)) (forall_mem_head?_cons rfl _)
  obtain ⟨htake', hdrop'⟩ := span_append hfraction ('e' :: tail) (forall_mem_head?_cons rfl _)
  simp [readDecimal?, htake, hdrop, htake', hdrop', hne, he]

end Reading

/-- One digit before the point, and the others after it if there are any. -/
theorem scientificText_cons (mark : List Char) (d : Char) (rest : List Char) (e : Int) :
    scientificText mark (d :: rest) e =
      if rest = [] then [d] ++ 'e' :: exponentPart mark e
      else [d] ++ '.' :: (rest ++ 'e' :: exponentPart mark e) := by
  cases rest <;> simp [scientificText, exponentPart]

/-- **Scientific notation reads as the same decimal.** -/
theorem readDecimal?_scientificText {mark : List Char} (hmark : MarksPositive mark) (c : Nat)
    (e : Int) : readDecimal? (scientificText mark (naturalText c) (⟨c, e⟩ : Decimal).leading) =
      some ⟨c, e⟩ := by
  have hdigits : ∀ ch ∈ naturalText c, ch.isDigit = true := fun _ => isDigit_of_mem_naturalText
  have hvalue : digitsValue (naturalText c) = c := digitsValue_naturalText c
  obtain ⟨d, rest, htext⟩ := List.exists_cons_of_ne_nil (naturalText_ne_nil c)
  have hexponent := readExponent?_exponentPart hmark (⟨c, e⟩ : Decimal).leading
  rw [htext] at hdigits hvalue ⊢
  obtain ⟨hd, hrest⟩ := List.forall_mem_cons.mp hdigits
  have hd' : ∀ ch ∈ [d], ch.isDigit = true := List.forall_mem_singleton.mpr hd
  have hleading : (⟨c, e⟩ : Decimal).leading - rest.length = e := by
    show ((naturalText c).length : Int) - 1 + e - rest.length = e
    rw [htext, List.length_cons]
    omega
  rw [scientificText_cons]
  split
  · rename_i hnil
    subst hnil
    rw [readDecimal?_of_exponent (List.cons_ne_nil d []) hd' hexponent, hvalue]
    rw [List.length_nil, Int.natCast_zero, Int.sub_zero] at hleading
    rw [hleading]
  · rw [readDecimal?_of_point_exponent (List.cons_ne_nil d []) hd' hrest hexponent, hleading]
    show some (Decimal.mk (digitsValue (d :: rest)) e) = some ⟨c, e⟩
    rw [hvalue]

/-! ## Layouts -/

/-- A layout that adds no more than a fraction of zero and a plus sign. -/
structure FloatLayout.Readable (l : FloatLayout) : Prop where
  ending : EndsWhole l.wholeEnding
  mark : MarksPositive l.exponentSign

variable {l : FloatLayout}

/-- **A decimal reads back from a layout as one of the same rank.** -/
theorem readDecimal?_decimalText (hl : l.Readable) (d : Decimal) :
    ∃ d', readDecimal? (l.decimalText d) = some d' ∧ d'.rank = d.rank := by
  unfold FloatLayout.decimalText
  simp only
  split
  · exact readDecimal?_positionalText hl.ending d.coefficient d.exponent
  · exact ⟨d, readDecimal?_scientificText hl.mark d.coefficient d.exponent, rfl⟩

/-- What reads as a decimal without sign has none. -/
theorem readSign_of_readDecimal? {s : List Char} {d : Decimal} (h : readDecimal? s = some d) :
    readSign s = (false, s) := by
  unfold readSign
  split
  · cases h
  · cases h
  · rfl

/-- **Every double reads back from its text.** -/
theorem readFloat?_text (hl : l.Readable) (x : Binary64) : readFloat? (l.text x) = some x := by
  cases x with
  | nan => rfl
  | infinite negative => cases negative <;> rfl
  | finite negative rank rank_lt =>
    obtain ⟨d, hread, hrank⟩ := readDecimal?_decimalText hl (shortest l.tie rank)
    have hd : d.rank = rank := hrank.trans (rank_shortest l.tie rank_lt)
    have hfinite : Binary64.ofRank negative d.rank = .finite negative rank rank_lt := by
      rw [hd, Binary64.ofRank, dif_pos rank_lt]
    refine Eq.trans ?_ (congrArg some hfinite)
    cases negative with
    | true =>
      show readFloat? ('-' :: l.decimalText (shortest l.tie rank)) = _
      simp only [readFloat?, readSign, hread]
    | false =>
      show readFloat? (l.decimalText (shortest l.tie rank)) = _
      simp only [readFloat?, readSign_of_readDecimal? hread, hread]

/-! ## The characters of a double -/

/-- A digit, a sign, a point or the mark of an exponent. -/
def isNumeral (c : Char) : Bool := c.isDigit || ['-', '+', '.', 'e'].contains c

theorem isNumeral_iff {c : Char} : isNumeral c = true ↔
    c.isDigit = true ∨ c = '-' ∨ c = '+' ∨ c = '.' ∨ c = 'e' := by
  simp [isNumeral]

theorem isNumeral_of_isDigit {c : Char} (h : c.isDigit = true) : isNumeral c = true :=
  isNumeral_iff.mpr (.inl h)

theorem isNumeral_of_mem_integerText {n : Int} {c : Char} (h : c ∈ integerText n) :
    isNumeral c = true := by
  unfold integerText at h
  split at h
  · rcases List.mem_cons.mp h with rfl | h
    · rfl
    · exact isNumeral_of_isDigit (isDigit_of_mem_naturalText h)
  · exact isNumeral_of_isDigit (isDigit_of_mem_naturalText h)

theorem isNumeral_of_mem_positionalText {ending digits : List Char} (hending : EndsWhole ending)
    (hdigits : ∀ c ∈ digits, c.isDigit = true) {e : Int} {c : Char}
    (h : c ∈ positionalText ending digits e) : isNumeral c = true := by
  have hdigit {c : Char} (hc : c ∈ digits) : isNumeral c = true :=
    isNumeral_of_isDigit (hdigits c hc)
  have hzero {k : Nat} {c : Char} (hc : c ∈ List.replicate k '0') : isNumeral c = true :=
    isNumeral_of_isDigit (isDigit_of_mem_zeros hc)
  unfold positionalText at h
  split at h
  · rcases List.mem_append.mp h with h | h
    · exact (List.mem_append.mp h).elim hdigit hzero
    · rcases hending with rfl | rfl
      · cases h
      · rw [List.mem_cons, List.mem_singleton] at h
        rcases h with rfl | rfl <;> rfl
  · simp only at h
    split at h
    · rw [List.mem_append, List.mem_cons] at h
      rcases h with h | rfl | h
      · exact hdigit (List.mem_of_mem_take h)
      · rfl
      · exact hdigit (List.mem_of_mem_drop h)
    · rw [List.mem_append, List.mem_cons, List.mem_cons] at h
      rcases h with (rfl | rfl | h) | h
      · rfl
      · rfl
      · exact hzero h
      · exact hdigit h

theorem isNumeral_of_mem_exponentPart {mark : List Char} (hmark : MarksPositive mark) {n : Int}
    {c : Char} (h : c ∈ exponentPart mark n) : isNumeral c = true := by
  rcases List.mem_append.mp h with h | h
  · split at h
    · rcases hmark with rfl | rfl
      · cases h
      · rw [List.mem_singleton.mp h]
        rfl
    · cases h
  · exact isNumeral_of_mem_integerText h

theorem isNumeral_of_mem_scientificText {mark digits : List Char} (hmark : MarksPositive mark)
    (hne : digits ≠ []) (hdigits : ∀ c ∈ digits, c.isDigit = true) {e : Int} {c : Char}
    (h : c ∈ scientificText mark digits e) : isNumeral c = true := by
  obtain ⟨d, rest, rfl⟩ := List.exists_cons_of_ne_nil hne
  obtain ⟨hd, hrest⟩ := List.forall_mem_cons.mp hdigits
  rw [scientificText_cons] at h
  have hexponent : c ∈ 'e' :: exponentPart mark e → isNumeral c = true := by
    intro hc
    rcases List.mem_cons.mp hc with rfl | hc
    · rfl
    · exact isNumeral_of_mem_exponentPart hmark hc
  split at h
  · rcases List.mem_append.mp h with h | h
    · rw [List.mem_singleton.mp h]
      exact isNumeral_of_isDigit hd
    · exact hexponent h
  · rw [List.mem_append, List.mem_singleton, List.mem_cons, List.mem_append] at h
    rcases h with rfl | rfl | h | h
    · exact isNumeral_of_isDigit hd
    · rfl
    · exact isNumeral_of_isDigit (hrest c h)
    · exact hexponent h

theorem isNumeral_of_mem_decimalText (hl : l.Readable) {d : Decimal} {c : Char}
    (h : c ∈ l.decimalText d) : isNumeral c = true := by
  have hdigits : ∀ ch ∈ naturalText d.coefficient, ch.isDigit = true :=
    fun _ => isDigit_of_mem_naturalText
  unfold FloatLayout.decimalText at h
  simp only at h
  split at h
  · exact isNumeral_of_mem_positionalText hl.ending hdigits h
  · exact isNumeral_of_mem_scientificText hl.mark (naturalText_ne_nil _) hdigits h

theorem isNumeral_of_mem_text (hl : l.Readable) {x : Binary64} (hx : x.isFinite = true) {c : Char}
    (h : c ∈ l.text x) : isNumeral c = true := by
  cases x with
  | infinite | nan => cases hx
  | finite negative rank rank_lt =>
    rcases List.mem_append.mp h with h | h
    · split at h
      · rw [List.mem_singleton.mp h]
        rfl
      · cases h
    · exact isNumeral_of_mem_decimalText hl h

theorem point_mem_positionalText (digits : List Char) (e : Int) :
    '.' ∈ positionalText ['.', '0'] digits e := by
  unfold positionalText
  split
  · simp
  · simp only
    split <;> simp

/-- **A layout that shows fractions writes a point or the mark of an exponent.** -/
theorem mark_mem_text (hl : l.wholeEnding = ['.', '0']) {x : Binary64} (hx : x.isFinite = true) :
    '.' ∈ l.text x ∨ 'e' ∈ l.text x := by
  cases x with
  | infinite | nan => cases hx
  | finite negative rank rank_lt =>
    have hdecimal (d : Decimal) : '.' ∈ l.decimalText d ∨ 'e' ∈ l.decimalText d := by
      unfold FloatLayout.decimalText
      simp only
      split
      · rw [hl]
        exact .inl (point_mem_positionalText _ _)
      · obtain ⟨digit, rest, htext⟩ := List.exists_cons_of_ne_nil (naturalText_ne_nil d.coefficient)
        rw [htext, scientificText_cons]
        right
        split <;> simp
    exact (hdecimal (shortest l.tie rank)).imp (List.mem_append_right _) (List.mem_append_right _)

end DeclaredEnv.Number
