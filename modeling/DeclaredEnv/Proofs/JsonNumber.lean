import DeclaredEnv.Json.Reader
import DeclaredEnv.Proofs.FloatText

/-!
# Numbers in JSON text

A number of JSON has no needless zero in front and a digit on either side of a point.

* `Decimal.Normal` — a decimal that has the exponent zero if it is zero.
* `Json.Fractional` — a whole number without sign, with a fraction or an exponent behind it.
* `Json.Ends`, `Json.StartsNumber` — a text does not continue a number, and begins as numbers do.

Principal results: `normal_shortest` — the digits chosen for a double are normal.
`Json.fractional_decimalText` — so they are written with a fraction or an exponent, as JSON has it.
`Json.readNumber?_integerText`, `Json.readNumber?_floatLayout` — a number reads back from its text,
up to what cannot continue it.
-/

namespace DeclaredEnv.Number

/-! ## The first digit -/

/-- A number that is not zero is written without a zero in front. -/
theorem head?_naturalText {n : Nat} (h : 0 < n) : (naturalText n).head? ≠ some '0' := by
  induction n using Nat.strongRecOn with
  | ind n ih =>
    by_cases hsmall : n < 10
    · have hdigits : ∀ d < 10, 0 < d → (naturalText d).head? ≠ some '0' := by decide
      exact hdigits n hsmall h
    · have hdiv : 0 < n / 10 := by omega
      have htext : naturalText n = naturalText (n / 10) ++ naturalText (n % 10) := by
        rw [naturalText, naturalText, naturalText,
          Nat.toDigits_append_toDigits (by decide) hdiv (Nat.mod_lt _ (by decide)),
          Nat.div_add_mod]
      obtain ⟨d, rest, hcons⟩ := List.exists_cons_of_ne_nil (naturalText_ne_nil (n / 10))
      have hhead := ih (n / 10) (by omega) hdiv
      rw [hcons] at hhead
      rw [htext, hcons]
      exact hhead

/-- A decimal has the exponent zero if it is zero. -/
def Decimal.Normal (d : Decimal) : Prop := d.coefficient = 0 → d.exponent = 0

theorem coefficient_stripZeros_ne_zero (fuel : Nat) {d : Decimal} (h : d.coefficient ≠ 0) :
    (stripZeros fuel d).coefficient ≠ 0 := by
  induction fuel generalizing d with
  | zero => exact h
  | succ fuel ih =>
    unfold stripZeros
    split
    · rename_i hzero
      refine ih ?_
      show d.coefficient / 10 ≠ 0
      omega
    · exact h

theorem normal_normal (d : Decimal) : d.normal.Normal := by
  unfold Decimal.normal
  split
  · exact fun _ => rfl
  · rename_i hne
    exact fun hzero => absurd hzero (coefficient_stripZeros_ne_zero _ hne)

/-- **The digits chosen for a double are normal.** -/
theorem normal_shortest (tie : Tie) (rank : Nat) : (shortest tie rank).Normal := by
  unfold shortest
  split
  · exact fun _ => rfl
  · exact normal_normal _

end DeclaredEnv.Number

namespace DeclaredEnv.Json

open Number

/-! ## The form of numbers -/

theorem isWhole_of_head? {s : List Char} (hs : isDigits s = true) (h : s.head? ≠ some '0') :
    isWhole s = true := by
  simp [isWhole, hs, h]

theorem isWhole_naturalText (n : Nat) : isWhole (naturalText n) = true := by
  rcases Nat.eq_zero_or_pos n with rfl | hn
  · rfl
  · exact isWhole_of_head? (isDigits_naturalText n) (head?_naturalText hn)

/-- One digit is a whole number, be it zero. -/
theorem isWhole_singleton {d : Char} (h : d.isDigit = true) : isWhole [d] = true := by
  by_cases hd : d = '0'
  · rw [hd]
    rfl
  · exact isWhole_of_head? (by simp [isDigits, h]) (by simpa using hd)

theorem isExponent_exponentPart {mark : List Char} (hmark : MarksPositive mark) (n : Int) :
    isExponent ('e' :: exponentPart mark n) = true := by
  simp [isExponent, readExponent?_exponentPart hmark]

theorem isTail_of_fraction {fraction exponent : List Char} (hne : fraction ≠ [])
    (hdigits : ∀ c ∈ fraction, c.isDigit = true) (hexponent : isExponent exponent = true)
    (hstop : ∀ c ∈ exponent.head?, c.isDigit = false) :
    isTail ('.' :: (fraction ++ exponent)) = true := by
  obtain ⟨htake, hdrop⟩ := span_append hdigits exponent hstop
  simp [isTail, htake, hdrop, hne, hexponent]

/-- A whole number without sign, with a fraction or an exponent behind it. -/
inductive Fractional : List Char → Prop where
  | intro {whole tail : List Char} (form : isWhole whole = true) (more : isTail tail = true)
      (mark : tail.head? = some '.' ∨ tail.head? = some 'e') : Fractional (whole ++ tail)

theorem fractional_of_point {whole fraction : List Char} (form : isWhole whole = true)
    (hne : fraction ≠ []) (hdigits : ∀ c ∈ fraction, c.isDigit = true) :
    Fractional (whole ++ '.' :: fraction) := by
  have hmore : isTail ('.' :: (fraction ++ [])) = true := isTail_of_fraction hne hdigits rfl nofun
  rw [List.append_nil] at hmore
  exact .intro form hmore (.inl rfl)

/-- Digits that do not begin with a zero have a whole number in front of every point. -/
theorem isWhole_of_front {front : List Char} (back : List Char) (hfront : front ≠ [])
    (hdigits : ∀ c ∈ front, c.isDigit = true) (h : (front ++ back).head? ≠ some '0') :
    isWhole front = true := by
  obtain ⟨d, rest, rfl⟩ := List.exists_cons_of_ne_nil hfront
  refine isWhole_of_head? ?_ h
  rw [isDigits, List.all_eq_true.mpr hdigits]
  rfl

/-- A double in positional notation has a fraction. -/
theorem fractional_positionalText {c : Nat} {e : Int} (h : (⟨c, e⟩ : Decimal).Normal) :
    Fractional (positionalText ['.', '0'] (naturalText c) e) := by
  have hdigits : ∀ ch ∈ naturalText c, ch.isDigit = true := fun _ => isDigit_of_mem_naturalText
  unfold positionalText
  split
  · -- a whole number, with zeros behind its digits
    refine fractional_of_point ?_ (List.cons_ne_nil _ _) (List.forall_mem_singleton.mpr rfl)
    rcases Nat.eq_zero_or_pos c with rfl | hc
    · have hexponent : e = 0 := h rfl
      rw [hexponent]
      rfl
    · refine isWhole_of_front [] (List.append_ne_nil_of_left_ne_nil (naturalText_ne_nil c) _)
        (fun ch hch => (List.mem_append.mp hch).elim (hdigits ch) isDigit_of_mem_zeros) ?_
      obtain ⟨d, rest, hcons⟩ := List.exists_cons_of_ne_nil (naturalText_ne_nil c)
      have hhead := head?_naturalText hc
      rw [hcons] at hhead ⊢
      exact hhead
  · rename_i he
    simp only
    split
    · -- the point stands between the digits
      rename_i hplaces
      let places := (naturalText c).length - (-e).toNat
      have hc : 0 < c := Nat.pos_of_ne_zero fun hzero => by
        have hexponent : e = 0 := h hzero
        omega
      have hfront : isWhole ((naturalText c).take places) = true := by
        refine isWhole_of_front ((naturalText c).drop places) ?_
          (fun ch hch => hdigits ch (List.mem_of_mem_take hch)) ?_
        · exact List.ne_nil_of_length_pos (by rw [List.length_take]; omega)
        · rw [List.take_append_drop]
          exact head?_naturalText hc
      refine fractional_of_point hfront ?_ fun ch hch => hdigits ch (List.mem_of_mem_drop hch)
      exact List.ne_nil_of_length_pos (by rw [List.length_drop]; omega)
    · -- all digits stand behind the point
      have hzero : isWhole ['0'] = true := rfl
      exact fractional_of_point hzero
        (List.append_ne_nil_of_right_ne_nil _ (naturalText_ne_nil c)) fun ch hch =>
          (List.mem_append.mp hch).elim isDigit_of_mem_zeros (hdigits ch)

/-- A double in scientific notation has an exponent. -/
theorem fractional_scientificText {mark : List Char} (hmark : MarksPositive mark) (c : Nat)
    (e : Int) : Fractional (scientificText mark (naturalText c) e) := by
  have hdigits : ∀ ch ∈ naturalText c, ch.isDigit = true := fun _ => isDigit_of_mem_naturalText
  obtain ⟨d, rest, hcons⟩ := List.exists_cons_of_ne_nil (naturalText_ne_nil c)
  rw [hcons] at hdigits ⊢
  obtain ⟨hd, hrest⟩ := List.forall_mem_cons.mp hdigits
  have hexponent := isExponent_exponentPart hmark e
  rw [scientificText_cons]
  split
  · exact .intro (isWhole_singleton hd) hexponent (.inr rfl)
  · rename_i hne
    exact .intro (isWhole_singleton hd) (isTail_of_fraction hne hrest hexponent
      (forall_mem_head?_cons rfl _)) (.inl rfl)

/-- **The digits of a double are written with a fraction or an exponent.** -/
theorem fractional_decimalText {d : Decimal} (h : d.Normal) :
    Fractional (floatLayout.decimalText d) := by
  unfold FloatLayout.decimalText
  simp only
  split
  · exact fractional_positionalText h
  · exact fractional_scientificText (.inr rfl) d.coefficient d.leading

/-! ## Numbers read back -/

theorem isDigit_of_isWhole {s : List Char} (h : isWhole s = true) : ∀ c ∈ s, c.isDigit = true := by
  rcases Bool.or_eq_true_iff.mp h with h | h
  · rw [eq_of_beq h]
    exact List.forall_mem_singleton.mpr rfl
  · exact List.all_eq_true.mp (Bool.and_eq_true_iff.mp (Bool.and_eq_true_iff.mp h).1).2

/-- What a whole number without a needless zero reads as. -/
theorem unsignedOf?_of_isWhole {whole : List Char} (form : isWhole whole = true) (negative : Bool)
    (s : List Char) : unsignedOf? negative s whole =
      some (.int (if negative then -(digitsValue whole : Int) else digitsValue whole)) := by
  obtain ⟨htake, hdrop⟩ := span_append (isDigit_of_isWhole form) [] nofun
  rw [List.append_nil] at htake hdrop
  simp [unsignedOf?, htake, hdrop, form, isTail, isExponent]

/-- What a whole number with a fraction or an exponent behind it reads as. -/
theorem unsignedOf?_of_fractional {unsigned : List Char} (h : Fractional unsigned) (negative : Bool)
    {s : List Char} {x : Binary64} (hread : readFloat? s = some x) (hx : x.isFinite = true) :
    unsignedOf? negative s unsigned = some (.float x) := by
  obtain @⟨whole, tail, form, more, mark⟩ := h
  have hstop : ∀ c ∈ tail.head?, c.isDigit = false := by
    rcases mark with hmark | hmark <;>
    · rw [hmark]
      rintro c hc
      cases hc
      rfl
  have hne : tail ≠ [] := by
    rintro rfl
    simp at mark
  obtain ⟨htake, hdrop⟩ := span_append (isDigit_of_isWhole form) tail hstop
  simp [unsignedOf?, htake, hdrop, form, more, hne, hread, hx]

theorem Fractional.exists_cons {s : List Char} (h : Fractional s) :
    ∃ d rest, s = d :: rest ∧ d.isDigit = true := by
  obtain @⟨whole, tail, form, -, -⟩ := h
  cases whole with
  | nil => cases form
  | cons d rest => exact ⟨d, rest ++ tail, rfl, isDigit_of_isWhole form d List.mem_cons_self⟩

/-- A text that begins with a digit has no sign. -/
theorem numberOf?_of_isDigit {d : Char} (hd : d.isDigit = true) (rest : List Char) :
    numberOf? (d :: rest) = unsignedOf? false (d :: rest) (d :: rest) := by
  unfold numberOf?
  split
  · rename_i heq
    cases heq
    exact absurd hd (by decide)
  · rfl

/-- **A whole number is read from its text.** -/
theorem numberOf?_integerText (n : Int) : numberOf? (integerText n) = some (.int n) := by
  unfold integerText
  have hform := isWhole_naturalText n.natAbs
  split
  · have hv : -(n.natAbs : Int) = n := by omega
    show unsignedOf? true _ _ = _
    rw [unsignedOf?_of_isWhole hform, digitsValue_naturalText, if_pos rfl, hv]
  · have hv : (n.natAbs : Int) = n := by omega
    have hread := unsignedOf?_of_isWhole hform false (naturalText n.natAbs)
    rw [digitsValue_naturalText, if_neg Bool.false_ne_true, hv] at hread
    obtain ⟨d, rest, hcons⟩ := List.exists_cons_of_ne_nil (naturalText_ne_nil n.natAbs)
    rw [hcons] at hread hform ⊢
    rw [numberOf?_of_isDigit (isDigit_of_isWhole hform d List.mem_cons_self), hread]

theorem readable_floatLayout : floatLayout.Readable := ⟨.inr rfl, .inr rfl⟩

/-- **A double is read from its text.** -/
theorem numberOf?_floatLayout {x : Binary64} (hx : x.isFinite = true) :
    numberOf? (floatLayout.text x) = some (.float x) := by
  have hread := readFloat?_text readable_floatLayout x
  cases x with
  | infinite | nan => cases hx
  | finite negative rank rank_lt =>
    have hform := fractional_decimalText (normal_shortest floatLayout.tie rank)
    cases negative with
    | true => exact unsignedOf?_of_fractional hform true hread rfl
    | false =>
      obtain ⟨d, rest, hcons, hd⟩ := hform.exists_cons
      have hnumber := unsignedOf?_of_fractional hform false hread rfl
      show numberOf? (floatLayout.decimalText (shortest floatLayout.tie rank)) = _
      rw [show floatLayout.text (.finite false rank rank_lt) =
        floatLayout.decimalText (shortest floatLayout.tie rank) from rfl, hcons] at hnumber
      rw [hcons, numberOf?_of_isDigit hd, hnumber]

/-! ## Numbers at the front of a text -/

/-- The text does not go on with a character of numbers. -/
def Ends (rest : List Char) : Prop := ∀ c ∈ rest.head?, isNumberPart c = false

theorem ends_nil : Ends [] := fun _ hc => nomatch hc

theorem ends_cons {c : Char} (h : isNumberPart c = false) (rest : List Char) : Ends (c :: rest) :=
  forall_mem_head?_cons h rest

theorem isNumberPart_of_isNumeral {c : Char} (h : isNumeral c = true) : isNumberPart c = true := by
  rcases isNumeral_iff.mp h with hdigit | rfl | rfl | rfl | rfl
  · rw [isNumberPart, hdigit, Bool.true_or]
  all_goals rfl

/-- A text begins as numbers do. -/
def StartsNumber (s : List Char) : Prop := ∃ c rest, s = c :: rest ∧ (c = '-' ∨ c.isDigit = true)

theorem startsNumber_integerText (n : Int) : StartsNumber (integerText n) := by
  unfold integerText
  split
  · exact ⟨_, _, rfl, .inl rfl⟩
  · obtain ⟨d, rest, hcons⟩ := List.exists_cons_of_ne_nil (naturalText_ne_nil n.natAbs)
    refine ⟨d, rest, hcons, .inr (isDigit_of_mem_naturalText (n := n.natAbs) ?_)⟩
    rw [hcons]
    exact List.mem_cons_self

theorem startsNumber_floatLayout {x : Binary64} (hx : x.isFinite = true) :
    StartsNumber (floatLayout.text x) := by
  cases x with
  | infinite | nan => cases hx
  | finite negative rank rank_lt =>
    cases negative with
    | true => exact ⟨_, _, rfl, .inl rfl⟩
    | false =>
      obtain ⟨d, rest, hcons, hd⟩ :=
        (fractional_decimalText (normal_shortest floatLayout.tie rank)).exists_cons
      exact ⟨d, rest, hcons, .inr hd⟩

theorem readNumber?_append {s rest : List Char} {j : Json} (h : numberOf? s = some j)
    (hs : ∀ c ∈ s, isNumeral c = true) (hrest : Ends rest) :
    readNumber? (s ++ rest) = some (j, rest) := by
  obtain ⟨htake, hdrop⟩ :=
    span_append (fun c hc => isNumberPart_of_isNumeral (hs c hc)) rest hrest
  rw [readNumber?, htake, hdrop, h, Option.map_some]

/-- **A whole number reads back from its text.** -/
theorem readNumber?_integerText (n : Int) {rest : List Char} (h : Ends rest) :
    readNumber? (integerText n ++ rest) = some (.int n, rest) :=
  readNumber?_append (numberOf?_integerText n) (fun _ => isNumeral_of_mem_integerText) h

/-- **A double reads back from its text.** -/
theorem readNumber?_floatLayout {x : Binary64} (hx : x.isFinite = true) {rest : List Char}
    (h : Ends rest) : readNumber? (floatLayout.text x ++ rest) = some (.float x, rest) :=
  readNumber?_append (numberOf?_floatLayout hx)
    (fun _ => isNumeral_of_mem_text readable_floatLayout hx) h

end DeclaredEnv.Json
