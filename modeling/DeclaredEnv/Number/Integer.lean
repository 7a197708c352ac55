/-!
# Whole numbers in decimal digits

* `readSign` — an optional leading `+` or `-`.
* `readInteger?` — a whole number of 64 bits from its digits: an optional sign, then ASCII digits.
* `integerText` — the digits of a whole number, with `-` in front of a negative one.

Principal result: `readInteger?_integerText` — every 64-bit number reads back from its text.
-/

namespace DeclaredEnv.Number

/-- Whether a leading sign is `-`, and what follows the sign.  Without a sign the text is kept. -/
def readSign : List Char → Bool × List Char
  | '-' :: rest => (true, rest)
  | '+' :: rest => (false, rest)
  | s => (false, s)

/-- The text is one ASCII digit or more. -/
def isDigits (s : List Char) : Bool := !s.isEmpty && s.all Char.isDigit

/-- The number that decimal digits write. -/
def digitsValue (s : List Char) : Nat := Nat.ofDigitChars 10 s 0

/-- The number lies in the range of signed 64-bit words. -/
def InRange (n : Int) : Prop := -9223372036854775808 ≤ n ∧ n < 9223372036854775808

instance (n : Int) : Decidable (InRange n) := inferInstanceAs (Decidable (_ ∧ _))

/-- A whole number in decimal digits with an optional sign, if it fits in 64 bits. -/
def readInteger? (s : List Char) : Option Int :=
  let (negative, digits) := readSign s
  if isDigits digits then
    let n : Int := if negative then -(digitsValue digits : Int) else digitsValue digits
    if InRange n then some n else none
  else none

/-- The digits of a natural number. -/
def naturalText (n : Nat) : List Char := Nat.toDigits 10 n

/-- The digits of a whole number, with `-` in front of a negative one. -/
def integerText (n : Int) : List Char :=
  if n < 0 then '-' :: naturalText n.natAbs else naturalText n.natAbs

theorem isDigits_naturalText (n : Nat) : isDigits (naturalText n) = true := by
  have hne : naturalText n ≠ [] := Nat.toDigits_ne_nil
  have hall : ∀ c ∈ naturalText n, c.isDigit = true := fun c hc =>
    Nat.isDigit_of_mem_toDigits (by decide) (by decide) hc
  simp [isDigits, hne, List.all_eq_true.mpr hall]

theorem digitsValue_naturalText (n : Nat) : digitsValue (naturalText n) = n :=
  Nat.ofDigitChars_toDigits (by decide) (by decide)

/-- A text of digits has no sign to take off. -/
theorem readSign_of_isDigits {s : List Char} (h : isDigits s = true) : readSign s = (false, s) := by
  cases s with
  | nil => rfl
  | cons c rest =>
    have hc : c.isDigit = true := by
      simp only [isDigits, List.isEmpty_cons, Bool.not_false, List.all_cons, Bool.true_and,
        Bool.and_eq_true] at h
      exact h.1
    unfold readSign
    split
    · next heq => cases heq; exact absurd hc (by decide)
    · next heq => cases heq; exact absurd hc (by decide)
    · rfl

theorem readInteger?_integerText {n : Int} (h : InRange n) :
    readInteger? (integerText n) = some n := by
  unfold integerText
  split
  · next hn =>
    have hv : (-(n.natAbs : Int)) = n := by omega
    simp only [readInteger?, readSign, isDigits_naturalText, digitsValue_naturalText, if_true, hv,
      if_pos h]
  · next hn =>
    have hv : (n.natAbs : Int) = n := by omega
    simp only [readInteger?, readSign_of_isDigits (isDigits_naturalText _), isDigits_naturalText,
      digitsValue_naturalText, if_true, hv, if_pos h, Bool.false_eq_true, if_false]

end DeclaredEnv.Number
