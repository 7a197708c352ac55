import DeclaredEnv.Text.LetterCase

/-!
# Texts in small letters

* `CaseRun.points`, `capitals`, `smalls` — the code points that have a small form, and these forms.
* `bits` — a set of code points as one number, so that two sets are compared in one step.
* `Cuts` — a character that the rule for the end of a word does not look beyond.

Principal results: `lower_of_mem_lower` — a small form has no small form but itself.
`lowercase_lowercase` — so a text in small letters stays as it is.  `lowercase_append_cons` — a
character that cuts parts a text: the small letters on one side do not depend on the other.
-/

namespace DeclaredEnv.Text

/-! ## The table as two sets -/

/-- The code points of a run. -/
def CaseRun.points (r : CaseRun) : List Nat :=
  (List.range ((r.last - r.first) / r.stride + 1)).map fun i => r.first + i * r.stride

/-- The code points that have another small form. -/
def capitals : List Nat := lowerRuns.flatMap CaseRun.points

/-- The small forms of these, as code points. -/
def smalls : List Nat :=
  lowerRuns.flatMap fun r => r.points.map fun n : Nat => ((n : Int) + r.shift).toNat

/-- The number whose binary digits say which numbers are in the list. -/
def bits (ns : List Nat) : Nat := ns.foldr (fun n m => Nat.pow 2 n ||| m) 0

theorem testBit_bits {ns : List Nat} {n : Nat} : (bits ns).testBit n = true ↔ n ∈ ns := by
  induction ns with
  | nil => simp [bits]
  | cons m ns ih =>
    have hcons : bits (m :: ns) = 2 ^ m ||| bits ns := rfl
    rw [hcons, Nat.testBit_or, Nat.testBit_two_pow, Bool.or_eq_true, decide_eq_true_eq, ih,
      List.mem_cons, eq_comm]

theorem not_mem_of_bits_and {ms ns : List Nat} (h : bits ms &&& bits ns = 0) {n : Nat}
    (hn : n ∈ ns) : n ∉ ms := by
  intro hm
  have hbit : (bits ms &&& bits ns).testBit n = true := by
    rw [Nat.testBit_and, testBit_bits.mpr hm, testBit_bits.mpr hn, Bool.and_self]
  rw [h, Nat.zero_testBit] at hbit
  cases hbit

theorem CaseRun.mem_points {r : CaseRun} {n : Nat} (h : r.holds n = true) : n ∈ r.points := by
  simp only [holds, Bool.and_eq_true, decide_eq_true_eq, beq_iff_eq] at h
  obtain ⟨⟨hfirst, hlast⟩, hstride⟩ := h
  have hplace : (n - r.first) / r.stride ≤ (r.last - r.first) / r.stride :=
    Nat.div_le_div_right (by omega)
  refine List.mem_map.mpr ⟨(n - r.first) / r.stride, List.mem_range.mpr (by omega), ?_⟩
  have hdvd := Nat.div_mul_cancel (Nat.dvd_of_mod_eq_zero hstride)
  omega

theorem toNat_ofNat (n : Nat) : (Char.ofNat n).toNat = n ∨ (Char.ofNat n).toNat = 0 := by
  by_cases h : n.isValidChar
  · rw [Char.ofNat, dif_pos h]
    exact .inl rfl
  · rw [Char.ofNat, dif_neg h]
    exact .inr rfl

/-- The table has a character that it moves, and the one to which it moves it. -/
theorem mem_of_shifted? {c d : Char} (h : shifted? lowerRuns c = some d) :
    c.toNat ∈ capitals ∧ d.toNat ∈ 0 :: smalls := by
  obtain ⟨r, hr, rfl⟩ := Option.map_eq_some_iff.mp h
  have hmem : r ∈ lowerRuns := List.mem_of_find?_eq_some hr
  have hholds : r.holds c.toNat = true := by simpa using List.find?_some hr
  have hpoint : c.toNat ∈ r.points := CaseRun.mem_points hholds
  refine ⟨List.mem_flatMap.mpr ⟨r, hmem, hpoint⟩, ?_⟩
  rcases toNat_ofNat ((c.toNat : Int) + r.shift).toNat with heq | heq
  · rw [heq]
    exact List.mem_cons_of_mem _ (List.mem_flatMap.mpr ⟨r, hmem, List.mem_map_of_mem hpoint⟩)
  · rw [heq]
    exact List.mem_cons_self

/-- No small form is a capital letter, a separator of words or `İ`. -/
theorem bits_capitals_and_smalls :
    bits ('-'.toNat :: '_'.toNat :: 'İ'.toNat :: capitals) &&& bits (0 :: smalls) = 0 := by
  decide +kernel

/-! ## Small forms -/

theorem lower_of_shifted?_eq_none {c : Char} (hc : shifted? lowerRuns c = none) (hdot : c ≠ 'İ') :
    lower c = [c] := by
  rw [lower, if_neg hdot, hc, Option.getD_none]

theorem lower_of_not_mem {c : Char} (hc : c.toNat ∉ capitals) (hdot : c ≠ 'İ') : lower c = [c] := by
  refine lower_of_shifted?_eq_none ?_ hdot
  rw [Option.eq_none_iff_forall_ne_some]
  exact fun d hd => hc (mem_of_shifted? hd).1

/-- How a character stands in the small form of another one. -/
theorem lower_cases {c d : Char} (h : d ∈ lower c) :
    (c = 'İ' ∧ (d = 'i' ∨ d = '\u0307')) ∨ (d = c ∧ lower c = [c]) ∨ d.toNat ∈ 0 :: smalls := by
  by_cases hdot : c = 'İ'
  · subst hdot
    simp [lower] at h
    exact .inl ⟨rfl, h⟩
  · cases hc : shifted? lowerRuns c with
    | none =>
      have hsmall := lower_of_shifted?_eq_none hc hdot
      rw [hsmall, List.mem_singleton] at h
      exact .inr (.inl ⟨h, hsmall⟩)
    | some e =>
      rw [lower, if_neg hdot, hc, Option.getD_some, List.mem_singleton] at h
      subst h
      exact .inr (.inr (mem_of_shifted? hc).2)

/-- **A small form has no small form but itself.** -/
theorem lower_of_mem_lower {c d : Char} (h : d ∈ lower c) : lower d = [d] := by
  rcases lower_cases h with ⟨_, rfl | rfl⟩ | ⟨rfl, hsmall⟩ | hd
  · decide +kernel
  · decide +kernel
  · exact hsmall
  · have hnot := not_mem_of_bits_and bits_capitals_and_smalls hd
    simp only [List.mem_cons, not_or] at hnot
    refine lower_of_not_mem hnot.2.2.2 ?_
    rintro rfl
    exact hnot.2.2.1 rfl

/-- Small letters make no separator of words out of another character. -/
theorem eq_of_mem_lower {c d : Char} (h : d ∈ lower c) (hd : d = '-' ∨ d = '_') : d = c := by
  rcases lower_cases h with ⟨_, hdot⟩ | ⟨rfl, _⟩ | hsmall
  · rcases hd with rfl | rfl <;> exact absurd hdot (by decide)
  · rfl
  · have hnot := not_mem_of_bits_and bits_capitals_and_smalls hsmall
    simp only [List.mem_cons, not_or] at hnot
    rcases hd with rfl | rfl
    · exact absurd rfl hnot.1
    · exact absurd rfl hnot.2.1

/-! ## Whole texts -/

theorem mem_lowercaseAfter {d : Char} : ∀ {before s : List Char}, d ∈ lowercaseAfter before s →
    d = 'ς' ∨ ∃ c ∈ s, d ∈ lower c
  | _, [], h => by cases h
  | before, c :: s, h => by
    rw [lowercaseAfter, List.mem_append] at h
    rcases h with h | h
    · split at h
      · rename_i hsigma
        subst hsigma
        rw [List.mem_singleton] at h
        split at h
        · exact .inl h
        · subst h
          exact .inr ⟨'Σ', List.mem_cons_self, by decide +kernel⟩
      · exact .inr ⟨c, List.mem_cons_self, h⟩
    · rcases mem_lowercaseAfter h with h | ⟨e, he, hd⟩
      · exact .inl h
      · exact .inr ⟨e, List.mem_cons_of_mem _ he, hd⟩

theorem lower_of_mem_lowercase {s : List Char} {d : Char} (h : d ∈ lowercase s) :
    lower d = [d] := by
  rcases mem_lowercaseAfter h with rfl | ⟨c, _, hd⟩
  · decide +kernel
  · exact lower_of_mem_lower hd

theorem lowercaseAfter_eq_self {s : List Char} (hs : ∀ c ∈ s, lower c = [c]) :
    ∀ before, lowercaseAfter before s = s := by
  induction s with
  | nil => exact fun _ => rfl
  | cons c s ih =>
    intro before
    obtain ⟨hc, hs⟩ := List.forall_mem_cons.mp hs
    have hsigma : c ≠ 'Σ' := by
      rintro rfl
      exact absurd hc (by decide +kernel)
    rw [lowercaseAfter, if_neg hsigma, hc, ih hs, List.singleton_append]

/-- **A text in small letters stays as it is.** -/
theorem lowercase_lowercase (s : List Char) : lowercase (lowercase s) = lowercase s :=
  lowercaseAfter_eq_self (fun _ h => lower_of_mem_lowercase h) []

/-! ## Parts of a text -/

/-- The rule for the end of a word does not look beyond the character, which is small itself. -/
structure Cuts (c : Char) : Prop where
  uncased : isCased c = false
  seen : isCaseIgnorable c = false
  small : lower c = [c]

variable {c : Char}

theorem Cuts.ne_sigma (h : Cuts c) : c ≠ 'Σ' := by
  rintro rfl
  exact absurd h.uncased (by decide +kernel)

theorem meetsCased_append_cons (h : Cuts c) (a b : List Char) :
    meetsCased (a ++ c :: b) = meetsCased a := by
  have hstop : (c :: b).dropWhile isCaseIgnorable = c :: b :=
    List.dropWhile_cons_of_neg (by simp [h.seen])
  unfold meetsCased
  rw [List.dropWhile_append, hstop]
  cases a.dropWhile isCaseIgnorable with
  | nil => exact h.uncased
  | cons d rest => rfl

theorem endsWord_append_right (h : Cuts c) (before a b : List Char) :
    endsWord before (a ++ c :: b) = endsWord before a := by
  rw [endsWord, meetsCased_append_cons h, endsWord]

theorem endsWord_append_left (h : Cuts c) (a b after : List Char) :
    endsWord (a ++ c :: b) after = endsWord a after := by
  rw [endsWord, meetsCased_append_cons h, endsWord]

/-- What follows a character that cuts does not change the small letters before it. -/
theorem lowercaseAfter_append_cons (h : Cuts c) (b : List Char) : ∀ before a : List Char,
    lowercaseAfter before (a ++ c :: b) =
      lowercaseAfter before a ++ lowercaseAfter (a.reverse ++ before) (c :: b)
  | _, [] => rfl
  | before, d :: a => by
    have ih := lowercaseAfter_append_cons h b (d :: before) a
    have hreverse : (d :: a).reverse ++ before = a.reverse ++ d :: before := by simp
    rw [List.cons_append, lowercaseAfter, endsWord_append_right h, ih, hreverse,
      ← List.append_assoc]
    rfl

/-- What precedes a character that cuts does not change the small letters after it. -/
theorem lowercaseAfter_of_cuts (h : Cuts c) (far : List Char) : ∀ near s : List Char,
    lowercaseAfter (near ++ c :: far) s = lowercaseAfter near s
  | _, [] => rfl
  | near, d :: s => by
    have ih := lowercaseAfter_of_cuts h far (d :: near) s
    rw [lowercaseAfter, endsWord_append_left h, ← List.cons_append, ih, lowercaseAfter]

/-- **A text is put in small letters part by part, where a character cuts it.** -/
theorem lowercase_append_cons (h : Cuts c) (a b : List Char) :
    lowercase (a ++ c :: b) = lowercase a ++ c :: lowercase b := by
  have hrest : lowercaseAfter a.reverse (c :: b) = c :: lowercase b := by
    rw [lowercaseAfter, if_neg h.ne_sigma, h.small, List.singleton_append]
    exact congrArg (c :: ·) (lowercaseAfter_of_cuts h a.reverse [] b)
  rw [lowercase, lowercaseAfter_append_cons h, List.append_nil, hrest]
  rfl

end DeclaredEnv.Text
