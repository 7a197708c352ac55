import DeclaredEnv.Condition
import Mathlib.Data.List.TakeWhile

/-!
# What a comparison says

* `Identifier`, `Word` — the two sides of a comparison as sets of texts.
* `Spells` — a text is `VARIABLE=LITERAL` with white space around either part.
* `Base.LiteralOf` — what a word stands for beside a variable of a base kind.
* `Kind.Compares`, `Kind.Refuses` — a variable can be compared with a word, or why it cannot.

Principal results: `ofText?_eq_some_iff` — reading a comparison finds exactly what the text spells.
`bind_eq_ok_iff`, `bind_eq_error_iff` — tying it to a kind gives exactly what the relations say.
-/

namespace DeclaredEnv

open Text

/-! ## Trimming -/

theorem exists_trim (s : List Char) :
    ∃ before after, s = before ++ trim s ++ after ∧ ∀ c ∈ before ++ after, isBlank c = true := by
  refine ⟨s.takeWhile isBlank, ((trimLeft s).reverse.takeWhile isBlank).reverse,
    (trim_append s).symm, ?_⟩
  intro c hc
  rcases List.mem_append.mp hc with hc | hc
  · exact List.mem_takeWhile_imp hc
  · exact List.mem_takeWhile_imp (List.mem_reverse.mp hc)

theorem dropWhile_blanks {before s : List Char} (hb : ∀ c ∈ before, isBlank c = true)
    (hs : ∀ c ∈ s.head?, isBlank c = false) : (before ++ s).dropWhile isBlank = s := by
  rw [List.dropWhile_append_of_pos hb]
  cases s with
  | nil => rfl
  | cons c s => exact List.dropWhile_cons_of_neg (by simp [hs c (by simp)])

/-- White space around a text that has none itself is what trimming takes off. -/
theorem trim_between {before s after : List Char} (hb : ∀ c ∈ before, isBlank c = true)
    (hs : ∀ c ∈ s, isBlank c = false) (ha : ∀ c ∈ after, isBlank c = true) :
    trim (before ++ s ++ after) = s := by
  have hleft : trimLeft (before ++ s ++ after) = if s = [] then [] else s ++ after := by
    unfold trimLeft
    split
    · rename_i h
      subst h
      rw [List.append_nil, List.dropWhile_append_of_pos hb, List.dropWhile_eq_nil_iff]
      exact ha
    · rename_i h
      rw [List.append_assoc]
      refine dropWhile_blanks hb fun c hc => hs c ?_
      obtain ⟨d, rest, rfl⟩ := List.exists_cons_of_ne_nil h
      exact List.mem_of_mem_head? hc
  rw [trim, hleft, trimRight]
  split
  · rename_i h
    subst h
    rfl
  · have hrev : ∀ c ∈ s.reverse.head?, isBlank c = false := fun c hc =>
      hs c (List.mem_reverse.mp (List.mem_of_mem_head? hc))
    rw [List.reverse_append, dropWhile_blanks (by simpa using ha) hrev, List.reverse_reverse]

/-! ## Identifiers and words -/

/-- The texts `[A-Za-z_][A-Za-z0-9_]*`. -/
inductive Identifier : List Char → Prop where
  | mk {c : Char} {rest : List Char} (first : c.isAlpha = true ∨ c = '_')
      (others : ∀ d ∈ rest, d.isAlphanum = true ∨ d = '_') : Identifier (c :: rest)

theorem isIdentifier_iff {s : List Char} : isIdentifier s = true ↔ Identifier s := by
  cases s with
  | nil => exact ⟨nofun, nofun⟩
  | cons c rest =>
    simp only [isIdentifier, Bool.and_eq_true, Bool.or_eq_true, beq_iff_eq, List.all_eq_true]
    constructor
    · rintro ⟨hc, hrest⟩
      exact .mk hc hrest
    · rintro ⟨hc, hrest⟩
      exact ⟨hc, hrest⟩

theorem Identifier.isAlphanum {s : List Char} (h : Identifier s) :
    ∀ c ∈ s, c.isAlphanum = true ∨ c = '_' := by
  obtain ⟨hc, hrest⟩ := h
  intro d hd
  rcases List.mem_cons.mp hd with rfl | hd
  · exact hc.imp_left fun hc => Bool.or_eq_true_iff.2 (.inl hc)
  · exact hrest d hd

/-- ASCII letters, digits and `_` lie between the blanks and are not `=`. -/
theorem bounds_of_isAlphanum {c : Char} (h : c.isAlphanum = true ∨ c = '_') :
    33 ≤ c.toNat ∧ c.toNat ≤ 126 ∧ c ≠ '=' := by
  rcases h with h | rfl
  · have hbounds : ((65 ≤ c.toNat ∧ c.toNat ≤ 90) ∨ (97 ≤ c.toNat ∧ c.toNat ≤ 122)) ∨
        (48 ≤ c.toNat ∧ c.toNat ≤ 57) := by
      rcases Bool.or_eq_true_iff.1 h with letter | digit
      · rcases Bool.or_eq_true_iff.1 letter with upper | lower
        · exact .inl (.inl (of_decide_eq_true upper))
        · have bounds := Bool.and_eq_true_iff.1 lower
          exact .inl (.inr ⟨of_decide_eq_true bounds.1, of_decide_eq_true bounds.2⟩)
      · have bounds := Bool.and_eq_true_iff.1 digit
        exact .inr ⟨of_decide_eq_true bounds.1, of_decide_eq_true bounds.2⟩
    refine ⟨by omega, by omega, ?_⟩
    rintro rfl
    exact absurd hbounds (by decide)
  · decide

theorem isBlank_eq_false {c : Char} (low : 33 ≤ c.toNat) (high : c.toNat ≤ 126) :
    isBlank c = false := by
  simp [isBlank, inRanges, blankRanges]
  omega

theorem Identifier.isBlank_eq_false {s : List Char} (h : Identifier s) :
    ∀ c ∈ s, isBlank c = false := fun c hc =>
  have hb := bounds_of_isAlphanum (h.isAlphanum c hc)
  DeclaredEnv.isBlank_eq_false hb.1 hb.2.1

/-- The texts without white space and without `=`, `&`, `|` and `,`, the empty one apart. -/
structure Word (s : List Char) : Prop where
  ne_nil : s ≠ []
  plain : ∀ c ∈ s, isBlank c = false ∧ c ≠ '=' ∧ c ≠ '&' ∧ c ≠ '|' ∧ c ≠ ','

theorem isLiteral_iff {s : List Char} : isLiteral s = true ↔ Word s := by
  have hbarred (c : Char) : isBarred c = false ↔
      isBlank c = false ∧ c ≠ '=' ∧ c ≠ '&' ∧ c ≠ '|' ∧ c ≠ ',' := by
    simp only [isBarred, Bool.or_eq_false_iff, beq_eq_false_iff_ne]
    exact ⟨fun ⟨⟨⟨⟨h₁, h₂⟩, h₃⟩, h₄⟩, h₅⟩ => ⟨h₅, h₁, h₂, h₃, h₄⟩,
      fun ⟨h₅, h₁, h₂, h₃, h₄⟩ => ⟨⟨⟨⟨h₁, h₂⟩, h₃⟩, h₄⟩, h₅⟩⟩
  simp only [isLiteral, Bool.and_eq_true, Bool.not_eq_true', List.isEmpty_eq_false_iff,
    List.all_eq_true, hbarred]
  exact ⟨fun h => ⟨h.1, h.2⟩, fun h => ⟨h.ne_nil, h.plain⟩⟩

/-! ## Reading a comparison -/

/-- The text is the comparison `VARIABLE=LITERAL` with white space around either part. -/
inductive Spells (text : String) (c : Comparison) : Prop where
  | mk {w₁ w₂ w₃ w₄ : List Char}
      (toList_eq : text.toList =
        (w₁ ++ c.reference.toList ++ w₂) ++ '=' :: (w₃ ++ c.literal.toList ++ w₄))
      (left : ∀ x ∈ w₁ ++ w₂, isBlank x = true) (right : ∀ x ∈ w₃ ++ w₄, isBlank x = true)
      (identifier : Identifier c.reference.toList) (word : Word c.literal.toList)

theorem not_eq_sign_of_isBlank {c : Char} (h : isBlank c = true) : c ≠ '=' := by
  rintro rfl
  exact absurd h (by decide)

theorem Spells.sides {text : String} {c : Comparison} (h : Spells text c) :
    ∃ left right, text.toList.takeWhile (· != '=') = left ∧
      text.toList.dropWhile (· != '=') = '=' :: right ∧ trim left = c.reference.toList ∧
      trim right = c.literal.toList := by
  obtain @⟨w₁, w₂, w₃, w₄, htext, hleft, hright, hid, hword⟩ := h
  simp only [List.mem_append] at hleft hright
  have hne : ∀ x ∈ w₁ ++ c.reference.toList ++ w₂, (x != '=') = true := by
    intro x hx
    rw [bne_iff_ne]
    simp only [List.mem_append] at hx
    rcases hx with (hx | hx) | hx
    · exact not_eq_sign_of_isBlank (hleft x (.inl hx))
    · exact (bounds_of_isAlphanum (hid.isAlphanum x hx)).2.2
    · exact not_eq_sign_of_isBlank (hleft x (.inr hx))
  refine ⟨_, w₃ ++ c.literal.toList ++ w₄, rfl, ?_, ?_, ?_⟩
  · rw [htext, List.dropWhile_append_of_pos hne]
    rfl
  · rw [htext, List.takeWhile_append_of_pos hne]
    have hstop : ('=' :: (w₃ ++ c.literal.toList ++ w₄)).takeWhile (· != '=') = [] := rfl
    rw [hstop, List.append_nil]
    exact trim_between (fun x hx => hleft x (.inl hx)) hid.isBlank_eq_false
      (fun x hx => hleft x (.inr hx))
  · exact trim_between (fun x hx => hright x (.inl hx)) (fun x hx => (hword.plain x hx).1)
      (fun x hx => hright x (.inr hx))

theorem spells_of_sides {text : String} {right : List Char}
    (hd : text.toList.dropWhile (· != '=') = '=' :: right)
    (hid : Identifier (trim (text.toList.takeWhile (· != '=')))) (hword : Word (trim right)) :
    Spells text ⟨String.ofList (trim (text.toList.takeWhile (· != '='))),
      String.ofList (trim right)⟩ := by
  obtain ⟨w₁, w₂, hl, hleft⟩ := exists_trim (text.toList.takeWhile (· != '='))
  obtain ⟨w₃, w₄, hr, hright⟩ := exists_trim right
  refine .mk ?_ hleft hright (by simpa using hid) (by simpa using hword)
  rw [String.toList_ofList, String.toList_ofList, ← hl, ← hr, ← hd,
    List.takeWhile_append_dropWhile]

/-- **A text reads as a comparison if and only if it spells it.** -/
theorem ofText?_eq_some_iff {text : String} {c : Comparison} :
    Comparison.ofText? text = some c ↔ Spells text c := by
  constructor
  · intro h
    unfold Comparison.ofText? at h
    split at h
    · cases h
    · rename_i sign right hd
      have hsign := List.head?_dropWhile_not (· != '=') text.toList
      rw [hd] at hsign
      simp only [List.head?_cons, bne_eq_false_iff_eq] at hsign
      subst hsign
      simp only [Option.ite_none_right_eq_some, Bool.and_eq_true, isIdentifier_iff,
        isLiteral_iff] at h
      obtain ⟨⟨hid, hword⟩, h⟩ := h
      cases h
      exact spells_of_sides hd hid hword
  · intro h
    obtain ⟨left, right, hl, hr, href, hlit⟩ := h.sides
    obtain ⟨_, _, _, hid, hword⟩ := h
    unfold Comparison.ofText?
    rw [hr]
    simp only [hl, href, hlit, isIdentifier_iff.mpr hid, isLiteral_iff.mpr hword, Bool.and_self,
      if_true, String.ofList_toList]

theorem Spells.unique {text : String} {c d : Comparison} (hc : Spells text c) (hd : Spells text d) :
    c = d :=
  Option.some.inj ((ofText?_eq_some_iff.mpr hc).symm.trans (ofText?_eq_some_iff.mpr hd))

theorem ofText?_eq_none_iff {text : String} :
    Comparison.ofText? text = none ↔ ∀ c, ¬Spells text c := by
  rw [Option.eq_none_iff_forall_ne_some]
  exact forall_congr' fun c => not_congr ofText?_eq_some_iff

/-! ## Tying a comparison to a kind -/

/-- What a word stands for beside a variable of a base kind: itself beside a text, and `true` or
`false`, in ASCII letters of either case, beside a truth value. -/
inductive Base.LiteralOf : Base → String → Literal → Prop where
  | str (word : String) : LiteralOf .str word (.str word)
  | bool {word : String} (b : Bool)
      (h : asciiLowercase word.toList = (if b then "true" else "false").toList) :
      LiteralOf .bool word (.bool b)

/-- A variable of the kind and with the default, or without one, always has a value. -/
def Kind.Present (k : Kind) (default? : Option Value) : Prop :=
  k.optional = true → default?.isSome = true

/-- A variable of the kind can be compared with the word, which stands for the literal. -/
structure Kind.Compares (k : Kind) (default? : Option Value) (word : String) (l : Literal) :
    Prop where
  present : k.Present default?
  literalOf : k.base.LiteralOf word l

/-- Why a variable of the kind cannot be compared with the word. -/
inductive Kind.Refuses (k : Kind) (default? : Option Value) (word : String) :
    NotComparable → Prop where
  | mayBeUnset (h : ¬k.Present default?) : Refuses k default? word (.mayBeUnset k)
  | notBoolean (present : k.Present default?) (base : k.base = .bool)
      (h : ∀ l, ¬Base.LiteralOf .bool word l) : Refuses k default? word (.notBoolean word)
  | wrongBase (present : k.Present default?) (bool : k.base ≠ .bool) (str : k.base ≠ .str) :
      Refuses k default? word (.wrongBase k.base)

theorem booleanLiteral?_eq_some_iff {word : String} {b : Bool} :
    booleanLiteral? word = some b ↔ Base.LiteralOf .bool word (.bool b) := by
  have hlit : Base.LiteralOf .bool word (.bool b) ↔
      String.ofList (asciiLowercase word.toList) = if b then "true" else "false" := by
    rw [← String.toList_inj, String.toList_ofList]
    constructor
    · rintro ⟨⟩
      assumption
    · exact .bool b
  rw [hlit]
  simp only [booleanLiteral?]
  split
  · rename_i h
    rw [h]
    cases b <;> simp
  · split
    · rename_i h
      rw [h]
      cases b <;> simp
    · cases b <;> simp [*]

theorem booleanLiteral?_eq_none_iff {word : String} :
    booleanLiteral? word = none ↔ ∀ l, ¬Base.LiteralOf .bool word l := by
  rw [Option.eq_none_iff_forall_ne_some]
  constructor
  · rintro h l ⟨⟩
    exact h _ (booleanLiteral?_eq_some_iff.mpr (.bool _ ‹_›))
  · exact fun h b hb => h (.bool b) (booleanLiteral?_eq_some_iff.mp hb)

theorem bind_of_not_present {c : Comparison} {k : Kind} {d : Option Value} (h : ¬k.Present d) :
    c.bind k d.isSome = .error (.mayBeUnset k) := by
  simp only [Kind.Present, Classical.not_imp, Bool.not_eq_true] at h
  simp [Comparison.bind, h]

/-- A comparison with a variable that always has a value depends on the base kind alone. -/
theorem bind_of_present {c : Comparison} {k : Kind} {d : Option Value} (h : k.Present d) :
    c.bind k d.isSome = match k.base with
      | .bool => match booleanLiteral? c.literal with
        | some b => .ok ⟨c.reference, .bool b⟩
        | none => .error (.notBoolean c.literal)
      | .str => .ok ⟨c.reference, .str c.literal⟩
      | base => .error (.wrongBase base) := by
  have hp : (k.optional && !d.isSome) = false := by
    cases ho : k.optional with
    | false => rfl
    | true => simp [h ho]
  unfold Comparison.bind
  exact if_neg (by rw [hp]; exact Bool.false_ne_true)

/-- **Tying a comparison to a kind gives the literal that the word stands for.** -/
theorem bind_eq_ok_iff {c : Comparison} {k : Kind} {d : Option Value} {condition : Condition} :
    c.bind k d.isSome = .ok condition ↔
      ∃ l, k.Compares d c.literal l ∧ condition = ⟨c.reference, l⟩ := by
  by_cases hp : k.Present d
  · rw [bind_of_present hp]
    cases hb : k.base with
    | str =>
      constructor
      · rintro ⟨⟩
        exact ⟨_, ⟨hp, hb ▸ .str _⟩, rfl⟩
      · rintro ⟨l, ⟨_, hl⟩, rfl⟩
        rw [hb] at hl
        cases hl
        rfl
    | bool =>
      simp only
      constructor
      · intro h
        split at h
        · rename_i b hlit
          cases h
          exact ⟨_, ⟨hp, hb ▸ booleanLiteral?_eq_some_iff.mp hlit⟩, rfl⟩
        · cases h
      · rintro ⟨l, ⟨_, hl⟩, rfl⟩
        rw [hb] at hl
        obtain ⟨b, hlit⟩ : ∃ b, l = .bool b := by
          cases hl
          exact ⟨_, rfl⟩
        subst hlit
        rw [booleanLiteral?_eq_some_iff.mpr hl]
    | int | float =>
      constructor
      · rintro ⟨⟩
      · rintro ⟨l, ⟨_, hl⟩, _⟩
        rw [hb] at hl
        cases hl
  · rw [bind_of_not_present hp]
    constructor
    · rintro ⟨⟩
    · rintro ⟨l, ⟨hp', _⟩, _⟩
      exact absurd hp' hp

/-- **Tying a comparison to a kind fails for the reason that the kind has.** -/
theorem bind_eq_error_iff {c : Comparison} {k : Kind} {d : Option Value} {reason : NotComparable} :
    c.bind k d.isSome = .error reason ↔ k.Refuses d c.literal reason := by
  by_cases hp : k.Present d
  · rw [bind_of_present hp]
    cases hb : k.base with
    | str =>
      constructor
      · rintro ⟨⟩
      · rintro (h | ⟨_, h, _⟩ | ⟨_, _, h⟩)
        · exact absurd hp h
        · rw [hb] at h
          cases h
        · exact absurd hb h
    | bool =>
      simp only
      constructor
      · intro h
        split at h
        · cases h
        · rename_i hlit
          cases h
          exact .notBoolean hp hb (booleanLiteral?_eq_none_iff.mp hlit)
      · rintro (h | ⟨_, _, h⟩ | ⟨_, h, _⟩)
        · exact absurd hp h
        · rw [booleanLiteral?_eq_none_iff.mpr h]
        · exact absurd hb h
    | int | float =>
      constructor
      · rintro ⟨⟩
        exact hb ▸ .wrongBase hp (by simp [hb]) (by simp [hb])
      · rintro (h | ⟨_, h, _⟩ | _)
        · exact absurd hp h
        · rw [hb] at h
          cases h
        · rw [hb]
  · rw [bind_of_not_present hp]
    constructor
    · rintro ⟨⟩
      exact .mayBeUnset hp
    · rintro (_ | ⟨h, _, _⟩ | ⟨h, _, _⟩)
      · rfl
      · exact absurd h hp
      · exact absurd h hp

end DeclaredEnv
