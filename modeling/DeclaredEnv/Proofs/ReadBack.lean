import DeclaredEnv.Proofs.Comparison
import DeclaredEnv.Proofs.FloatText

/-!
# Values and conditions read back from their texts

* `Base.read?_text_of_read?` — the text of a value that was read reads as the value again, however
  the value was written at first.
* `Condition.spells_text` — the text of a condition spells its variable and the word of its literal.
* `Base.LiteralOf.text` — and the word stands for the literal again.
-/

namespace DeclaredEnv

open Number Text

/-! ## Texts without blanks -/

theorem trim_of_no_blank {s : List Char} (h : ∀ c ∈ s, isBlank c = false) : trim s = s := by
  have htrim := @trim_between [] s [] nofun h nofun
  rwa [List.nil_append, List.append_nil] at htrim

/-- The characters of a number are no blanks. -/
theorem isBlank_of_isNumeral {c : Char} (h : isNumeral c = true) : isBlank c = false := by
  rcases isNumeral_iff.mp h with hdigit | rfl | rfl | rfl | rfl
  · have hbounds := bounds_of_isAlphanum (.inl (Bool.or_eq_true_iff.mpr (.inr hdigit)))
    exact isBlank_eq_false hbounds.1 hbounds.2.1
  all_goals decide

theorem trim_integerText (n : Int) : trim (integerText n) = integerText n :=
  trim_of_no_blank fun _ hc => isBlank_of_isNumeral (isNumeral_of_mem_integerText hc)

theorem trim_floatText {l : FloatLayout} (hl : l.Readable) (x : Binary64) :
    trim (l.text x) = l.text x := by
  cases x with
  | nan => rfl
  | infinite negative => cases negative <;> rfl
  | finite negative rank rank_lt =>
    exact trim_of_no_blank fun _ hc => isBlank_of_isNumeral (isNumeral_of_mem_text hl rfl hc)

theorem readable_floatLayout : Value.floatLayout.Readable := ⟨.inl rfl, .inl rfl⟩

/-! ## Values -/

theorem inRange_of_readInteger? {s : List Char} {n : Int} (h : readInteger? s = some n) :
    InRange n := by
  simp only [readInteger?, Option.ite_none_right_eq_some] at h
  obtain ⟨_, hrange, h⟩ := h
  cases h
  exact hrange

/-- **The text of a value that was read reads as the value again.** -/
theorem Base.read?_text_of_read? {b : Base} {raw : String} {x : Value} (h : b.read? raw = some x) :
    b.read? x.text = some x := by
  cases b with
  | str =>
    cases h
    rfl
  | int =>
    obtain ⟨n, hn, rfl⟩ := Option.map_eq_some_iff.mp h
    simp only [Base.read?, Value.text, String.toList_ofList, trim_integerText,
      readInteger?_integerText (inRange_of_readInteger? hn), Option.map_some]
  | float =>
    obtain ⟨d, hd, rfl⟩ := Option.map_eq_some_iff.mp h
    have hfinite := (Option.filter_eq_some_iff.mp hd).2
    simp only [Base.read?, Value.text, Value.floatText, String.toList_ofList,
      trim_floatText readable_floatLayout, readFloat?_text readable_floatLayout,
      Option.filter_some, hfinite, if_true, Option.map_some]
  | bool =>
    obtain ⟨b, _, rfl⟩ := Option.map_eq_some_iff.mp h
    cases b <;> rfl

/-! ## Conditions -/

/-- The word that a literal is written as is one that can be compared with. -/
theorem Base.LiteralOf.word_text {b : Base} {word : String} {l : Literal} (h : b.LiteralOf word l)
    (hword : Word word.toList) : Word l.toValue.text.toList := by
  cases h with
  | str => exact hword
  | bool b => cases b <;> exact isLiteral_iff.mp (by decide)

/-- **The word that a literal is written as stands for the literal.** -/
theorem Base.LiteralOf.text {b : Base} {word : String} {l : Literal} (h : b.LiteralOf word l) :
    b.LiteralOf l.toValue.text l := by
  cases h with
  | str => exact .str _
  | bool b => exact .bool b (by cases b <;> decide)

/-- **The text of a condition spells its variable and the word of its literal.** -/
theorem Condition.spells_text {c : Condition} (hid : Identifier c.reference.toList)
    (hword : Word c.expected.toValue.text.toList) :
    Spells c.text ⟨c.reference, c.expected.toValue.text⟩ := by
  refine @Spells.mk _ _ [] [] [] [] ?_ nofun nofun hid hword
  simp [Condition.text]

end DeclaredEnv
