import DeclaredEnv.Manifest
import DeclaredEnv.Evaluation
import DeclaredEnv.Proofs.JsonNumber
import Mathlib.Data.List.Forall2

/-!
# JSON text reads back

* `Json.Finite` — a value without infinite and undefined numbers, which have no text of their own.
* `Json.ReadsBack` — a reader gives a thing back from the front of its text, whatever follows that
  does not continue a number.
* `Json.Spacing.Blank` — spacing that consists of blanks.

Principal results: `Json.readString?_quoted` — every text reads back from between its quotes.
`Json.readsBack_chars` — every finite value reads back from its text.  `Json.ofText?_compact`,
`Json.ofText?_pretty` — so the text without blanks and the text on several lines each hold exactly
one value, and this is the one that was written.  `Schema.finite_manifest` — manifests are finite.
-/

namespace DeclaredEnv.Json

open Number Toml

/-- The value has no infinite and no undefined number. -/
inductive Finite : Json → Prop where
  | null : Finite .null
  | bool (b : Bool) : Finite (.bool b)
  | int (n : Int) : Finite (.int n)
  | float {x : Binary64} (h : x.isFinite = true) : Finite (.float x)
  | str (s : String) : Finite (.str s)
  | arr {items : List Json} (values : ∀ v ∈ items, v.Finite) : Finite (.arr items)
  | obj {fields : List (String × Json)} (values : ∀ field ∈ fields, field.2.Finite) :
      Finite (.obj fields)

/-! ## Texts between quotes -/

/-- A control below the space reads back from its four digits. -/
theorem readUnits?_fourHexDigits {c : Char} (h : c.toNat < 32) (rest : List Char) :
    readUnits? (fourHexDigits c.toNat ++ rest) = some (c, rest) := by
  have hdigits : ∀ n < 32, (fourHexDigits n).all isHexDigit = true ∧
      numberInBase 16 (fourHexDigits n) = n ∧ n.isValidChar := by decide
  obtain ⟨hall, hvalue, hvalid⟩ := hdigits c.toNat h
  have hunit : readUnit? (fourHexDigits c.toNat ++ rest) = some (c.toNat, rest) := by
    show (if (fourHexDigits c.toNat).all isHexDigit then
      some (numberInBase 16 (fourHexDigits c.toNat), rest) else none) = _
    rw [if_pos hall, hvalue]
  have hchar : charAt? c.toNat = some c := by rw [charAt?, if_pos hvalid, Char.ofNat_toNat]
  simp [readUnits?, hunit, hchar]

/-- **A character between quotes reads back, escaped or not.** -/
theorem readChar?_escapedChar (c : Char) (rest : List Char) :
    readChar? (escapedChar c ++ rest) = some (c, rest) := by
  unfold escapedChar
  iterate 7
    split
    · rename_i hc
      rw [hc]
      rfl
  split
  · rename_i hcontrol
    exact readUnits?_fourHexDigits hcontrol rest
  · rename_i hquote hback _ _ _ _ _ hcontrol
    show (if c = '\\' then _ else _) = _
    rw [if_neg hback, if_neg (not_or.mpr ⟨hquote, hcontrol⟩)]
    rfl

theorem escapedChar_ne_nil (c : Char) : escapedChar c ≠ [] := by
  intro hnil
  have hread := readChar?_escapedChar c []
  rw [hnil] at hread
  cases hread

/-- A character between quotes is not taken for the closing ones. -/
theorem readChars?_escapedChar (c : Char) (budget : Nat) (rest : List Char) :
    readChars? (budget + 1) (escapedChar c ++ rest) =
      (readChars? budget rest).map fun (cs, rest) => (c :: cs, rest) := by
  have hread := readChar?_escapedChar c rest
  rw [readChars?]
  · simp only [hread, Option.bind_eq_bind, Option.bind_some]
    cases readChars? budget rest <;> rfl
  · rintro tail htail
    -- quotes alone are no character
    rw [htail] at hread
    cases hread

theorem readChars?_escaped (cs rest : List Char) (budget : Nat)
    (h : (cs.flatMap escapedChar).length ≤ budget) :
    readChars? budget (cs.flatMap escapedChar ++ '"' :: rest) = some (cs, rest) := by
  induction cs generalizing budget with
  | nil => rw [List.flatMap_nil, List.nil_append, readChars?]
  | cons c cs ih =>
    rw [List.flatMap_cons, List.length_append] at h
    have hpos := List.length_pos_iff.mpr (escapedChar_ne_nil c)
    obtain ⟨budget, rfl⟩ := Nat.exists_eq_succ_of_ne_zero (show budget ≠ 0 by omega)
    rw [List.flatMap_cons, List.append_assoc, readChars?_escapedChar, ih budget (by omega)]
    rfl

/-- **A text reads back from between its quotes.** -/
theorem readString?_quoted (s : String) (rest : List Char) :
    readString? (s.toList.flatMap escapedChar ++ '"' :: rest) = some (s, rest) := by
  have hread := readChars?_escaped s.toList rest
    (s.toList.flatMap escapedChar ++ '"' :: rest).length (by simp)
  simp only [readString?, hread, Option.bind_eq_bind, Option.bind_some, String.ofList_toList]
  rfl

theorem quotedText_append (s : String) (rest : List Char) :
    quotedText s ++ rest = '"' :: (s.toList.flatMap escapedChar ++ '"' :: rest) := by
  simp [quotedText]

/-! ## Members between brackets -/

/-- The text consists of blanks. -/
def Blanks (s : List Char) : Prop := ∀ c ∈ s, isSpace c = true

/-- The spacing consists of blanks. -/
structure Spacing.Blank (spacing : Spacing) : Prop where
  line : ∀ depth, Blanks (spacing.line depth)
  afterColon : Blanks spacing.afterColon

/-- A bracket that closes an array or an object. -/
def Closes (closing : Char) : Prop := closing = ']' ∨ closing = '\x7d'

instance (c : Char) : Decidable (Closes c) := inferInstanceAs (Decidable (_ ∨ _))

/-- The reader gives a thing back from the front of a text. -/
structure ReadsBack {α : Type} (read : List Char → Option (α × List Char)) (a : α)
    (text : List Char) : Prop where
  /-- The text begins neither with a blank nor with a closing bracket. -/
  starts : ∃ c rest, text = c :: rest ∧ isSpace c = false ∧ ¬Closes c
  reads : ∀ rest, Ends rest → read (text ++ rest) = some (a, rest)

theorem skipSpace_append {blank : List Char} (h : Blanks blank) (s : List Char) :
    skipSpace (blank ++ s) = skipSpace s :=
  List.dropWhile_append_of_pos h

theorem skipSpace_cons {c : Char} (h : isSpace c = false) (s : List Char) :
    skipSpace (c :: s) = c :: s :=
  List.dropWhile_cons_of_neg (Bool.eq_false_iff.mp h)

/-- A blank does not continue a number. -/
theorem isNumberPart_of_isSpace {c : Char} (h : isSpace c = true) : isNumberPart c = false := by
  have hcases : c = ' ' ∨ c = '\n' ∨ c = '\r' ∨ c = '\t' := by simpa [isSpace] using h
  rcases hcases with rfl | rfl | rfl | rfl <;> rfl

theorem ends_of_blanks {blank s : List Char} (h : Blanks blank) (hs : Ends s) :
    Ends (blank ++ s) := by
  cases blank with
  | nil => exact hs
  | cons c rest => exact ends_cons (isNumberPart_of_isSpace (h c List.mem_cons_self)) _

section Members

variable {α : Type} {read : List Char → Option (α × List Char)} {closing : Char}
  {before after : List Char}

theorem ReadsBack.skipSpace_eq {a : α} {text : List Char} (h : ReadsBack read a text)
    (hbefore : Blanks before) (rest : List Char) :
    skipSpace (before ++ text ++ rest) = text ++ rest := by
  obtain ⟨c, tail, rfl, hc, _⟩ := h.starts
  rw [List.append_assoc, skipSpace_append hbefore, List.cons_append, skipSpace_cons hc]

/-- The first member reads back, whatever follows it. -/
theorem readRest?_cons {a : α} {text rest : List Char} (h : ReadsBack read a text)
    (hbefore : Blanks before) (hrest : Ends rest) (budget : Nat) :
    readRest? read closing (budget + 1) (before ++ text ++ rest) =
      match skipSpace rest with
      | [] => none
      | c :: rest =>
        if c = closing then some ([a], rest)
        else if c = ',' then
          (readRest? read closing budget rest).map fun (as, rest) => (a :: as, rest)
        else none := by
  rw [readRest?, h.skipSpace_eq hbefore, h.reads rest hrest, Option.bind_eq_bind,
    Option.bind_some]
  simp only
  cases skipSpace rest with
  | nil => rfl
  | cons c rest =>
    simp only
    split_ifs
    · rfl
    · cases readRest? read closing budget rest <;> rfl
    · rfl

/-- Members with commas in between read back up to the closing bracket. -/
theorem readRest?_members (hclosing : Closes closing) (hbefore : Blanks before)
    (hafter : Blanks after) {as : List α} {texts : List (List Char)}
    (h : List.Forall₂ (ReadsBack read) as texts) (hne : as ≠ []) (rest : List Char)
    (budget : Nat) (hbudget : ([','].intercalate (texts.map (before ++ ·))).length ≤ budget) :
    readRest? read closing budget
        ([','].intercalate (texts.map (before ++ ·)) ++ (after ++ closing :: rest)) =
      some (as, rest) := by
  have hmark : isSpace closing = false ∧ isNumberPart closing = false := by
    rcases hclosing with rfl | rfl <;> exact ⟨rfl, rfl⟩
  induction h generalizing budget with
  | nil => exact absurd rfl hne
  | @cons a text as texts ha htail ih =>
    obtain ⟨first, _, htext, _⟩ := ha.starts
    cases htail with
    | nil =>
      rw [List.map_cons, List.map_nil, List.intercalate_singleton] at hbudget ⊢
      obtain ⟨budget, rfl⟩ : ∃ b, budget = b + 1 := Nat.exists_eq_succ_of_ne_zero (by
        rw [htext, List.length_append, List.length_cons] at hbudget
        omega)
      rw [readRest?_cons ha hbefore (ends_of_blanks hafter (ends_cons hmark.2 rest)),
        skipSpace_append hafter, skipSpace_cons hmark.1]
      exact if_pos rfl
    | @cons b other bs others hb hothers =>
      have hsplit : [','].intercalate ((text :: other :: others).map (before ++ ·)) =
          before ++ text ++ ',' :: [','].intercalate ((other :: others).map (before ++ ·)) := by
        rw [List.map_cons, List.map_cons, List.intercalate_cons_cons, List.append_assoc]
        rfl
      rw [hsplit] at hbudget ⊢
      rw [List.length_append, List.length_cons] at hbudget
      obtain ⟨budget, rfl⟩ : ∃ b, budget = b + 1 := Nat.exists_eq_succ_of_ne_zero (by omega)
      have hcomma : ',' ≠ closing := by rcases hclosing with rfl | rfl <;> decide
      rw [List.append_assoc _ (',' :: _), List.cons_append,
        readRest?_cons ha hbefore (ends_cons rfl _), skipSpace_cons rfl]
      simp only [if_neg hcomma, if_true, ih (List.cons_ne_nil b bs) budget (by omega),
        Option.map_some]

/-- Behind the blanks the first member begins, and with no closing bracket. -/
theorem exists_skipSpace_members {a : α} {text : List Char} (h : ReadsBack read a text)
    (hbefore : Blanks before) (texts : List (List Char)) (rest : List Char) :
    ∃ c more, ¬Closes c ∧
      skipSpace ([','].intercalate ((text :: texts).map (before ++ ·)) ++ rest) = c :: more := by
  obtain ⟨more, hmore⟩ : ∃ more, [','].intercalate ((text :: texts).map (before ++ ·)) =
      before ++ text ++ more := by
    cases texts with
    | nil => exact ⟨[], by rw [List.map_singleton, List.intercalate_singleton, List.append_nil]⟩
    | cons other others =>
      exact ⟨_, by rw [List.map_cons, List.map_cons, List.intercalate_cons_cons,
        List.append_assoc]⟩
  obtain ⟨c, tail, rfl, _, hc⟩ := h.starts
  refine ⟨c, tail ++ (more ++ rest), hc, ?_⟩
  rw [hmore, List.append_assoc, h.skipSpace_eq hbefore, List.cons_append]

/-- **What stands between brackets reads back.** -/
theorem readMembers?_bracketed {spacing : Spacing} (hspacing : spacing.Blank)
    (hclosing : Closes closing) {as : List α} {texts : List (List Char)}
    (h : List.Forall₂ (ReadsBack read) as texts) (depth : Nat) (opening : Char) :
    ∃ body, bracketed spacing depth opening closing texts = opening :: body ∧
      ∀ rest, readMembers? read closing (body ++ rest) = some (as, rest) := by
  cases h with
  | nil =>
    have hmark : isSpace closing = false := by rcases hclosing with rfl | rfl <;> rfl
    refine ⟨[closing], rfl, fun rest => ?_⟩
    rw [readMembers?, List.cons_append, skipSpace_cons hmark]
    exact if_pos rfl
  | @cons a text as texts ha htail =>
    have hbefore := hspacing.line (depth + 1)
    have hmembers := readRest?_members hclosing hbefore (hspacing.line depth) (.cons ha htail)
      (List.cons_ne_nil a as)
    refine ⟨[','].intercalate ((text :: texts).map (spacing.line (depth + 1) ++ ·)) ++
      (spacing.line depth ++ [closing]), by simp [bracketed], fun rest => ?_⟩
    rw [List.append_assoc, List.append_assoc, List.singleton_append]
    obtain ⟨c, more, hc, hskip⟩ :=
      exists_skipSpace_members ha hbefore texts (spacing.line depth ++ closing :: rest)
    have hne : c ≠ closing := by
      rintro rfl
      exact hc hclosing
    rw [readMembers?, hskip]
    exact (if_neg hne).trans (hmembers rest _ (by simp))

/-- A field reads back from its name, a colon and its value. -/
theorem readsBack_field {spacing : Spacing} (hspacing : spacing.Blank) (name : String) {a : α}
    {text : List Char} (h : ReadsBack read a text) :
    ReadsBack (readField? read) (name, a)
      (quotedText name ++ ':' :: spacing.afterColon ++ text) := by
  constructor
  · rw [List.append_assoc, quotedText_append]
    exact ⟨_, _, rfl, rfl, by decide⟩
  · intro rest hrest
    rw [List.append_assoc, List.append_assoc, quotedText_append, readField?, readString?_quoted,
      Option.bind_eq_bind, Option.bind_some]
    simp only [List.cons_append]
    rw [skipSpace_cons rfl]
    simp only
    rw [← List.append_assoc, h.skipSpace_eq hspacing.afterColon, h.reads rest hrest]
    rfl

end Members

/-! ## Values -/

/-- A value that begins with a sign or a digit is a number. -/
theorem readValue?_of_number {c : Char} (h : c = '-' ∨ c.isDigit = true) (depth : Nat)
    (rest : List Char) : readValue? (depth + 1) (c :: rest) = readNumber? (c :: rest) := by
  unfold readValue?
  split
  case h_7 => rfl
  all_goals
    rename_i heq
    cases heq
    exact absurd h (by decide)

/-- A number reads back as a value. -/
theorem readsBack_number {j : Json} {text : List Char} (depth : Nat) (hstarts : StartsNumber text)
    (hread : ∀ rest, Ends rest → readNumber? (text ++ rest) = some (j, rest)) :
    ReadsBack (readValue? (depth + 1)) j text := by
  obtain ⟨c, tail, rfl, hc⟩ := hstarts
  have hpart : isNumberPart c = true := by
    rcases hc with rfl | hdigit
    · rfl
    · rw [isNumberPart, hdigit, Bool.true_or]
  refine ⟨⟨c, tail, rfl, ?_, ?_⟩, fun rest hrest => ?_⟩
  · by_contra hspace
    rw [isNumberPart_of_isSpace (Bool.not_eq_false _ ▸ hspace)] at hpart
    cases hpart
  · rintro (rfl | rfl) <;> cases hpart
  · rw [List.cons_append, readValue?_of_number hc]
    exact hread rest hrest

theorem length_le_intercalate {text : List Char} {texts : List (List Char)} (h : text ∈ texts)
    (sep : List Char) : text.length ≤ (sep.intercalate texts).length := by
  induction texts with
  | nil => cases h
  | cons first rest ih =>
    cases rest with
    | nil => rw [List.mem_singleton.mp h, List.intercalate_singleton]
    | cons second rest =>
      rw [List.intercalate_cons_cons, List.length_append, List.length_append]
      rcases List.mem_cons.mp h with rfl | h
      · omega
      · have hrest := ih h
        omega

/-- A member is shorter than the brackets with what they hold. -/
theorem length_lt_bracketed {text : List Char} {texts : List (List Char)} (h : text ∈ texts)
    (spacing : Spacing) (depth : Nat) (opening closing : Char) :
    text.length < (bracketed spacing depth opening closing texts).length := by
  have hmem := List.mem_map_of_mem (f := (spacing.line (depth + 1) ++ ·)) h
  have hlength := length_le_intercalate hmem [',']
  have hne : texts.isEmpty = false := List.isEmpty_eq_false_iff.mpr (List.ne_nil_of_mem h)
  simp only [bracketed, hne, Bool.false_eq_true, if_false, List.length_append, List.length_cons]
    at hlength ⊢
  omega

section Values

variable {spacing : Spacing}

theorem bracketed_ne_nil (spacing : Spacing) (depth : Nat) (opening closing : Char)
    (texts : List (List Char)) : bracketed spacing depth opening closing texts ≠ [] := by
  unfold bracketed
  split <;> exact List.cons_ne_nil _ _

theorem chars_ne_nil (spacing : Spacing) (level : Nat) (j : Json) : j.chars spacing level ≠ [] := by
  cases j with
  | null => exact List.cons_ne_nil _ _
  | bool b => cases b <;> exact List.cons_ne_nil _ _
  | int n =>
    obtain ⟨c, rest, hcons, _⟩ := startsNumber_integerText n
    rw [chars, hcons]
    exact List.cons_ne_nil c rest
  | float x =>
    rw [chars, floatText]
    split
    · rename_i hx
      obtain ⟨c, rest, hcons, _⟩ := startsNumber_floatLayout hx
      rw [hcons]
      exact List.cons_ne_nil c rest
    · exact List.cons_ne_nil _ _
  | str s => exact List.cons_ne_nil _ _
  | arr items | obj fields =>
    rw [chars]
    exact bracketed_ne_nil spacing level _ _ _

mutual

/-- **A finite value reads back from its text.** -/
theorem readsBack_chars (hspacing : spacing.Blank) : ∀ {j : Json} (level depth : Nat), j.Finite →
    (j.chars spacing level).length ≤ depth →
      ReadsBack (readValue? depth) j (j.chars spacing level)
  | j, level, 0, _, hdepth =>
    absurd (List.length_eq_zero_iff.mp (Nat.le_zero.mp hdepth)) (chars_ne_nil spacing level j)
  | .null, _, depth + 1, _, _ => ⟨⟨_, _, rfl, rfl, by decide⟩, fun _ _ => rfl⟩
  | .bool true, _, depth + 1, _, _ => ⟨⟨_, _, rfl, rfl, by decide⟩, fun _ _ => rfl⟩
  | .bool false, _, depth + 1, _, _ => ⟨⟨_, _, rfl, rfl, by decide⟩, fun _ _ => rfl⟩
  | .int n, _, depth + 1, _, _ =>
    readsBack_number depth (startsNumber_integerText n) fun _ => readNumber?_integerText n
  | .float x, _, depth + 1, .float hx, _ => by
    rw [chars, floatText, if_pos hx]
    exact readsBack_number depth (startsNumber_floatLayout hx) fun _ => readNumber?_floatLayout hx
  | .str s, _, depth + 1, _, _ => by
    refine ⟨⟨_, _, rfl, rfl, by decide⟩, fun rest _ => ?_⟩
    rw [chars, quotedText_append]
    show (readString? _).map _ = _
    rw [readString?_quoted, Option.map_some]
  | .arr items, level, depth + 1, .arr hitems, hdepth => by
    have h := readsBack_itemChars hspacing (level + 1) depth hitems fun text htext => by
      have := length_lt_bracketed htext spacing level '[' ']'
      rw [chars] at hdepth
      omega
    obtain ⟨body, htext, hread⟩ := readMembers?_bracketed hspacing (.inl rfl) h level '['
    rw [chars, htext]
    refine ⟨⟨_, _, rfl, rfl, by decide⟩, fun rest _ => ?_⟩
    show (readMembers? (readValue? depth) ']' (body ++ rest)).map _ = _
    rw [hread, Option.map_some]
  | .obj fields, level, depth + 1, .obj hfields, hdepth => by
    have h := readsBack_fieldChars hspacing (level + 1) depth hfields fun text htext => by
      have := length_lt_bracketed htext spacing level '\x7b' '\x7d'
      rw [chars] at hdepth
      omega
    obtain ⟨body, htext, hread⟩ := readMembers?_bracketed hspacing (.inr rfl) h level '\x7b'
    rw [chars, htext]
    refine ⟨⟨_, _, rfl, rfl, by decide⟩, fun rest _ => ?_⟩
    show (readMembers? (readField? (readValue? depth)) '\x7d' (body ++ rest)).map _ = _
    rw [hread, Option.map_some]

theorem readsBack_itemChars (hspacing : spacing.Blank) : ∀ {items : List Json} (level depth : Nat),
    (∀ v ∈ items, v.Finite) →
      (∀ text ∈ itemChars spacing level items, text.length ≤ depth) →
        List.Forall₂ (ReadsBack (readValue? depth)) items (itemChars spacing level items)
  | [], _, _, _, _ => .nil
  | item :: items, level, depth, hitems, hdepth => by
    rw [itemChars] at hdepth ⊢
    obtain ⟨hfirst, hrest⟩ := List.forall_mem_cons.mp hdepth
    obtain ⟨hitem, hitems⟩ := List.forall_mem_cons.mp hitems
    exact .cons (readsBack_chars hspacing level depth hitem hfirst)
      (readsBack_itemChars hspacing level depth hitems hrest)

theorem readsBack_fieldChars (hspacing : spacing.Blank) :
    ∀ {fields : List (String × Json)} (level depth : Nat), (∀ field ∈ fields, field.2.Finite) →
      (∀ text ∈ fieldChars spacing level fields, text.length ≤ depth) →
        List.Forall₂ (ReadsBack (readField? (readValue? depth))) fields
          (fieldChars spacing level fields)
  | [], _, _, _, _ => .nil
  | (name, value) :: fields, level, depth, hfields, hdepth => by
    rw [fieldChars] at hdepth ⊢
    obtain ⟨hfirst, hrest⟩ := List.forall_mem_cons.mp hdepth
    obtain ⟨hfield, hfields⟩ := List.forall_mem_cons.mp hfields
    rw [List.length_append] at hfirst
    have hvalue : ReadsBack (readValue? depth) value (value.chars spacing level) :=
      readsBack_chars hspacing level depth hfield (by omega)
    exact .cons (readsBack_field hspacing name hvalue)
      (readsBack_fieldChars hspacing level depth hfields hrest)

end

/-- The text of a finite value holds this value, and nothing else. -/
theorem ofText?_chars (hspacing : spacing.Blank) {j : Json} (h : j.Finite) :
    ofText? (String.ofList (j.chars spacing 0)) = some j := by
  have hread := readsBack_chars hspacing 0 (j.chars spacing 0).length h (Nat.le_refl _)
  have hskip : skipSpace ([] ++ j.chars spacing 0 ++ []) = j.chars spacing 0 ++ [] :=
    hread.skipSpace_eq (List.forall_mem_nil _) []
  rw [List.nil_append, List.append_nil] at hskip
  have hvalue := hread.reads [] ends_nil
  rw [List.append_nil] at hvalue
  simp only [ofText?, String.toList_ofList, hskip, hvalue]
  rfl

end Values

theorem blank_none : Spacing.none.Blank := ⟨fun _ => List.forall_mem_nil _, List.forall_mem_nil _⟩

theorem blank_lines : Spacing.lines.Blank := by
  refine ⟨fun depth => List.forall_mem_cons.mpr ⟨rfl, fun c hc => ?_⟩,
    List.forall_mem_singleton.mpr rfl⟩
  rw [List.eq_of_mem_replicate hc]
  rfl

/-- **The text of a finite value without blanks reads as this value.** -/
theorem ofText?_compact {j : Json} (h : j.Finite) : ofText? j.compact = some j :=
  ofText?_chars blank_none h

/-- **The text of a finite value on several lines reads as this value.** -/
theorem ofText?_pretty {j : Json} (h : j.Finite) : ofText? j.pretty = some j :=
  ofText?_chars blank_lines h

end DeclaredEnv.Json

namespace DeclaredEnv

open Json

/-! ## What the program writes is finite -/

theorem finite_strings (texts : List String) : Json.Finite (.arr (texts.map .str)) :=
  .arr (List.forall_mem_map.mpr fun s _ => .str s)

/-- Infinite and undefined numbers are written as `null`. -/
theorem Value.finite_toJson (x : Value) : x.toJson.Finite := by
  cases x with
  | null => exact .null
  | str s => exact .str s
  | int n => exact .int n
  | float d =>
    rw [Value.toJson]
    split
    · rename_i hd
      exact .float hd
    · exact .null
  | bool b => exact .bool b

theorem finite_optionalJson {α : Type} {toJson : α → Json} (h : ∀ a, (toJson a).Finite)
    (o : Option α) : (optionalJson toJson o).Finite := by
  cases o with
  | none => exact .null
  | some a => exact h a

theorem Condition.finite_toJson (c : Condition) : c.toJson.Finite :=
  .obj (by simp [Json.Finite.str, Value.finite_toJson])

theorem Variable.finite_manifest (v : Variable) : v.manifest.Finite :=
  .obj (by simp [Json.Finite.str, Json.Finite.bool, finite_strings,
    finite_optionalJson Value.finite_toJson, finite_optionalJson Condition.finite_toJson])

theorem Subject.finite_manifest (t : Subject) : t.manifest.Finite := by
  have hvars : Json.Finite (.arr (t.vars.map Variable.manifest)) :=
    .arr (List.forall_mem_map.mpr fun v _ => v.finite_manifest)
  exact .obj (by simp [Json.Finite.str, hvars])

theorem Scope.finite_manifest (s : Scope) : s.manifest.Finite :=
  .obj (by simp [Json.Finite.str, finite_strings])

/-- **Manifests are finite.** -/
theorem Schema.finite_manifest (s : Schema) : s.manifest.Finite := by
  have hsubjects : Json.Finite (.arr (s.subjects.map Subject.manifest)) :=
    .arr (List.forall_mem_map.mpr fun t _ => t.finite_manifest)
  have hscopes : Json.Finite (.arr (s.scopes.map Scope.manifest)) :=
    .arr (List.forall_mem_map.mpr fun scope _ => scope.finite_manifest)
  exact .obj (by simp [hsubjects, hscopes])

theorem finite_violationsJson (violations : List Violation) : (violationsJson violations).Finite :=
  .arr (List.forall_mem_map.mpr fun v _ => .obj (by simp [Json.Finite.str]))

end DeclaredEnv
