import DeclaredEnv.Naming
import DeclaredEnv.Proofs.LetterCase
import Mathlib.Data.List.TakeWhile

/-!
# Names for classes and for fields

* `fieldChars` — the characters of a field's name.

Principal results: `nameParts_fieldChars` — the words of a field's name are the words of the name in
small letters.  `className_fieldName` — so a field's name gives the class that the name gives.
`className_of_same_field` — names that share a field or a property share a class.
-/

namespace DeclaredEnv

open Text

variable {c : Char} {w : List Char}

/-! ## Separators -/

theorem isSeparator_iff : isSeparator c = true ↔ c = '-' ∨ c = '_' := by
  rw [isSeparator, Bool.or_eq_true, beq_iff_eq, beq_iff_eq, or_comm]

/-- Separators have no case, and the rule for the end of a word stops at them. -/
theorem cuts_of_isSeparator (h : isSeparator c = true) : Cuts c := by
  rcases isSeparator_iff.mp h with rfl | rfl
  · exact ⟨by decide +kernel, by decide +kernel, by decide +kernel⟩
  · exact ⟨by decide +kernel, by decide +kernel, by decide +kernel⟩

/-- A word in small letters has no separator either. -/
theorem isSeparator_of_mem_lowercase (hw : ∀ c ∈ w, isSeparator c = false) :
    ∀ d ∈ lowercase w, isSeparator d = false := by
  intro d hd
  rcases mem_lowercaseAfter hd with rfl | ⟨c, hc, hlower⟩
  · decide
  · rw [← Bool.not_eq_true]
    intro hsep
    rw [eq_of_mem_lower hlower (isSeparator_iff.mp hsep), hw c hc] at hsep
    cases hsep

/-! ## Words -/

theorem nameParts_eq_splitOnP (s : List Char) : nameParts s = s.splitOnP isSeparator := by
  induction s with
  | nil => rw [nameParts, List.splitOnP_nil]
  | cons c s ih =>
    obtain ⟨part, parts, hs⟩ := List.exists_cons_of_ne_nil (List.splitOnP_ne_nil isSeparator s)
    rw [nameParts, ih, List.splitOnP_cons_eq_if_modifyHead, hs]
    rfl

/-- Every text is a word, or a word in front of a separator and the rest of the text. -/
theorem words_induction {P : List Char → Prop}
    (word : ∀ w, (∀ c ∈ w, isSeparator c = false) → P w)
    (separated : ∀ w c rest, (∀ d ∈ w, isSeparator d = false) → isSeparator c = true → P rest →
      P (w ++ c :: rest)) (s : List Char) : P s := by
  have hsplit := List.takeWhile_append_dropWhile (p := fun c => !isSeparator c) (l := s)
  have hword : ∀ c ∈ s.takeWhile (fun c => !isSeparator c), isSeparator c = false := fun c hc => by
    simpa using List.mem_takeWhile_imp hc
  cases hrest : s.dropWhile fun c => !isSeparator c with
  | nil =>
    rw [hrest, List.append_nil] at hsplit
    exact hsplit ▸ word _ hword
  | cons c rest =>
    have hc := List.head?_dropWhile_not (fun c => !isSeparator c) s
    rw [hrest] at hc hsplit
    have hlength := congrArg List.length hsplit
    rw [← hsplit]
    refine separated _ c rest hword (by simpa using hc) (words_induction word separated rest)
termination_by s.length
decreasing_by
  simp only [List.length_append, List.length_cons] at hlength
  omega

/-! ## The words of a field's name -/

/-- The characters of the name of a field. -/
def fieldChars (s : List Char) : List Char := (lowercase s).map fun c => if c = '-' then '_' else c

theorem toList_fieldName (name : String) : (fieldName name).toList = fieldChars name.toList := by
  rw [fieldName, String.toList_ofList, fieldChars]

theorem fieldChars_append_cons (hc : isSeparator c = true) (a b : List Char) :
    fieldChars (a ++ c :: b) = fieldChars a ++ '_' :: fieldChars b := by
  rw [fieldChars, lowercase_append_cons (cuts_of_isSeparator hc), List.map_append, List.map_cons]
  rcases isSeparator_iff.mp hc with rfl | rfl <;> rfl

theorem fieldChars_of_word (hw : ∀ c ∈ w, isSeparator c = false) : fieldChars w = lowercase w := by
  rw [fieldChars]
  refine (List.map_congr_left fun d hd => if_neg ?_).trans (List.map_id _)
  rintro rfl
  exact absurd (isSeparator_of_mem_lowercase hw _ hd) (by decide)

/-- **The words of a field's name are the words of the name in small letters.** -/
theorem nameParts_fieldChars (s : List Char) :
    nameParts (fieldChars s) = (nameParts s).map lowercase := by
  have hword (w : List Char) (hw : ∀ c ∈ w, isSeparator c = false) :
      (fieldChars w).splitOnP isSeparator = [lowercase w] := by
    rw [fieldChars_of_word hw, List.splitOnP_eq_singleton (isSeparator_of_mem_lowercase hw)]
  simp only [nameParts_eq_splitOnP]
  induction s using words_induction with
  | word w hw => rw [hword w hw, List.splitOnP_eq_singleton hw, List.map_singleton]
  | separated w c rest hw hc ih =>
    rw [fieldChars_append_cons hc, List.splitOnP_append_cons _ _ (by decide), hword w hw, ih,
      List.splitOnP_append_cons _ _ hc, List.splitOnP_eq_singleton hw, List.map_append,
      List.map_singleton]

/-! ## Classes -/

theorem capitalized_lowercase (word : List Char) :
    capitalized (lowercase word) = capitalized word := by
  rw [capitalized, lowercase_lowercase, capitalized]

/-- **The class of a field's name is the class of the name.** -/
theorem className_fieldName (name : String) : className (fieldName name) = className name := by
  rw [className, toList_fieldName, nameParts_fieldChars, List.flatMap_map]
  simp only [capitalized_lowercase]
  rw [className]

theorem fieldName_of_propertyName {a b : String} (h : propertyName a = propertyName b) :
    fieldName a = fieldName b := by
  rw [propertyName, propertyName] at h
  exact (String.append_left_inj "_config").mp h

/-- **The class of a name is that of its field, so names that share a field or a property share a
class.** -/
theorem className_of_same_field :
    (∀ name, className (fieldName name) = className name) ∧
      (∀ a b, fieldName a = fieldName b → className a = className b) ∧
      ∀ a b, propertyName a = propertyName b → className a = className b := by
  have hfield (a b : String) (h : fieldName a = fieldName b) : className a = className b := by
    rw [← className_fieldName a, h, className_fieldName]
  exact ⟨className_fieldName, hfield, fun a b h => hfield a b (fieldName_of_propertyName h)⟩

example : className "-ΟΔΟΣ_Σ-ΤΟΣ--" = "ΟδοςΣΤοςConfig" := by decide +kernel

end DeclaredEnv
