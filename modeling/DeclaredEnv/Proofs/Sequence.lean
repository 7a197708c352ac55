import DeclaredEnv.Group
import Mathlib.Data.List.Forall2
import Mathlib.Data.List.Induction
import Mathlib.Data.List.Nodup

/-!
# Lists in order

* `Collects` — a list of what a relation gives for the elements of another list, in their order.
* `[a, b].Sublist l` — how "`a` stands before `b`" is written for a list without repetitions.

Principal results: `collects_iff` — a relation that a partial function computes collects what
`filterMap` does.  `firstOccurrences_eq_eraseDups` — the walk over a list that keeps what it has not
met yet is the library's removal of repetitions.
-/

namespace DeclaredEnv

variable {α β : Type}

/-- `ys` has, in order, what `R` gives for those elements of `xs` for which it gives something. -/
inductive Collects (R : α → β → Prop) : List α → List β → Prop where
  | nil : Collects R [] []
  | take {x : α} {y : β} {xs : List α} {ys : List β} (hxy : R x y) (h : Collects R xs ys) :
      Collects R (x :: xs) (y :: ys)
  | skip {x : α} {xs : List α} {ys : List β} (hx : ∀ y, ¬R x y) (h : Collects R xs ys) :
      Collects R (x :: xs) ys

theorem collects_filterMap {R : α → β → Prop} {f : α → Option β} :
    ∀ {xs : List α}, (∀ x ∈ xs, ∀ y, R x y ↔ f x = some y) → Collects R xs (xs.filterMap f)
  | [], _ => .nil
  | x :: xs, h => by
    have hxs := collects_filterMap fun x' hx' => h x' (List.mem_cons_of_mem x hx')
    have hx := h x List.mem_cons_self
    cases hf : f x with
    | none =>
      rw [List.filterMap_cons_none hf]
      exact .skip (fun y hy => by simp [hf] at hx; exact hx y hy) hxs
    | some y =>
      rw [List.filterMap_cons_some hf]
      exact .take ((hx y).mpr hf) hxs

/-- **What a relation collects is what the partial function that computes it does.** -/
theorem collects_iff {R : α → β → Prop} {f : α → Option β} {xs : List α} {ys : List β}
    (h : ∀ x ∈ xs, ∀ y, R x y ↔ f x = some y) : Collects R xs ys ↔ ys = xs.filterMap f := by
  constructor
  · intro hc
    induction hc with
    | nil => rfl
    | take hxy _ ih =>
      rw [List.filterMap_cons_some ((h _ List.mem_cons_self _).mp hxy),
        ih fun x hx => h x (List.mem_cons_of_mem _ hx)]
    | @skip x _ _ hx _ ih =>
      have hf : f x = none := by
        cases hf : f x with
        | none => rfl
        | some y => exact absurd ((h x List.mem_cons_self y).mpr hf) (hx y)
      rw [List.filterMap_cons_none hf]
      exact ih fun x hx => h x (List.mem_cons_of_mem _ hx)
  · rintro rfl
    exact collects_filterMap h

theorem Collects.exists_of_mem {R : α → β → Prop} {xs : List α} {ys : List β}
    (h : Collects R xs ys) {y : β} (hy : y ∈ ys) : ∃ x ∈ xs, R x y := by
  induction h with
  | nil => cases hy
  | take hxy _ ih =>
    rcases List.mem_cons.mp hy with rfl | hy
    · exact ⟨_, List.mem_cons_self, hxy⟩
    · obtain ⟨x, hx, hR⟩ := ih hy
      exact ⟨x, List.mem_cons_of_mem _ hx, hR⟩
  | skip _ _ ih =>
    obtain ⟨x, hx, hR⟩ := ih hy
    exact ⟨x, List.mem_cons_of_mem _ hx, hR⟩

theorem Collects.mem_of_rightUnique {R : α → β → Prop} (hR : Relator.RightUnique R) {xs : List α}
    {ys : List β} (h : Collects R xs ys) {x : α} (hx : x ∈ xs) {y : β} (hxy : R x y) : y ∈ ys := by
  induction h with
  | nil => cases hx
  | take hxy' _ ih =>
    rcases List.mem_cons.mp hx with rfl | hx
    · rw [hR hxy hxy']
      exact List.mem_cons_self
    · exact List.mem_cons_of_mem _ (ih hx)
  | skip hnone _ ih =>
    rcases List.mem_cons.mp hx with rfl | hx
    · exact absurd hxy (hnone y)
    · exact ih hx

theorem collects_nil_iff {R : α → β → Prop} {xs : List α} :
    Collects R xs [] ↔ ∀ x ∈ xs, ∀ y, ¬R x y := by
  constructor
  · intro hc
    generalize hys : ([] : List β) = ys at hc
    induction hc with
    | nil => simp
    | take => cases hys
    | skip hx _ ih =>
      intro x' hx'
      rcases List.mem_cons.mp hx' with rfl | hx'
      · exact hx
      · exact ih hys x' hx'
  · intro h
    induction xs with
    | nil => exact .nil
    | cons x xs ih =>
      exact .skip (h x List.mem_cons_self) (ih fun x' hx' => h x' (List.mem_cons_of_mem x hx'))

/-! ## Lists that correspond element by element -/

section Correspondence

variable {R : α → β → Prop} {xs : List α} {ys : List β}

theorem exists_right_of_forall₂ (h : List.Forall₂ R xs ys) {x : α} (hx : x ∈ xs) :
    ∃ y ∈ ys, R x y := by
  induction h with
  | nil => cases hx
  | cons hxy _ ih =>
    rcases List.mem_cons.mp hx with rfl | hx
    · exact ⟨_, List.mem_cons_self, hxy⟩
    · obtain ⟨y, hy, hR⟩ := ih hx
      exact ⟨y, List.mem_cons_of_mem _ hy, hR⟩

theorem exists_left_of_forall₂ (h : List.Forall₂ R xs ys) {y : β} (hy : y ∈ ys) :
    ∃ x ∈ xs, R x y :=
  exists_right_of_forall₂ h.flip hy

/-- Lists that correspond in two steps correspond in one. -/
theorem forall₂_comp {γ : Type} {S : β → γ → Prop} {T : α → γ → Prop} {zs : List γ}
    (hT : ∀ x y z, R x y → S y z → T x z) (h : List.Forall₂ R xs ys) (h' : List.Forall₂ S ys zs) :
    List.Forall₂ T xs zs := by
  induction h generalizing zs with
  | nil =>
    cases h'
    exact .nil
  | cons hxy _ ih =>
    cases h' with
    | cons hyz h' => exact .cons (hT _ _ _ hxy hyz) (ih h')

theorem map_eq_of_forall₂ {γ : Type} {f : α → γ} {g : β → γ} (hR : ∀ x y, R x y → g y = f x)
    (h : List.Forall₂ R xs ys) : ys.map g = xs.map f := by
  induction h with
  | nil => rfl
  | cons hxy _ ih => rw [List.map_cons, List.map_cons, ih, hR _ _ hxy]

theorem forall₂_filterMap {f : α → Option β} (h : ∀ x ∈ xs, ∃ y, f x = some y ∧ R x y) :
    List.Forall₂ R xs (xs.filterMap f) := by
  induction xs with
  | nil => exact .nil
  | cons x xs ih =>
    obtain ⟨⟨y, hf, hxy⟩, hxs⟩ := List.forall_mem_cons.mp h
    rw [List.filterMap_cons_some hf]
    exact .cons hxy (ih hxs)

theorem filterMap_sublist_filterMap {f g : α → Option β} :
    ∀ {l : List α}, (∀ x ∈ l, ∀ y, f x = some y → g x = some y) →
      (l.filterMap f).Sublist (l.filterMap g)
  | [], _ => .slnil
  | x :: l, h => by
    obtain ⟨hx, hl⟩ := List.forall_mem_cons.mp h
    have ih := filterMap_sublist_filterMap hl
    cases hf : f x with
    | some y =>
      rw [List.filterMap_cons_some hf, List.filterMap_cons_some (hx y hf)]
      exact ih.cons_cons y
    | none =>
      rw [List.filterMap_cons_none hf]
      cases hg : g x with
      | none => rwa [List.filterMap_cons_none hg]
      | some y =>
        rw [List.filterMap_cons_some hg]
        exact ih.cons y

theorem perm_flatMap_of_forall₂ {γ : Type} {f : α → List γ} {g : β → List γ}
    (h : List.Forall₂ R xs ys) (hR : ∀ x ∈ xs, ∀ y, R x y → (f x).Perm (g y)) :
    (xs.flatMap f).Perm (ys.flatMap g) := by
  induction h with
  | nil => exact .nil
  | cons hxy _ ih =>
    obtain ⟨hx, hxs⟩ := List.forall_mem_cons.mp hR
    rw [List.flatMap_cons, List.flatMap_cons]
    exact (hx _ hxy).append (ih hxs)

theorem forall₂_congr {S : α → β → Prop} (h : ∀ x ∈ xs, ∀ y ∈ ys, R x y ↔ S x y) :
    List.Forall₂ R xs ys ↔ List.Forall₂ S xs ys := by
  induction xs generalizing ys with
  | nil => rw [List.forall₂_nil_left_iff, List.forall₂_nil_left_iff]
  | cons x xs ih =>
    cases ys with
    | nil => exact ⟨nofun, nofun⟩
    | cons y ys =>
      rw [List.forall₂_cons, List.forall₂_cons, h x List.mem_cons_self y List.mem_cons_self,
        ih fun x' hx y' hy => h x' (List.mem_cons_of_mem x hx) y' (List.mem_cons_of_mem y hy)]

theorem filterMap_eq_of_forall₂ {γ : Type} {f : α → Option γ} {g : β → Option γ}
    (h : List.Forall₂ R xs ys) (hR : ∀ x y, R x y → f x = g y) :
    xs.filterMap f = ys.filterMap g := by
  induction h with
  | nil => rfl
  | cons hxy _ ih => rw [List.filterMap_cons, List.filterMap_cons, hR _ _ hxy, ih]

theorem flatMap_eq_of_forall₂ {γ : Type} {f : α → List γ} {g : β → List γ}
    (h : List.Forall₂ R xs ys) (hR : ∀ x ∈ xs, ∀ y ∈ ys, R x y → f x = g y) :
    xs.flatMap f = ys.flatMap g := by
  induction h with
  | nil => rfl
  | cons hxy _ ih =>
    rw [List.flatMap_cons, List.flatMap_cons, hR _ List.mem_cons_self _ List.mem_cons_self hxy,
      ih fun x hx y hy => hR x (List.mem_cons_of_mem _ hx) y (List.mem_cons_of_mem _ hy)]

/-- Lists that correspond to the elements are all empty exactly if the empty list corresponds to
every one. -/
theorem exists_forall₂_flatten_eq_nil_iff {R : α → List β → Prop} :
    (∃ ys, List.Forall₂ R xs ys ∧ ys.flatten = []) ↔ ∀ x ∈ xs, R x [] := by
  constructor
  · rintro ⟨ys, h, hnil⟩
    induction h with
    | nil => simp
    | cons hxy _ ih =>
      rw [List.flatten_cons, List.append_eq_nil_iff] at hnil
      obtain ⟨rfl, hnil⟩ := hnil
      exact List.forall_mem_cons.mpr ⟨hxy, ih hnil⟩
  · intro h
    refine ⟨xs.map fun _ => [], ?_, by simp⟩
    rw [List.forall₂_map_right_iff, List.forall₂_same]
    exact h

end Correspondence

/-! ## First occurrences -/

section FirstOccurrences

variable [BEq α] [LawfulBEq α]

theorem eraseDups_concat (l : List α) (a : α) :
    (l ++ [a]).eraseDups = if a ∈ l then l.eraseDups else l.eraseDups ++ [a] := by
  rw [List.eraseDups_append]
  split
  · rename_i h
    simp [List.removeAll, h]
  · rename_i h
    simp [List.removeAll, h, List.eraseDups_cons]

theorem nodup_eraseDups (l : List α) : l.eraseDups.Nodup := by
  induction l using List.reverseRecOn with
  | nil => simp
  | append_singleton l a ih =>
    rw [eraseDups_concat]
    split
    · exact ih
    · rename_i h
      exact List.nodup_append.mpr
        ⟨ih, List.nodup_singleton a, fun b hb c hc => by
          rw [List.mem_singleton] at hc
          subst hc
          rintro rfl
          exact h (List.mem_eraseDups.mp hb)⟩

theorem eraseDups_of_nodup {l : List α} (h : l.Nodup) : l.eraseDups = l := by
  induction l using List.reverseRecOn with
  | nil => rfl
  | append_singleton l a ih =>
    obtain ⟨hl, _, hne⟩ := List.nodup_append.mp h
    have ha : a ∉ l := fun ha => hne a ha a (List.mem_singleton_self a) rfl
    rw [eraseDups_concat, if_neg ha, ih hl]

theorem eraseDups_append_replicate (l : List α) (a : α) (n : Nat) :
    (l ++ List.replicate (n + 1) a).eraseDups = (l ++ [a]).eraseDups := by
  induction n with
  | zero => rfl
  | succ n ih =>
    have hmem : a ∈ l ++ List.replicate (n + 1) a := by simp
    rw [List.replicate_succ', ← List.append_assoc, eraseDups_concat, if_pos hmem, ih]

/-- Lists that repeat keys of their own have the first occurrences of these keys, of the lists that
are not empty. -/
theorem eraseDups_flatMap {f : β → List α} {key : β → α} {l : List β}
    (hf : ∀ a ∈ l, ∀ b ∈ f a, b = key a) :
    (l.flatMap f).eraseDups = ((l.filter fun a => !(f a).isEmpty).map key).eraseDups := by
  induction l using List.reverseRecOn with
  | nil => rfl
  | append_singleton l a ih =>
    obtain ⟨hl, ha⟩ := List.forall_mem_append.mp hf
    rw [List.flatMap_append, List.flatMap_singleton, List.filter_append, List.map_append]
    cases hfa : f a with
    | nil => simp [hfa, ih hl]
    | cons b bs =>
      have hown : b :: bs = List.replicate (bs.length + 1) (key a) :=
        List.eq_replicate_iff.mpr ⟨rfl, hfa ▸ ha a (List.mem_singleton_self a)⟩
      have hmem : key a ∈ l.flatMap f ↔ key a ∈ (l.filter fun c => !(f c).isEmpty).map key := by
        rw [← List.mem_eraseDups, ih hl, List.mem_eraseDups]
      rw [List.filter_cons_of_pos (by simp [hfa]), List.filter_nil, List.map_singleton, hown,
        eraseDups_append_replicate, eraseDups_concat, eraseDups_concat, ih hl]
      simp only [hmem]

/-- If the keys differ, they are the first occurrences themselves. -/
theorem eraseDups_flatMap_of_nodup {f : β → List α} {key : β → α} {l : List β}
    (hl : (l.map key).Nodup) (hf : ∀ a ∈ l, ∀ b ∈ f a, b = key a) :
    (l.flatMap f).eraseDups = (l.filter fun a => !(f a).isEmpty).map key := by
  rw [eraseDups_flatMap hf]
  exact eraseDups_of_nodup ((List.filter_sublist.map key).nodup hl)

/-- What an earlier part of a list has adds no first occurrence. -/
theorem eraseDups_append_of_subset {l own : List α} (h : own ⊆ l) (m : List α) :
    (l ++ (own ++ m)).eraseDups = (l ++ m).eraseDups := by
  have hnone : own.removeAll l = [] := by
    rw [List.removeAll, List.filter_eq_nil_iff]
    intro b hb
    simpa using h hb
  have hsplit : (own ++ m).removeAll l = own.removeAll l ++ m.removeAll l :=
    List.filter_append own m
  rw [List.eraseDups_append, hsplit, hnone, List.nil_append, List.eraseDups_append]

end FirstOccurrences

theorem firstOccurrences_concat (names : List String) (name : String) :
    firstOccurrences (names ++ [name]) =
      if (firstOccurrences names).contains name then firstOccurrences names
      else firstOccurrences names ++ [name] := by
  simp [firstOccurrences, List.foldl_append]

theorem firstOccurrences_eq_eraseDups (names : List String) :
    firstOccurrences names = names.eraseDups := by
  induction names using List.reverseRecOn with
  | nil => rfl
  | append_singleton names name ih =>
    rw [firstOccurrences_concat, eraseDups_concat, ih]
    simp

/-! ## Elements with a key -/

section Keys

variable {κ : Type} [DecidableEq κ] {key : α → κ}

theorem find?_key_eq_some_iff {l : List α} (hl : (l.map key).Nodup) {k : κ} {a : α} :
    l.find? (key · == k) = some a ↔ a ∈ l ∧ key a = k := by
  constructor
  · intro h
    exact ⟨List.mem_of_find?_eq_some h, by simpa using List.find?_some h⟩
  · rintro ⟨ha, rfl⟩
    cases hf : l.find? (key · == key a) with
    | none => simpa using List.find?_eq_none.mp hf a ha
    | some b =>
      have hb := List.mem_of_find?_eq_some hf
      have hkey : key b = key a := by simpa using List.find?_some hf
      rw [List.inj_on_of_nodup_map hl hb ha hkey]

theorem find?_key_eq_none_iff {l : List α} {k : κ} :
    l.find? (key · == k) = none ↔ ∀ a ∈ l, key a ≠ k := by
  simp

theorem filter_key_of_mem {l : List α} (hl : (l.map key).Nodup) {a : α} (ha : a ∈ l) :
    l.filter (key · == key a) = [a] := by
  induction l with
  | nil => cases ha
  | cons b l ih =>
    obtain ⟨hb, hl⟩ := List.nodup_cons.mp hl
    rcases List.mem_cons.mp ha with rfl | ha
    · have hnone : l.filter (key · == key a) = [] :=
        List.filter_eq_nil_iff.mpr fun c hc heq =>
          hb (beq_iff_eq.mp heq ▸ List.mem_map_of_mem hc)
      rw [List.filter_cons_of_pos (by simp), hnone]
    · have hne : key b ≠ key a := fun heq => hb (heq ▸ List.mem_map_of_mem ha)
      rw [List.filter_cons_of_neg (by simpa using hne), ih hl ha]

/-- Of lists that each hold what has one key, those of a key hold what has it. -/
theorem filter_flatMap_key (key : α → κ) {key' : β → κ} {l : List α} {f : α → List β}
    (hf : ∀ a ∈ l, ∀ b ∈ f a, key' b = key a) (k : κ) :
    (l.flatMap f).filter (key' · == k) = (l.filter (key · == k)).flatMap f := by
  induction l with
  | nil => rfl
  | cons a l ih =>
    obtain ⟨ha, hl⟩ := List.forall_mem_cons.mp hf
    rw [List.flatMap_cons, List.filter_append, ih hl]
    by_cases h : key a = k
    · have hall : (f a).filter (key' · == k) = f a :=
        List.filter_eq_self.mpr fun b hb => beq_iff_eq.mpr ((ha b hb).trans h)
      rw [hall, List.filter_cons_of_pos (by simpa using h), List.flatMap_cons]
    · have hnone : (f a).filter (key' · == k) = [] :=
        List.filter_eq_nil_iff.mpr fun b hb => by simp [ha b hb, h]
      rw [hnone, List.filter_cons_of_neg (by simpa using h), List.nil_append]

/-- Change the first element of a key, or add a new one at the end if there is none. -/
def upsert (key : α → κ) (k : κ) (update : α → α) (new : α) : List α → List α
  | [] => [new]
  | a :: rest => if key a = k then update a :: rest else a :: upsert key k update new rest

theorem upsert_map {make : κ → α} (hkey : ∀ k, key (make k) = k) {k : κ} {update : α → α}
    {new : α} : ∀ {keys : List κ}, keys.Nodup → upsert key k update new (keys.map make) =
      if k ∈ keys then keys.map fun j => if j = k then update (make j) else make j
      else keys.map make ++ [new]
  | [], _ => rfl
  | j :: keys, h => by
    obtain ⟨hj, hkeys⟩ := List.nodup_cons.mp h
    rw [List.map_cons, upsert, hkey]
    by_cases hjk : j = k
    · subst hjk
      have hrest : keys.map make = keys.map fun i => if i = j then update (make i) else make i :=
        List.map_congr_left fun i hi => by rw [if_neg fun (hij : i = j) => hj (hij ▸ hi)]
      simp [← hrest]
    · rw [if_neg hjk, upsert_map hkey hkeys]
      by_cases hk : k ∈ keys
      · simp [hk, hjk]
      · simp [hk, Ne.symm hjk]

end Keys

/-! ## Which of two elements stands first -/

theorem pair_sublist_of_lt {l : List α} {i j : Nat} {a b : α} (ha : l[i]? = some a)
    (hb : l[j]? = some b) (hij : i < j) : [a, b].Sublist l := by
  rw [← List.take_append_drop j l]
  have hta : a ∈ l.take j :=
    List.mem_of_getElem? (i := i) (by rw [List.getElem?_take, if_pos hij, ha])
  have hdb : b ∈ l.drop j := List.mem_of_getElem? (i := 0) (by rw [List.getElem?_drop]; exact hb)
  exact (List.singleton_sublist.mpr hta).append (List.singleton_sublist.mpr hdb)

theorem pair_sublist_total {l : List α} {a b : α} (ha : a ∈ l) (hb : b ∈ l) (hab : a ≠ b) :
    [a, b].Sublist l ∨ [b, a].Sublist l := by
  obtain ⟨i, hi⟩ := List.mem_iff_getElem?.mp ha
  obtain ⟨j, hj⟩ := List.mem_iff_getElem?.mp hb
  rcases Nat.lt_trichotomy i j with hij | rfl | hji
  · exact .inl (pair_sublist_of_lt hi hj hij)
  · rw [hi] at hj
    exact absurd (Option.some.inj hj) hab
  · exact .inr (pair_sublist_of_lt hj hi hji)

theorem pair_sublist_asymm {l : List α} {a b : α} (hl : l.Nodup) (hab : [a, b].Sublist l) :
    ¬[b, a].Sublist l := by
  intro hba
  induction l with
  | nil => cases hab
  | cons x l ih =>
    obtain ⟨hx, hl'⟩ := List.nodup_cons.mp hl
    rcases List.cons_sublist_cons'.mp hab with hab' | ⟨rfl, hb⟩
    · rcases List.cons_sublist_cons'.mp hba with hba' | ⟨rfl, _⟩
      · exact ih hl' hab' hba'
      · exact hx (hab'.subset (List.mem_cons_of_mem a (List.mem_singleton_self b)))
    · rcases List.cons_sublist_cons'.mp hba with hba' | ⟨rfl, _⟩
      · exact hx (hba'.subset (List.mem_cons_of_mem b (List.mem_singleton_self a)))
      · exact hx (List.singleton_sublist.mp hb)

/-- Of three elements in order, the first two stand in the first of two lists, or the outer two in
either, or all in the second. -/
theorem triple_sublist_append {l m : List α} {a b c : α} (h : [a, b, c].Sublist (l ++ m)) :
    [a, b, c].Sublist m ∨ a ∈ l ∧ c ∈ m ∨ a ∈ l ∧ b ∈ l := by
  obtain ⟨front, back, hsplit, hfront, hback⟩ := List.sublist_append_iff.mp h
  cases front with
  | nil =>
    rw [List.nil_append] at hsplit
    exact .inl (hsplit ▸ hback)
  | cons x front =>
    simp only [List.cons_append, List.cons.injEq] at hsplit
    obtain ⟨rfl, hsplit⟩ := hsplit
    have ha : a ∈ l := hfront.subset List.mem_cons_self
    cases front with
    | nil =>
      rw [List.nil_append] at hsplit
      exact .inr (.inl ⟨ha, hback.subset (by simp [← hsplit])⟩)
    | cons y front =>
      simp only [List.cons_append, List.cons.injEq] at hsplit
      obtain ⟨rfl, _⟩ := hsplit
      exact .inr (.inr ⟨ha, hfront.subset (by simp)⟩)

/-- Taking elements out of a list keeps the order of the others. -/
theorem pair_sublist_iff {l m : List α} {a b : α} (hm : m.Sublist l) (hl : l.Nodup) (ha : a ∈ m)
    (hb : b ∈ m) (hab : a ≠ b) : [a, b].Sublist m ↔ [a, b].Sublist l := by
  constructor
  · exact fun h => h.trans hm
  · intro h
    rcases pair_sublist_total ha hb hab with h' | h'
    · exact h'
    · exact absurd (h'.trans hm) (pair_sublist_asymm hl h)

/-- In a list without repetitions the order of two elements is that of their places. -/
theorem pair_sublist_iff_lt {l : List α} {i j : Nat} {a b : α} (hl : l.Nodup)
    (ha : l[i]? = some a) (hb : l[j]? = some b) : [a, b].Sublist l ↔ i < j := by
  constructor
  · intro h
    rcases Nat.lt_trichotomy i j with hij | rfl | hji
    · exact hij
    · rw [ha] at hb
      cases hb
      exact absurd (h.nodup hl) (by simp)
    · exact absurd (pair_sublist_of_lt hb ha hji) (pair_sublist_asymm hl h)
  · exact pair_sublist_of_lt ha hb

end DeclaredEnv
