import Mathlib.Data.List.Forall2

/-!
# Steps that can fail

* `FirstFault` — a fault of the first element of a list that has one.

Principal results: `mapM_eq_ok_iff`, `mapM_eq_error_iff` — going through a list succeeds if every
step does, and fails with the first fault.  `bind_eq_error_iff_firstFault` — so do checks that are
made one after the other.
-/

namespace DeclaredEnv

variable {ε α β γ : Type} {x : Except ε α} {f : α → Except ε β} {a : α} {l : List α} {e : ε}

/-! ## Success -/

theorem exists_of_bind_eq_ok {b : β} (h : (x >>= f) = .ok b) : ∃ a, x = .ok a ∧ f a = .ok b := by
  cases x with
  | error e => cases h
  | ok a => exact ⟨a, rfl, h⟩

theorem map_eq_ok_iff {g : α → β} {b : β} : g <$> x = .ok b ↔ ∃ a, x = .ok a ∧ g a = b := by
  cases x <;> simp [Functor.map, Except.map]

/-- Going through a list succeeds exactly if the step does at each element. -/
theorem mapM_eq_ok_iff {bs : List β} :
    l.mapM f = .ok bs ↔ List.Forall₂ (fun a b => f a = .ok b) l bs := by
  induction l generalizing bs with
  | nil => exact ⟨fun h => Except.ok.inj h ▸ .nil, fun h => by cases h; rfl⟩
  | cons a l ih =>
    rw [List.mapM_cons, List.forall₂_cons_left_iff]
    constructor
    · intro h
      obtain ⟨b, hb, h⟩ := exists_of_bind_eq_ok h
      obtain ⟨more, hmore, h⟩ := exists_of_bind_eq_ok h
      cases h
      exact ⟨b, more, hb, ih.mp hmore, rfl⟩
    · rintro ⟨b, more, hb, hmore, rfl⟩
      rw [hb, ih.mpr hmore]
      rfl

/-! ## The first fault -/

variable {Bad : α → ε → Prop}

/-- The fault is one of the first element that has any. -/
def FirstFault (Bad : α → ε → Prop) (l : List α) (e : ε) : Prop :=
  ∃ before a after, l = before ++ a :: after ∧ (∀ b ∈ before, ∀ f, ¬Bad b f) ∧ Bad a e

theorem not_firstFault_nil : ¬FirstFault Bad [] e := by
  rintro ⟨before, a, after, hsplit, _⟩
  simp at hsplit

theorem firstFault_cons_iff :
    FirstFault Bad (a :: l) e ↔ Bad a e ∨ (∀ f, ¬Bad a f) ∧ FirstFault Bad l e := by
  constructor
  · rintro ⟨before, b, after, hsplit, hbefore, hb⟩
    cases before with
    | nil =>
      cases hsplit
      exact .inl hb
    | cons first before =>
      cases hsplit
      exact .inr ⟨hbefore a List.mem_cons_self, before, b, after, rfl,
        fun c hc => hbefore c (List.mem_cons_of_mem a hc), hb⟩
  · rintro (ha | ⟨ha, before, b, after, rfl, hbefore, hb⟩)
    · exact ⟨[], a, l, rfl, nofun, ha⟩
    · refine ⟨a :: before, b, after, rfl, ?_, hb⟩
      exact List.forall_mem_cons.mpr ⟨ha, hbefore⟩

theorem firstFault_congr {Bad' : α → ε → Prop} (h : ∀ a e, Bad a e ↔ Bad' a e) :
    FirstFault Bad l e ↔ FirstFault Bad' l e := by
  rw [funext fun a => funext fun e => propext (h a e)]

/-- The first element that a search finds is the one with the first fault. -/
theorem find?_iff_firstFault {p : α → Bool} {P : α → Prop} {fault : α → ε}
    (hp : ∀ a, p a = true ↔ P a) :
    (∃ a, l.find? p = some a ∧ e = fault a) ↔ FirstFault (fun a e => P a ∧ e = fault a) l e := by
  have hskip (b : α) : (!p b) = true ↔ ∀ f, ¬(P b ∧ f = fault b) := by
    rw [Bool.not_eq_true', ← Bool.not_eq_true, hp]
    exact ⟨fun h f hf => h hf.1, fun h hb => h _ ⟨hb, rfl⟩⟩
  simp only [List.find?_eq_some_iff_append, hp, hskip, FirstFault]
  constructor
  · rintro ⟨a, ⟨ha, before, after, hsplit, hbefore⟩, rfl⟩
    exact ⟨before, a, after, hsplit, hbefore, ha, rfl⟩
  · rintro ⟨before, a, after, hsplit, hbefore, ha, rfl⟩
    exact ⟨a, ⟨ha, before, after, hsplit, hbefore⟩, rfl⟩

/-- If a step fails with the faults of `a`, and what comes after it with the first fault in `l`,
then both together fail with the first fault in `a :: l`. -/
theorem bind_eq_error_iff_firstFault {x : Except ε β} {k : β → Except ε γ}
    (hx : ∀ f, x = .error f ↔ Bad a f)
    (hk : ∀ b, x = .ok b → (k b = .error e ↔ FirstFault Bad l e)) :
    (x >>= k) = .error e ↔ FirstFault Bad (a :: l) e := by
  rw [firstFault_cons_iff]
  cases x with
  | error f =>
    -- what comes after the failure is not reached, and its faults do not count
    have hbad : Bad a f := (hx f).mp rfl
    constructor
    · rintro ⟨⟩
      exact .inl hbad
    · rintro (h | ⟨hnone, _⟩)
      · cases (hx e).mpr h
        rfl
      · exact absurd hbad (hnone f)
  | ok b =>
    have hnone : ∀ f, ¬Bad a f := fun f h => by cases (hx f).mpr h
    constructor
    · exact fun h => .inr ⟨hnone, (hk b rfl).mp h⟩
    · rintro (h | ⟨_, h⟩)
      · exact absurd h (hnone e)
      · exact (hk b rfl).mpr h

theorem map_eq_error_iff {g : α → β} : g <$> x = .error e ↔ x = .error e := by
  cases x <;> simp [Functor.map, Except.map]

/-- **Going through a list fails with the fault of the first element at which the step fails.** -/
theorem mapM_eq_error_iff :
    l.mapM f = .error e ↔ FirstFault (fun a e => f a = .error e) l e := by
  induction l with
  | nil => exact ⟨nofun, fun h => absurd h not_firstFault_nil⟩
  | cons a l ih =>
    rw [List.mapM_cons]
    refine bind_eq_error_iff_firstFault (fun _ => Iff.rfl) fun b _ => ?_
    rw [← ih, bind_pure_comp, map_eq_error_iff]

end DeclaredEnv
