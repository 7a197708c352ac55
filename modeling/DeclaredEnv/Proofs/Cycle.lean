import DeclaredEnv.Cycle
import DeclaredEnv.Proofs.Sequence
import Mathlib.Data.List.Chain
import Mathlib.Order.WellFounded

/-!
# Walks find cycles

* `IsCycle` — the points of a cycle of any relation, each once.
* `CycleFrom` — a cycle read from that point of it on which stands first in a list.
* `Leads` — the relation of a point with its successor.
* `Visited` — what holds of the points that a walk has visited.

Principal results: `exists_isCycle_iff` — a point reaches itself if and only if it is on a cycle.
`exists_cycleFrom_iff` — some point reaches itself if and only if some cycle has a first point.
`IsCycle.mem_iff`, `existsUnique_cycleFrom` — where no point has two successors, a cycle has all the
points that reach each other, and a point that reaches itself is on one cycle.
`follow_eq_closed_iff` — a walk comes back to its first point exactly along the cycle of that point.
`leastCycle?_eq_some_iff` — `cycles` takes each cycle from its least point on.
-/

namespace DeclaredEnv

open Relation

variable {α : Type} {r : α → α → Prop}

/-- `start` and then the points of `rest` are the points of a cycle, each once. -/
structure IsCycle (r : α → α → Prop) (start : α) (rest : List α) : Prop where
  chain : List.IsChain r (start :: (rest ++ [start]))
  nodup : (start :: rest).Nodup

theorem transGen_of_isChain : ∀ {l : List α} {a b : α}, List.IsChain r (a :: (l ++ [b])) →
    TransGen r a b
  | [], _, _, h => .single (List.isChain_pair.mp h)
  | _ :: _, _, _, h => by
    rw [List.cons_append, List.isChain_cons_cons] at h
    exact .head h.1 (transGen_of_isChain h.2)

theorem exists_isChain_of_transGen {a b : α} (h : TransGen r a b) :
    ∃ l, List.IsChain r (a :: (l ++ [b])) := by
  induction h using TransGen.head_induction_on with
  | single hab => exact ⟨[], List.isChain_pair.mpr hab⟩
  | @head a c hac _ ih =>
    obtain ⟨l, hl⟩ := ih
    exact ⟨c :: l, List.isChain_cons_cons.mpr ⟨hac, hl⟩⟩

/-- A path that meets a point twice can leave out what is between. -/
theorem exists_nodup_isChain : ∀ {l : List α} {a b : α}, List.IsChain r (a :: (l ++ [b])) →
    ∃ m, List.IsChain r (a :: (m ++ [b])) ∧ (a :: m).Nodup
  | [], a, _, h => ⟨[], h, List.nodup_singleton a⟩
  | c :: l, a, b, h => by
    rw [List.cons_append, List.isChain_cons_cons] at h
    obtain ⟨m, hm, hnd⟩ := exists_nodup_isChain h.2
    by_cases ha : a ∈ c :: m
    · obtain ⟨before, after, heq⟩ := List.append_of_mem ha
      have hsplit : c :: (m ++ [b]) = before ++ a :: (after ++ [b]) := by
        rw [← List.cons_append, heq, List.append_assoc, List.cons_append]
      refine ⟨after, ?_, ?_⟩
      · rw [hsplit] at hm
        exact hm.right_of_append
      · rw [heq] at hnd
        exact (List.sublist_append_right before (a :: after)).nodup hnd
    · exact ⟨c :: m, List.isChain_cons_cons.mpr ⟨h.1, hm⟩, List.nodup_cons.mpr ⟨ha, hnd⟩⟩

/-- **A point reaches itself if and only if it is on a cycle.** -/
theorem exists_isCycle_iff {a : α} : (∃ rest, IsCycle r a rest) ↔ TransGen r a a := by
  constructor
  · rintro ⟨rest, h⟩
    exact transGen_of_isChain h.chain
  · intro h
    obtain ⟨l, hl⟩ := exists_isChain_of_transGen h
    obtain ⟨rest, hchain, hnodup⟩ := exists_nodup_isChain hl
    exact ⟨rest, hchain, hnodup⟩

/-- The first point of a cycle and another one reach each other. -/
theorem IsCycle.reaches_of_mem {start p : α} {rest : List α} (h : IsCycle r start rest)
    (hp : p ∈ rest) : TransGen r start p ∧ TransGen r p start := by
  obtain ⟨before, after, rfl⟩ := List.append_of_mem hp
  have hchain := h.chain
  rw [List.append_assoc, List.cons_append, List.isChain_cons_split] at hchain
  exact ⟨transGen_of_isChain hchain.1, transGen_of_isChain hchain.2⟩

theorem IsCycle.transGen_of_mem {start p : α} {rest : List α} (h : IsCycle r start rest)
    (hp : p ∈ rest) : TransGen r p p :=
  (h.reaches_of_mem hp).2.trans (h.reaches_of_mem hp).1

/-- What holds of every point with a successor holds of the points of a cycle. -/
theorem IsCycle.forall_mem {p : α → Prop} {start : α} {rest : List α} (h : IsCycle r start rest)
    (hr : ∀ a b, r a b → p a) : ∀ a ∈ start :: rest, p a := by
  intro a ha
  have hself : TransGen r a a := by
    rcases List.mem_cons.mp ha with rfl | ha
    · exact exists_isCycle_iff.mp ⟨rest, h⟩
    · exact h.transGen_of_mem ha
  obtain ⟨b, hab, _⟩ := TransGen.head'_iff.mp hself
  exact hr a b hab

/-- Renaming the points of a cycle gives a cycle if the new names differ. -/
theorem IsCycle.map {β : Type} {s : β → β → Prop} {start : α} {rest : List α}
    (h : IsCycle r start rest) (f : α → β) (hrs : ∀ a b, r a b → s (f a) (f b))
    (hf : ∀ a ∈ start :: rest, ∀ b ∈ start :: rest, f a = f b → a = b) :
    IsCycle s (f start) (rest.map f) := by
  constructor
  · have hchain := List.isChain_map_of_isChain f hrs h.chain
    simpa using hchain
  · exact List.Nodup.map_on hf h.nodup

/-- A cycle from `start` on, which stands before the other points of it in a list. -/
structure CycleFrom (r : α → α → Prop) (order : List α) (start : α) (rest : List α) : Prop extends
    IsCycle r start rest where
  first : ∀ p ∈ rest, [start, p].Sublist order

/-- Points that are on no cycle do not matter for the order. -/
theorem cycleFrom_iff_of_sublist {l m : List α} (hm : m.Sublist l) (hl : l.Nodup)
    (hr : ∀ a b, r a b → a ∈ m) {start : α} {rest : List α} :
    CycleFrom r m start rest ↔ CycleFrom r l start rest := by
  constructor
  · intro h
    exact ⟨h.toIsCycle, fun p hp => (h.first p hp).trans hm⟩
  · intro h
    have hmem := h.forall_mem hr
    refine ⟨h.toIsCycle, fun p hp => ?_⟩
    have hne : start ≠ p := fun heq => (List.nodup_cons.mp h.nodup).1 (heq ▸ hp)
    exact (pair_sublist_iff hm hl (hmem start List.mem_cons_self)
      (hmem p (List.mem_cons_of_mem start hp)) hne).mpr (h.first p hp)

/-- A point that reaches itself is on a cycle that is read from its first point on: the first of the
points that it reaches and that reach it. -/
theorem exists_cycleFrom_of_transGen [DecidableEq α] {order : List α}
    (hr : ∀ a b, r a b → a ∈ order) {a : α} (ha : TransGen r a a) :
    ∃ start rest, CycleFrom r order start rest ∧ TransGen r a start ∧ TransGen r start a := by
  let joined : Set α := {b | TransGen r a b ∧ TransGen r b a}
  have hex : joined.Nonempty := ⟨a, ha, ha⟩
  let start := Function.argminOn order.idxOf joined hex
  obtain ⟨hto, hback⟩ : start ∈ joined := Function.argminOn_mem order.idxOf joined hex
  obtain ⟨rest, hc⟩ := exists_isCycle_iff.mpr (hback.trans hto)
  refine ⟨start, rest, ⟨hc, fun p hp => ?_⟩, hto, hback⟩
  have hmem := hc.forall_mem hr
  have hjoined : p ∈ joined :=
    ⟨hto.trans (hc.reaches_of_mem hp).1, (hc.reaches_of_mem hp).2.trans hback⟩
  have hle : order.idxOf start ≤ order.idxOf p := Function.argminOn_le order.idxOf joined hjoined
  have hs : order[order.idxOf start]? = some start :=
    List.getElem?_idxOf (hmem start List.mem_cons_self)
  have hp' : order[order.idxOf p]? = some p :=
    List.getElem?_idxOf (hmem p (List.mem_cons_of_mem start hp))
  refine pair_sublist_of_lt hs hp' (Nat.lt_of_le_of_ne hle fun heq => ?_)
  rw [heq, hp'] at hs
  cases hs
  exact (List.nodup_cons.mp hc.nodup).1 hp

/-- **Some point reaches itself if and only if some cycle has a point that stands first.** -/
theorem exists_cycleFrom_iff [DecidableEq α] {order : List α} (hr : ∀ a b, r a b → a ∈ order) :
    (∃ start rest, CycleFrom r order start rest) ↔ ∃ a, TransGen r a a := by
  constructor
  · rintro ⟨start, rest, h⟩
    exact ⟨start, exists_isCycle_iff.mp ⟨rest, h.toIsCycle⟩⟩
  · rintro ⟨a, ha⟩
    obtain ⟨start, rest, h, _⟩ := exists_cycleFrom_of_transGen hr ha
    exact ⟨start, rest, h⟩

/-! ## At most one successor -/

section Functional

variable (hr : Relator.RightUnique r)
include hr

/-- Paths back to one point from another that do not meet it before are the same. -/
theorem eq_of_isChain {start : α} : ∀ {l m : List α} {a : α},
    List.IsChain r (a :: (l ++ [start])) → List.IsChain r (a :: (m ++ [start])) →
      start ∉ l → start ∉ m → l = m
  | [], [], _, _, _, _, _ => rfl
  | [], c :: m, a, hl, hm, _, hs => by
    rw [List.cons_append, List.isChain_cons_cons] at hm
    have hc : start = c := hr (List.isChain_pair.mp hl) hm.1
    exact absurd hc (List.ne_of_not_mem_cons hs)
  | b :: l, [], a, hl, hm, hs, _ => by
    rw [List.cons_append, List.isChain_cons_cons] at hl
    have hb : start = b := hr (List.isChain_pair.mp hm) hl.1
    exact absurd hb (List.ne_of_not_mem_cons hs)
  | b :: l, c :: m, a, hl, hm, hsl, hsm => by
    rw [List.cons_append, List.isChain_cons_cons] at hl hm
    obtain rfl : b = c := hr hl.1 hm.1
    rw [eq_of_isChain hl.2 hm.2 (List.not_mem_of_not_mem_cons hsl)
      (List.not_mem_of_not_mem_cons hsm)]

/-- A point has one cycle. -/
theorem IsCycle.rest_unique {start : α} {rest rest' : List α} (h : IsCycle r start rest)
    (h' : IsCycle r start rest') : rest = rest' :=
  eq_of_isChain hr h.chain h'.chain (List.nodup_cons.mp h.nodup).1 (List.nodup_cons.mp h'.nodup).1

/-- The successor of a point of a cycle is on the cycle. -/
theorem IsCycle.next_mem {start a b : α} {rest : List α} (h : IsCycle r start rest)
    (ha : a ∈ start :: rest) (hab : r a b) : b ∈ start :: rest := by
  obtain ⟨before, after, hsplit⟩ := List.append_of_mem ha
  have hchain : List.IsChain r (before ++ a :: (after ++ [start])) := by
    have heq : before ++ a :: (after ++ [start]) = start :: (rest ++ [start]) := by
      rw [← List.cons_append, ← List.append_assoc, ← hsplit, List.cons_append]
    exact heq ▸ h.chain
  have hafter := hchain.right_of_append
  cases after with
  | nil =>
    obtain rfl := hr hab (List.isChain_pair.mp hafter)
    exact List.mem_cons_self
  | cons c after =>
    rw [List.cons_append, List.isChain_cons_cons] at hafter
    obtain rfl := hr hab hafter.1
    rw [hsplit]
    simp

/-- **The points of a cycle are those that its first point reaches and that reach it.** -/
theorem IsCycle.mem_iff {start b : α} {rest : List α} (h : IsCycle r start rest) :
    b ∈ start :: rest ↔ TransGen r start b ∧ TransGen r b start := by
  constructor
  · intro hb
    rcases List.mem_cons.mp hb with rfl | hb
    · have hself := exists_isCycle_iff.mp ⟨rest, h⟩
      exact ⟨hself, hself⟩
    · exact h.reaches_of_mem hb
  · rintro ⟨hreach, -⟩
    induction hreach with
    | single hab => exact h.next_mem hr List.mem_cons_self hab
    | tail _ hbc ih => exact h.next_mem hr ih hbc

/-- **A point that reaches itself is on one cycle, read from its first point on.** -/
theorem existsUnique_cycleFrom [DecidableEq α] {order : List α} (ho : order.Nodup)
    (hmem : ∀ a b, r a b → a ∈ order) {a : α} (ha : TransGen r a a) :
    ∃! c : α × List α, CycleFrom r order c.1 c.2 ∧ a ∈ c.1 :: c.2 := by
  obtain ⟨start, rest, hc, hto, hback⟩ := exists_cycleFrom_of_transGen hmem ha
  refine ⟨(start, rest), ⟨hc, (hc.mem_iff hr).mpr ⟨hback, hto⟩⟩, ?_⟩
  rintro ⟨start', rest'⟩ ⟨hc', ha'⟩
  obtain ⟨hback', hto'⟩ := (hc'.mem_iff hr).mp ha'
  have hsame : start' = start := by
    by_contra hne
    -- each of the two first points would stand before the other
    have h₁ := (hc.mem_iff hr).mpr ⟨hback.trans hto', hback'.trans hto⟩
    have h₂ := (hc'.mem_iff hr).mpr ⟨hback'.trans hto, hback.trans hto'⟩
    have hlt := hc.first start' ((List.mem_cons.mp h₁).resolve_left hne)
    have hgt := hc'.first start ((List.mem_cons.mp h₂).resolve_left (Ne.symm hne))
    exact pair_sublist_asymm ho hlt hgt
  subst hsame
  rw [hc.rest_unique hr hc'.toIsCycle]

end Functional

/-! ## The walk from one point -/

/-- `b` is the successor of `a`. -/
abbrev Leads (next : Nat → Option Nat) (a b : Nat) : Prop := next a = some b

variable {next : Nat → Option Nat} {count start : Nat}

/-- A walk from `start` has visited the points `seen` after it and stands at `current`. -/
structure Visited (next : Nat → Option Nat) (start : Nat) (seen : List Nat) (current : Nat) :
    Prop where
  chain : List.IsChain (Leads next) (start :: seen)
  nodup : (start :: seen).Nodup
  last : (start :: seen).getLast? = some current

theorem Visited.init (next : Nat → Option Nat) (start : Nat) : Visited next start [] start :=
  ⟨List.isChain_singleton start, List.nodup_singleton start, rfl⟩

theorem Visited.chain_concat {seen : List Nat} {current following : Nat}
    (h : Visited next start seen current) (hn : next current = some following) :
    List.IsChain (Leads next) (start :: (seen ++ [following])) := by
  rw [← List.cons_append]
  refine List.IsChain.append h.chain (List.isChain_singleton following) ?_
  intro a ha b hb
  rw [h.last, Option.mem_some] at ha
  cases hb
  exact ha ▸ hn

theorem Visited.step {seen : List Nat} {current following : Nat}
    (h : Visited next start seen current) (hn : next current = some following)
    (hf : following ∉ start :: seen) : Visited next start (seen ++ [following]) following := by
  refine ⟨h.chain_concat hn, ?_, by rw [← List.cons_append, List.getLast?_concat]⟩
  rw [← List.cons_append, List.nodup_append]
  refine ⟨h.nodup, List.nodup_singleton following, ?_⟩
  intro a ha b hb hab
  rw [List.mem_singleton] at hb
  exact hf (hb ▸ hab ▸ ha)

theorem isCycle_of_followFrom {points : List Nat} : ∀ {steps : Nat} {seen : List Nat}
    {current : Nat}, Visited next start seen current →
    followFrom next start steps (start :: seen) current = .closed points →
    ∃ rest, points = start :: rest ∧ IsCycle (Leads next) start rest
  | 0, _, _, _, h => by simp [followFrom] at h
  | steps + 1, seen, current, hv, h => by
    unfold followFrom at h
    split at h
    · cases h
    · rename_i following hn
      split at h
      · rename_i hs
        subst hs
        cases h
        exact ⟨seen, rfl, hv.chain_concat hn, hv.nodup⟩
      · split at h
        · cases h
        · rename_i hf
          exact isCycle_of_followFrom (hv.step hn (by simpa using hf)) h

/-- A walk along a path back to its first point does not end before it is there. -/
theorem followFrom_of_isChain : ∀ {rest visited : List Nat} {steps current : Nat},
    List.IsChain (Leads next) (current :: (rest ++ [start])) → (visited ++ rest).Nodup →
    start ∉ rest → rest.length < steps →
    followFrom next start steps visited current = .closed (visited ++ rest)
  | [], visited, steps + 1, current, hc, _, _, _ => by
    have hn : Leads next current start := List.isChain_pair.mp hc
    simp [followFrom, hn]
  | p :: rest, visited, steps + 1, current, hc, hnd, hs, hl => by
    rw [List.cons_append, List.isChain_cons_cons] at hc
    obtain ⟨hn, hc⟩ := hc
    rw [List.mem_cons, not_or] at hs
    have hp : p ∉ visited := by
      rw [List.nodup_append] at hnd
      exact fun hp => hnd.2.2 p hp p List.mem_cons_self rfl
    have hmore : followFrom next start steps (visited ++ [p]) p =
        .closed (visited ++ [p] ++ rest) := followFrom_of_isChain hc (by simpa using hnd) hs.2 (by simpa using hl)
    simp only [followFrom, hn, if_neg (Ne.symm hs.1), List.contains_iff_mem, if_neg hp, hmore]
    simp

theorem length_lt_of_nodup {rest : List Nat} (hnd : (start :: rest).Nodup)
    (hlt : ∀ p ∈ start :: rest, p < count) : rest.length < count := by
  have hsub : start :: rest ⊆ List.range count := fun p hp => List.mem_range.mpr (hlt p hp)
  simpa [Nat.succ_le_iff] using hnd.length_le_of_subset hsub

/-- **A walk comes back to its first point exactly along the cycle of that point.** -/
theorem follow_eq_closed_iff (hnext : ∀ a b, next a = some b → a < count) {points : List Nat} :
    follow next count start = .closed points ↔
      ∃ rest, points = start :: rest ∧ IsCycle (Leads next) start rest := by
  constructor
  · exact isCycle_of_followFrom (Visited.init next start)
  · rintro ⟨rest, rfl, h⟩
    have hstart : start ∉ rest := (List.nodup_cons.mp h.nodup).1
    have hcount : rest.length < count := length_lt_of_nodup h.nodup (h.forall_mem hnext)
    exact followFrom_of_isChain h.chain h.nodup hstart hcount

/-! ## All cycles -/

/-- The cycle of a point, if it is the least of it. -/
def leastCycle? (next : Nat → Option Nat) (count start : Nat) : Option (List Nat) :=
  match follow next count start with
  | .closed points => if points.all (decide <| start ≤ ·) then some points else none
  | _ => none

theorem cycles_eq_filterMap (next : Nat → Option Nat) (count : Nat) :
    cycles next count = (List.range count).filterMap (leastCycle? next count) := rfl

theorem leastCycle?_eq_some_iff (hnext : ∀ a b, next a = some b → a < count) {points : List Nat} :
    leastCycle? next count start = some points ↔
      ∃ rest, points = start :: rest ∧ IsCycle (Leads next) start rest ∧ ∀ p ∈ rest, start ≤ p := by
  unfold leastCycle?
  constructor
  · intro h
    split at h
    · rename_i found hf
      obtain ⟨rest, rfl, hc⟩ := (follow_eq_closed_iff hnext).mp hf
      rw [Option.ite_none_right_eq_some] at h
      obtain ⟨hall, h⟩ := h
      cases h
      exact ⟨rest, rfl, hc, by simpa using hall⟩
    · cases h
  · rintro ⟨rest, rfl, hc, hle⟩
    rw [(follow_eq_closed_iff hnext).mpr ⟨rest, rfl, hc⟩]
    simpa using hle

end DeclaredEnv
