import DeclaredEnv.Proofs.Cycle

/-!
# Cycles of conditions

* `RefersTo` — the condition of one variable of a list names another one.
* `Numbers` — a relation between names that a function on their places computes.
* `cycleFaultOf?` — the fault of the cycle that a variable is the first of, if there is one.
* `AllCycles` — a list has every cycle of `RefersTo` once.

Principal results: `cycleFaults_eq_filterMap`, `cycleFaultOf?_eq_some_iff` — there is one fault for
each cycle of `RefersTo`, read from its first declared variable on and in the order of these.
`cycleFaults_eq_allCycles` — each cycle, with all variables of it, is reported once.
-/

namespace DeclaredEnv

open Relation

/-- The condition of a variable named `a` names the variable `b` of the same list. -/
def RefersTo (vars : List Variable) (a b : String) : Prop :=
  ∃ v ∈ vars, ∃ w ∈ vars, v.name = a ∧ w.name = b ∧ ∃ c, v.condition = some c ∧ c.reference = b

theorem RefersTo.mem {vars : List Variable} {a b : String} (h : RefersTo vars a b) :
    a ∈ vars.map (·.name) := by
  obtain ⟨v, hv, _, _, rfl, _⟩ := h
  exact List.mem_map_of_mem hv

/-! ## Names and their places -/

section Places

variable {names : List String}

theorem map_idxOf_eq_range (hn : names.Nodup) :
    names.map names.idxOf = List.range names.length := by
  refine List.ext_getElem (by simp) fun i hi _ => ?_
  rw [List.getElem_map, hn.idxOf_getElem, List.getElem_range]

theorem filterMap_range_eq {γ : Type} (hn : names.Nodup) (f : Nat → Option γ) :
    (List.range names.length).filterMap f = names.filterMap fun name => f (names.idxOf name) := by
  rw [← map_idxOf_eq_range hn, List.filterMap_map]
  rfl

/-- What `next` says of places, `r` says of the names that stand there. -/
structure Numbers (names : List String) (next : Nat → Option Nat) (r : String → String → Prop) :
    Prop where
  nodup : names.Nodup
  leads {i j : Nat} (h : next i = some j) : ∃ a b, names[i]? = some a ∧ names[j]? = some b ∧ r a b
  rel {a b : String} (h : r a b) : ∃ i j, names[i]? = some a ∧ names[j]? = some b ∧ next i = some j

variable {next : Nat → Option Nat} {r : String → String → Prop}

theorem Numbers.lt_length (h : Numbers names next r) (i j : Nat) (hij : next i = some j) :
    i < names.length := by
  obtain ⟨_, _, hi, _⟩ := h.leads hij
  exact (List.getElem?_eq_some_iff.mp hi).1

theorem Numbers.idxOf_eq (h : Numbers names next r) {i : Nat} {a : String}
    (hi : names[i]? = some a) : names.idxOf a = i := by
  obtain ⟨hlt, rfl⟩ := List.getElem?_eq_some_iff.mp hi
  exact h.nodup.idxOf_getElem i hlt

/-- The names of a cycle of places are a cycle of names. -/
theorem Numbers.cycleFrom_of_isCycle (h : Numbers names next r) {i : Nat} {a : String}
    (ha : names[i]? = some a) {rest : List Nat} (hc : IsCycle (Leads next) i rest)
    (hle : ∀ p ∈ rest, i ≤ p) :
    CycleFrom r names a (rest.map (names.getD · "")) := by
  have hlt := hc.forall_mem h.lt_length
  have hat : ∀ p ∈ i :: rest, names[p]? = some (names.getD p "") := fun p hp => by
    simp [List.getD_eq_getElem?_getD, List.getElem?_eq_getElem (hlt p hp)]
  have hstart : names.getD i "" = a := by simp [List.getD_eq_getElem?_getD, ha]
  have hmap : IsCycle r (names.getD i "") (rest.map (names.getD · "")) := by
    refine hc.map (names.getD · "") (fun p q hpq => ?_) (fun p hp q hq heq => ?_)
    · obtain ⟨b, c, hb, hc, hbc⟩ := h.leads hpq
      simpa [List.getD_eq_getElem?_getD, hb, hc] using hbc
    · rw [← h.idxOf_eq (hat p hp), ← h.idxOf_eq (hat q hq), heq]
  rw [hstart] at hmap
  refine ⟨hmap, fun b hb => ?_⟩
  obtain ⟨p, hp, rfl⟩ := List.mem_map.mp hb
  have hne : i ≠ p := fun heq => (List.nodup_cons.mp hc.nodup).1 (heq ▸ hp)
  exact pair_sublist_of_lt ha (hat p (List.mem_cons_of_mem i hp))
    (Nat.lt_of_le_of_ne (hle p hp) hne)

/-- The places of a cycle of names are a cycle of places. -/
theorem Numbers.isCycle_of_cycleFrom (h : Numbers names next r) {a : String} {rest : List String}
    (hc : CycleFrom r names a rest) :
    IsCycle (Leads next) (names.idxOf a) (rest.map names.idxOf) ∧
      ∀ p ∈ rest.map names.idxOf, names.idxOf a ≤ p := by
  have hmem : ∀ b ∈ a :: rest, b ∈ names := hc.forall_mem fun b c hbc => by
    obtain ⟨_, _, hb, _⟩ := h.rel hbc
    exact List.mem_of_getElem? hb
  have hat : ∀ b ∈ a :: rest, names[names.idxOf b]? = some b := fun b hb =>
    List.getElem?_idxOf (hmem b hb)
  constructor
  · refine hc.toIsCycle.map names.idxOf (fun b c hbc => ?_) (fun b hb c hc heq => ?_)
    · obtain ⟨i, j, hi, hj, hij⟩ := h.rel hbc
      rw [Leads, h.idxOf_eq hi, h.idxOf_eq hj, hij]
    · have hb' := hat b hb
      rw [heq, hat c hc] at hb'
      exact (Option.some.inj hb').symm
  · intro p hp
    obtain ⟨b, hb, rfl⟩ := List.mem_map.mp hp
    exact Nat.le_of_lt ((pair_sublist_iff_lt h.nodup (hat a List.mem_cons_self)
      (hat b (List.mem_cons_of_mem a hb))).mp (hc.first b hb))

/-- The names of the cycle of a place, its first name once more at the end. -/
def chainOf? (names : List String) (next : Nat → Option Nat) (start : Nat) :
    Option (List String) :=
  (leastCycle? next names.length start).map fun points =>
    (points ++ points.take 1).filterMap (names[·]?)

theorem Numbers.chainOf?_eq_some_iff (h : Numbers names next r) {a : String} (ha : a ∈ names)
    {chain : List String} : chainOf? names next (names.idxOf a) = some chain ↔
      ∃ rest, CycleFrom r names a rest ∧ chain = a :: (rest ++ [a]) := by
  have hat : names[names.idxOf a]? = some a := List.getElem?_idxOf ha
  simp only [chainOf?, Option.map_eq_some_iff, leastCycle?_eq_some_iff h.lt_length]
  constructor
  · rintro ⟨_, ⟨rest, rfl, hc, hle⟩, rfl⟩
    refine ⟨_, h.cycleFrom_of_isCycle hat hc hle, ?_⟩
    have hlt := hc.forall_mem h.lt_length
    have hrest : rest.filterMap (names[·]?) = rest.map (names.getD · "") := by
      rw [← List.filterMap_eq_map]
      apply List.filterMap_congr
      intro p hp
      have hp' := hlt p (List.mem_cons_of_mem _ hp)
      simp [List.getD_eq_getElem?_getD, List.getElem?_eq_getElem hp']
    simp [List.filterMap_append, hat, hrest]
  · rintro ⟨rest, hc, rfl⟩
    obtain ⟨hcycle, hle⟩ := h.isCycle_of_cycleFrom hc
    refine ⟨_, ⟨rest.map names.idxOf, rfl, hcycle, hle⟩, ?_⟩
    have hmem : ∀ b ∈ a :: rest, b ∈ names := hc.forall_mem fun b c hbc => by
      obtain ⟨_, _, hb, _⟩ := h.rel hbc
      exact List.mem_of_getElem? hb
    have hrest : (rest.map names.idxOf).filterMap (names[·]?) = rest := by
      rw [List.filterMap_map]
      conv => rhs; rw [← List.filterMap_some (l := rest)]
      exact List.filterMap_congr fun b hb =>
        List.getElem?_idxOf (hmem b (List.mem_cons_of_mem a hb))
    simp [List.filterMap_append, hat, hrest]

end Places

/-! ## The variables of a subject -/

variable {subject : String} {vars : List Variable}

theorem placeOf?_eq_some_iff (hn : (vars.map (·.name)).Nodup) {name : String} {i : Nat} :
    placeOf? vars name = some i ↔ (vars.map (·.name))[i]? = some name := by
  have hnodup : (vars.zipIdx.reverse.map (·.1.name)).Nodup := by
    rw [List.map_reverse, List.nodup_reverse]
    have hmap : vars.zipIdx.map (·.1.name) = (vars.zipIdx.map Prod.fst).map (·.name) := by
      rw [List.map_map]
      rfl
    rwa [hmap, List.zipIdx_map_fst]
  simp only [placeOf?, Option.map_eq_some_iff, find?_key_eq_some_iff hnodup, List.mem_reverse,
    List.getElem?_map]
  constructor
  · rintro ⟨⟨v, j⟩, ⟨hv, rfl⟩, rfl⟩
    exact ⟨v, List.mem_zipIdx_iff_getElem?.mp hv, rfl⟩
  · rintro ⟨v, hv, rfl⟩
    exact ⟨(v, i), ⟨List.mem_zipIdx_iff_getElem?.mpr hv, rfl⟩, rfl⟩

theorem referenceAt?_eq_some_iff {i j : Nat} : referenceAt? vars i = some j ↔
    ∃ v c, vars[i]? = some v ∧ v.condition = some c ∧ placeOf? vars c.reference = some j := by
  unfold referenceAt?
  constructor
  · intro h
    split at h
    · cases h
    · rename_i v hv
      split at h
      · cases h
      · rename_i c hc
        exact ⟨v, c, hv, hc, h⟩
  · rintro ⟨v, c, hv, hc, hplace⟩
    simp only [hv, hc, hplace]

theorem numbers_refersTo (hn : (vars.map (·.name)).Nodup) :
    Numbers (vars.map (·.name)) (referenceAt? vars) (RefersTo vars) := by
  refine ⟨hn, ?_, ?_⟩
  · intro i j h
    obtain ⟨v, c, hv, hc, hplace⟩ := referenceAt?_eq_some_iff.mp h
    have hj := (placeOf?_eq_some_iff hn).mp hplace
    obtain ⟨w, hw, hname⟩ := List.mem_map.mp (List.mem_of_getElem? hj)
    refine ⟨v.name, c.reference, by simp [hv], hj, ?_⟩
    exact ⟨v, List.mem_of_getElem? hv, w, hw, rfl, hname, c, hc, rfl⟩
  · rintro a b ⟨v, hv, w, hw, rfl, rfl, c, hc, href⟩
    obtain ⟨i, hi⟩ := List.mem_iff_getElem?.mp hv
    obtain ⟨j, hj⟩ := List.mem_iff_getElem?.mp hw
    refine ⟨i, j, by simp [hi], by simp [hj], ?_⟩
    have hplace : placeOf? vars c.reference = some j :=
      (placeOf?_eq_some_iff hn).mpr (by simp [hj, href])
    exact referenceAt?_eq_some_iff.mpr ⟨v, c, hi, hc, hplace⟩

/-- The faults for cycles are those of the chains from each place. -/
theorem cycleFaults_eq_chainOf? (subject : String) (vars : List Variable) :
    cycleFaults subject vars = (List.range vars.length).filterMap fun i =>
      (chainOf? (vars.map (·.name)) (referenceAt? vars) i).map (.cycle subject) := by
  rw [cycleFaults, cycles_eq_filterMap, List.map_filterMap]
  apply List.filterMap_congr
  intro i _
  simp [chainOf?, Option.map_map, Function.comp_def]

/-- The fault of the cycle that a variable is the first of. -/
def cycleFaultOf? (subject : String) (vars : List Variable) (name : String) : Option Fault :=
  (chainOf? (vars.map (·.name)) (referenceAt? vars) ((vars.map (·.name)).idxOf name)).map
    (.cycle subject)

theorem cycleFaults_eq_filterMap (hn : (vars.map (·.name)).Nodup) :
    cycleFaults subject vars = vars.filterMap fun v => cycleFaultOf? subject vars v.name := by
  have hmap : vars.filterMap (fun v => cycleFaultOf? subject vars v.name) =
      (vars.map (·.name)).filterMap (cycleFaultOf? subject vars) := by
    rw [List.filterMap_map]
    rfl
  have hrange := filterMap_range_eq hn fun i =>
    (chainOf? (vars.map (·.name)) (referenceAt? vars) i).map (Fault.cycle subject)
  rw [List.length_map] at hrange
  rw [hmap, cycleFaults_eq_chainOf?, hrange]
  rfl

/-- **The faults for cycles are those of the cycles of references, from their first variables.** -/
theorem cycleFaultOf?_eq_some_iff (hn : (vars.map (·.name)).Nodup) {v : Variable} (hv : v ∈ vars)
    {f : Fault} : cycleFaultOf? subject vars v.name = some f ↔
      ∃ rest, CycleFrom (RefersTo vars) (vars.map (·.name)) v.name rest ∧
        f = .cycle subject (v.name :: (rest ++ [v.name])) := by
  have hname : v.name ∈ vars.map (·.name) := List.mem_map_of_mem hv
  simp only [cycleFaultOf?, Option.map_eq_some_iff,
    (numbers_refersTo hn).chainOf?_eq_some_iff hname]
  constructor
  · rintro ⟨_, ⟨rest, hc, rfl⟩, rfl⟩
    exact ⟨rest, hc, rfl⟩
  · rintro ⟨rest, hc, rfl⟩
    exact ⟨_, ⟨rest, hc, rfl⟩, rfl⟩

/-! ## All cycles of references -/

/-- A variable refers to at most one other, as names differ. -/
theorem rightUnique_refersTo (hn : (vars.map (·.name)).Nodup) :
    Relator.RightUnique (RefersTo vars) := by
  rintro a b b' ⟨v, hv, _, _, rfl, _, c, hc, rfl⟩ ⟨v', hv', _, _, hname, _, c', hc', rfl⟩
  obtain rfl : v' = v := List.inj_on_of_nodup_map hn hv' hv hname
  rw [hc] at hc'
  cases hc'
  rfl

/-- The cycle that a name is the first of: the name, and the others in order. -/
def cycleOf? (vars : List Variable) (name : String) : Option (String × List String) :=
  (chainOf? (vars.map (·.name)) (referenceAt? vars) ((vars.map (·.name)).idxOf name)).map
    fun chain => (name, chain.tail.dropLast)

theorem cycleOf?_eq_some_iff (hn : (vars.map (·.name)).Nodup) {name : String}
    (hname : name ∈ vars.map (·.name)) {c : String × List String} :
    cycleOf? vars name = some c ↔
      c.1 = name ∧ CycleFrom (RefersTo vars) (vars.map (·.name)) c.1 c.2 := by
  simp only [cycleOf?, Option.map_eq_some_iff, (numbers_refersTo hn).chainOf?_eq_some_iff hname]
  constructor
  · rintro ⟨_, ⟨rest, hc, rfl⟩, rfl⟩
    simpa using hc
  · obtain ⟨start, rest⟩ := c
    rintro ⟨rfl, hc⟩
    exact ⟨_, ⟨rest, hc, rfl⟩, by simp⟩

/-- The list has each cycle of references once: its variable that is declared first, and the others
in the order in which they refer to each other. -/
structure AllCycles (vars : List Variable) (found : List (String × List String)) : Prop where
  /-- A cycle is read from its first variable on and returns to it. -/
  cycle : ∀ c ∈ found, CycleFrom (RefersTo vars) (vars.map (·.name)) c.1 c.2
  /-- It has every variable that its first one reaches and that reaches it. -/
  members : ∀ c ∈ found, ∀ b, b ∈ c.1 :: c.2 ↔
    TransGen (RefersTo vars) c.1 b ∧ TransGen (RefersTo vars) b c.1
  /-- Every variable that reaches itself is on one of the cycles. -/
  once : ∀ a, TransGen (RefersTo vars) a a → ∃! c, c ∈ found ∧ a ∈ c.1 :: c.2
  /-- The cycles stand in the order of their first variables, which differ. -/
  order : (found.map (·.1)).Sublist (vars.map (·.name))

theorem mem_filterMap_cycleOf?_iff (hn : (vars.map (·.name)).Nodup) {c : String × List String} :
    c ∈ (vars.map (·.name)).filterMap (cycleOf? vars) ↔
      CycleFrom (RefersTo vars) (vars.map (·.name)) c.1 c.2 := by
  rw [List.mem_filterMap]
  constructor
  · rintro ⟨name, hname, hc⟩
    exact ((cycleOf?_eq_some_iff hn hname).mp hc).2
  · intro hc
    have hmem : c.1 ∈ vars.map (·.name) :=
      hc.forall_mem (fun _ _ h => h.mem) c.1 List.mem_cons_self
    exact ⟨c.1, hmem, (cycleOf?_eq_some_iff hn hmem).mpr ⟨rfl, hc⟩⟩

theorem allCycles_filterMap (hn : (vars.map (·.name)).Nodup) :
    AllCycles vars ((vars.map (·.name)).filterMap (cycleOf? vars)) := by
  have hr := rightUnique_refersTo hn
  have hmem {c : String × List String} := mem_filterMap_cycleOf?_iff hn (c := c)
  refine ⟨fun c hc => hmem.mp hc, fun c hc b => (hmem.mp hc).mem_iff hr, fun a ha => ?_, ?_⟩
  · simp only [hmem]
    exact existsUnique_cycleFrom hr hn (fun _ _ h => h.mem) ha
  · rw [List.map_filterMap]
    conv => rhs; rw [← List.filterMap_some (l := vars.map (·.name))]
    refine filterMap_sublist_filterMap fun name hname first hfirst => ?_
    obtain ⟨c, hc, rfl⟩ := Option.map_eq_some_iff.mp hfirst
    rw [((cycleOf?_eq_some_iff hn hname).mp hc).1]

theorem cycleFaults_eq_map (hn : (vars.map (·.name)).Nodup) :
    cycleFaults subject vars = ((vars.map (·.name)).filterMap (cycleOf? vars)).map
      fun c => .cycle subject (c.1 :: (c.2 ++ [c.1])) := by
  rw [cycleFaults_eq_filterMap hn, List.map_filterMap, List.filterMap_map]
  apply List.filterMap_congr
  intro v hv
  have hname : v.name ∈ vars.map (·.name) := List.mem_map_of_mem hv
  rw [Function.comp_apply, cycleFaultOf?, cycleOf?, Option.map_map]
  refine Option.map_congr fun chain hchain => ?_
  obtain ⟨rest, _, rfl⟩ := ((numbers_refersTo hn).chainOf?_eq_some_iff hname).mp hchain
  simp

/-- **There is one fault for each cycle of references, in the order of the variables that are
declared first of theirs: its chain starts and ends there, follows the references, and has every
other variable of the cycle once.  There is none exactly if no variable reaches itself.** -/
theorem cycleFaults_eq_allCycles (subject : String) (hn : (vars.map (·.name)).Nodup) :
    (∃ found, AllCycles vars found ∧
      cycleFaults subject vars = found.map fun c => .cycle subject (c.1 :: (c.2 ++ [c.1]))) ∧
      (cycleFaults subject vars = [] ↔ ∀ a, ¬TransGen (RefersTo vars) a a) := by
  refine ⟨⟨_, allCycles_filterMap hn, cycleFaults_eq_map hn⟩, ?_⟩
  have hexists : (∃ start rest, CycleFrom (RefersTo vars) (vars.map (·.name)) start rest) ↔
      ∃ a, TransGen (RefersTo vars) a a := exists_cycleFrom_iff fun _ _ h => h.mem
  rw [cycleFaults_eq_map hn, List.map_eq_nil_iff, List.eq_nil_iff_forall_not_mem]
  simp only [mem_filterMap_cycleOf?_iff hn]
  constructor
  · intro hnone a ha
    obtain ⟨start, rest, hc⟩ := hexists.mpr ⟨a, ha⟩
    exact hnone (start, rest) hc
  · intro hnone c hc
    obtain ⟨a, ha⟩ := hexists.mp ⟨c.1, c.2, hc⟩
    exact hnone a ha

/-- A flag that is needed when another one is set. -/
def flagNeededWhen (name reference : String) : Variable :=
  ⟨"lamps", name, ⟨.bool, false⟩, none, "", some (reference ++ "=true"),
    some ⟨reference, .bool true⟩, []⟩

/-- Two circles, one of which is a variable by itself, a path that leads into a circle, and a
reference to nothing. -/
def tangledVars : List Variable :=
  [flagNeededWhen "TAIL" "RED", flagNeededWhen "GREEN" "RED", flagNeededWhen "SELF" "SELF",
    flagNeededWhen "RED" "GREEN", flagNeededWhen "LOST" "NOWHERE"]

theorem cycleFaults_eq_allCycles_tangled : (tangledVars.map (·.name)).Nodup ∧
    cycleFaults "lamps" tangledVars =
      [.cycle "lamps" ["GREEN", "RED", "GREEN"], .cycle "lamps" ["SELF", "SELF"]] ∧
    (∃ found, AllCycles tangledVars found ∧ cycleFaults "lamps" tangledVars =
      found.map fun c => .cycle "lamps" (c.1 :: (c.2 ++ [c.1]))) ∧
      (cycleFaults "lamps" tangledVars = [] ↔ ∀ a, ¬TransGen (RefersTo tangledVars) a a) := by
  have hn : (tangledVars.map (·.name)).Nodup := by decide
  exact ⟨hn, by decide, cycleFaults_eq_allCycles "lamps" hn⟩

end DeclaredEnv
