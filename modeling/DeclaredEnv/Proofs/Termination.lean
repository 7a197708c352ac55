import DeclaredEnv.Proofs.Reference

/-!
# The search for cycles ends

`follow` takes as many steps as there are points at most.  Here the walks are given by rules that
put no bound on their turns; each turn looks up the successor of one point.

* `Standing` — what a walk has visited, and where it goes on from.
* `GoesOn`, `EndsAs` — a turn that visits a new point, and a turn that ends the walk.
* `Reaches`, `WalkEnds` — where a walk stands after a number of turns, and in which turn it ends.
* `Gives` — the fault that a walk gives, if any.
* `SearchEnds` — the walks from some places, one after the other, with all their turns and faults.

Principal results: `Reaches.visited` — a walk never visits a point twice.
`exists_walkEnds` — so it ends, in as many turns as there are points at most.
`follow_of_walkEnds` — `follow` ends it in the same way.
`searchEnds_cycleFaults` — the search in any list of variables ends, with the faults `cycleFaults`.
-/

namespace DeclaredEnv

/-- The points that a walk has visited, in order, and the one that it goes on from. -/
structure Standing where
  visited : List Nat
  current : Nat

/-- A turn of the walk from `start` that does not end it: the successor is a new point. -/
inductive GoesOn (next : Nat → Option Nat) (start : Nat) : Standing → Standing → Prop where
  | visit {visited : List Nat} {current following : Nat}
      (successor : next current = some following) (away : following ≠ start)
      (new : following ∉ visited) :
      GoesOn next start ⟨visited, current⟩ ⟨visited ++ [following], following⟩

/-- A turn that ends the walk from `start`. -/
inductive EndsAs (next : Nat → Option Nat) (start : Nat) : Standing → Walk → Prop where
  | stopped {visited : List Nat} {current : Nat} (successor : next current = none) :
      EndsAs next start ⟨visited, current⟩ (.stopped visited)
  | closed {visited : List Nat} {current : Nat} (successor : next current = some start) :
      EndsAs next start ⟨visited, current⟩ (.closed visited)
  | caught {visited : List Nat} {current following : Nat}
      (successor : next current = some following) (away : following ≠ start)
      (met : following ∈ visited) : EndsAs next start ⟨visited, current⟩ (.caught visited)

/-- The walk from `start` has not ended in its first `turns` turns and stands there after them. -/
inductive Reaches (next : Nat → Option Nat) (start : Nat) : Nat → Standing → Prop where
  | init : Reaches next start 0 ⟨[start], start⟩
  | turn {turns : Nat} {s t : Standing} (before : Reaches next start turns s)
      (last : GoesOn next start s t) : Reaches next start (turns + 1) t

/-- The walk from `start` ends in the turn of that number, the first one being number 1. -/
inductive WalkEnds (next : Nat → Option Nat) (start : Nat) : Nat → Walk → Prop where
  | turn {turns : Nat} {s : Standing} {walk : Walk} (before : Reaches next start turns s)
      (last : EndsAs next start s walk) : WalkEnds next start (turns + 1) walk

/-- A walk that comes back to its first place gives a fault if no place on it is an earlier one; the
fault has the names at the places, all of which are in the list. -/
inductive Gives (subject : String) (vars : List Variable) (start : Nat) :
    Walk → Option Fault → Prop where
  | cycle {points : List Nat} {names : List String} (least : ∀ p ∈ points, start ≤ p)
      (named : List.Forall₂ (fun p name => (vars.map (·.name))[p]? = some name)
        (points ++ [start]) names) :
      Gives subject vars start (.closed points) (some (.cycle subject names))
  | nothing {walk : Walk} (notLeast : ∀ points, walk = .closed points → ∃ p ∈ points, p < start) :
      Gives subject vars start walk none

/-- The walks from the places of a list end one after the other; their turns are counted together,
and their faults stand in order. -/
inductive SearchEnds (subject : String) (vars : List Variable) :
    List Nat → Nat → List Fault → Prop where
  | done : SearchEnds subject vars [] 0 []
  | walk {start turns more : Nat} {starts : List Nat} {walk : Walk} {fault? : Option Fault}
      {faults : List Fault} (ends : WalkEnds (referenceAt? vars) start turns walk)
      (gives : Gives subject vars start walk fault?)
      (others : SearchEnds subject vars starts more faults) :
      SearchEnds subject vars (start :: starts) (turns + more) (fault?.toList ++ faults)

variable {next : Nat → Option Nat} {count start turns : Nat} {s t : Standing} {walk : Walk}

/-! ## The turns of a walk -/

/-- A turn goes on with the walk or ends it. -/
theorem exists_turn (next : Nat → Option Nat) (start : Nat) (s : Standing) :
    (∃ t, GoesOn next start s t) ∨ ∃ walk, EndsAs next start s walk := by
  obtain ⟨visited, current⟩ := s
  cases hn : next current with
  | none => exact .inr ⟨_, .stopped hn⟩
  | some following =>
    by_cases hs : following = start
    · subst hs
      exact .inr ⟨_, .closed hn⟩
    · by_cases hv : following ∈ visited
      · exact .inr ⟨_, .caught hn hs hv⟩
      · exact .inl ⟨_, .visit hn hs hv⟩

/-- **A walk has visited one more point with each turn, and no point twice.** -/
theorem Reaches.visited (h : Reaches next start turns s) : ∃ seen, s.visited = start :: seen ∧
    seen.length = turns ∧ Visited next start seen s.current := by
  induction h with
  | init => exact ⟨[], rfl, rfl, Visited.init next start⟩
  | turn _ last ih =>
    cases last with
    | @visit visited current following successor away new =>
      obtain ⟨seen, hvisited, hlength, hv⟩ := ih
      simp only at hvisited hv
      subst hvisited
      refine ⟨seen ++ [following], rfl, ?_, hv.step successor new⟩
      rw [List.length_append, hlength, List.length_singleton]

/-- As long as a walk has not ended, it can take one more turn. -/
theorem exists_walkEnds_or_reaches (next : Nat → Option Nat) (start turns : Nat) :
    (∃ earlier walk, WalkEnds next start earlier walk) ∨ ∃ s, Reaches next start turns s := by
  induction turns with
  | zero => exact .inr ⟨_, .init⟩
  | succ turns ih =>
    rcases ih with hends | ⟨s, hs⟩
    · exact .inl hends
    · rcases exists_turn next start s with ⟨t, ht⟩ | ⟨walk, hw⟩
      · exact .inr ⟨t, hs.turn ht⟩
      · exact .inl ⟨turns + 1, walk, .turn hs hw⟩

/-! ## The walk with a bound on its steps -/

theorem followFrom_of_goesOn (h : GoesOn next start s t) (steps : Nat) :
    followFrom next start (steps + 1) s.visited s.current =
      followFrom next start steps t.visited t.current := by
  cases h with
  | visit successor away new =>
    simp only [followFrom, successor, if_neg away, List.contains_iff_mem, if_neg new]

theorem followFrom_of_endsAs (h : EndsAs next start s walk) (steps : Nat) :
    followFrom next start (steps + 1) s.visited s.current = walk := by
  cases h with
  | stopped successor => simp only [followFrom, successor]
  | closed successor => simp only [followFrom, successor, if_pos]
  | caught successor away met =>
    simp only [followFrom, successor, if_neg away, List.contains_iff_mem, if_pos met]

theorem followFrom_of_reaches (h : Reaches next start turns s) (steps : Nat) :
    followFrom next start (turns + steps) [start] start =
      followFrom next start steps s.visited s.current := by
  induction h generalizing steps with
  | init => rw [Nat.zero_add]
  | turn _ last ih => rw [Nat.add_assoc, Nat.add_comm 1 steps, ih, followFrom_of_goesOn last]

/-- With as many steps as it has turns, or more of them, a walk ends as it does by itself. -/
theorem followFrom_of_walkEnds (h : WalkEnds next start turns walk) {steps : Nat}
    (hsteps : turns ≤ steps) : followFrom next start steps [start] start = walk := by
  cases h with
  | turn before last =>
    obtain ⟨more, rfl⟩ := Nat.exists_eq_add_of_le hsteps
    rw [Nat.add_assoc, Nat.add_comm 1 more, followFrom_of_reaches before,
      followFrom_of_endsAs last]

/-! ## The number of turns -/

section Bounded

variable (hnext : ∀ a b, next a = some b → b < count) (hstart : start < count)
include hnext hstart

theorem Reaches.lt_count (h : Reaches next start turns s) : ∀ p ∈ s.visited, p < count := by
  induction h with
  | init =>
    intro p hp
    rw [List.mem_singleton] at hp
    exact hp ▸ hstart
  | turn _ last ih =>
    cases last with
    | visit successor _ _ =>
      intro p hp
      rcases List.mem_append.mp hp with hp | hp
      · exact ih p hp
      · rw [List.mem_singleton] at hp
        exact hp ▸ hnext _ _ successor

/-- A walk that goes on would run out of new points. -/
theorem Reaches.turns_lt (h : Reaches next start turns s) : turns < count := by
  obtain ⟨seen, hvisited, rfl, hv⟩ := h.visited
  have hlt := h.lt_count hnext hstart
  rw [hvisited] at hlt
  exact length_lt_of_nodup hv.nodup hlt

theorem WalkEnds.lt_count (h : WalkEnds next start turns walk) : ∀ p ∈ walk.points, p < count := by
  cases h with
  | turn before last => cases last <;> exact before.lt_count hnext hstart

theorem WalkEnds.turns_le (h : WalkEnds next start turns walk) : turns ≤ count := by
  cases h with
  | turn before _ => exact before.turns_lt hnext hstart

/-- **`follow` ends a walk as it ends by itself.** -/
theorem follow_of_walkEnds (h : WalkEnds next start turns walk) :
    follow next count start = walk :=
  followFrom_of_walkEnds h (h.turns_le hnext hstart)

/-- **A walk ends, in as many turns as there are points at most.** -/
theorem exists_walkEnds : ∃ turns ≤ count, WalkEnds next start turns (follow next count start) := by
  rcases exists_walkEnds_or_reaches next start count with ⟨turns, walk, h⟩ | ⟨s, hs⟩
  · rw [follow_of_walkEnds hnext hstart h]
    exact ⟨turns, h.turns_le hnext hstart, h⟩
  · exact absurd (hs.turns_lt hnext hstart) (Nat.lt_irrefl count)

end Bounded

/-! ## The walk from a place of a list -/

variable {subject : String} {vars : List Variable}

theorem placeOf?_lt {name : String} {i : Nat} (h : placeOf? vars name = some i) :
    i < vars.length := by
  obtain ⟨⟨v, j⟩, hfind, rfl⟩ := Option.map_eq_some_iff.mp h
  have hmem := List.mem_reverse.mp (List.mem_of_find?_eq_some hfind)
  exact (List.getElem?_eq_some_iff.mp (List.mem_zipIdx_iff_getElem?.mp hmem)).1

/-- Whatever the names and the conditions are, a condition refers to a place of the list. -/
theorem referenceAt?_lt (vars : List Variable) (i j : Nat) (h : referenceAt? vars i = some j) :
    j < vars.length := by
  obtain ⟨_, _, _, _, hplace⟩ := referenceAt?_eq_some_iff.mp h
  exact placeOf?_lt hplace

/-- The fault of the cycle that a place is the least one of. -/
def faultFrom? (subject : String) (vars : List Variable) (start : Nat) : Option Fault :=
  (chainOf? (vars.map (·.name)) (referenceAt? vars) start).map (.cycle subject)

section Place

variable (hstart : start < vars.length) (hw : WalkEnds (referenceAt? vars) start turns walk)
include hstart hw

theorem faultFrom?_of_gives {fault? : Option Fault} (h : Gives subject vars start walk fault?) :
    faultFrom? subject vars start = fault? := by
  have hfollow := follow_of_walkEnds (referenceAt?_lt vars) hstart hw
  cases h with
  | @cycle points names least named =>
    obtain ⟨rest, rfl, _⟩ := isCycle_of_followFrom (Visited.init (referenceAt? vars) start) hfollow
    have hall : (start :: rest).all (decide <| start ≤ ·) = true := by simpa using least
    have hnames : (start :: rest ++ [start]).filterMap ((vars.map (·.name))[·]?) = names := by
      rw [filterMap_eq_of_forall₂ named fun _ _ hp => hp, List.filterMap_some]
    simp only [faultFrom?, chainOf?, List.length_map, leastCycle?, hfollow, if_pos hall,
      Option.map_some]
    exact congrArg (some <| Fault.cycle subject ·) hnames
  | nothing notLeast =>
    simp only [faultFrom?, chainOf?, List.length_map, leastCycle?, hfollow]
    cases walk with
    | closed points =>
      have hall : ¬points.all (decide <| start ≤ ·) = true := by simpa using notLeast points rfl
      simp only [if_neg hall, Option.map_none]
    | stopped points => rfl
    | caught points => rfl
    | unfinished points => rfl

theorem exists_gives (subject : String) : ∃ fault?, Gives subject vars start walk fault? := by
  by_cases hleast : ∃ points, walk = .closed points ∧ ∀ p ∈ points, start ≤ p
  · obtain ⟨points, rfl, hleast⟩ := hleast
    have hlt : ∀ p ∈ points ++ [start], p < (vars.map (·.name)).length := by
      intro p hp
      rw [List.length_map]
      rcases List.mem_append.mp hp with hp | hp
      · exact hw.lt_count (referenceAt?_lt vars) hstart p hp
      · exact List.mem_singleton.mp hp ▸ hstart
    exact ⟨_, .cycle hleast <| forall₂_filterMap fun p hp =>
      ⟨_, List.getElem?_eq_getElem (hlt p hp), List.getElem?_eq_getElem (hlt p hp)⟩⟩
  · refine ⟨none, .nothing fun points hpoints => ?_⟩
    by_contra hnot
    exact hleast ⟨points, hpoints, fun p hp => Nat.le_of_not_lt fun hlt => hnot ⟨p, hp, hlt⟩⟩

end Place

/-! ## The walks from all places -/

theorem exists_searchEnds (subject : String) (vars : List Variable) :
    ∀ {starts : List Nat}, (∀ start ∈ starts, start < vars.length) →
      ∃ turns faults, SearchEnds subject vars starts turns faults
  | [], _ => ⟨_, _, .done⟩
  | start :: starts, hstarts => by
    obtain ⟨hstart, hstarts⟩ := List.forall_mem_cons.mp hstarts
    obtain ⟨turns, _, hwalk⟩ := exists_walkEnds (referenceAt?_lt vars) hstart
    obtain ⟨fault?, hgives⟩ := exists_gives hstart hwalk subject
    obtain ⟨more, faults, hothers⟩ := exists_searchEnds subject vars hstarts
    exact ⟨turns + more, fault?.toList ++ faults, .walk hwalk hgives hothers⟩

theorem SearchEnds.faults_eq {starts : List Nat} {faults : List Fault}
    (h : SearchEnds subject vars starts turns faults)
    (hstarts : ∀ start ∈ starts, start < vars.length) :
    faults = starts.filterMap (faultFrom? subject vars) := by
  induction h with
  | done => rfl
  | @walk start turns more starts walk fault? faults ends gives _ ih =>
    obtain ⟨hstart, hstarts⟩ := List.forall_mem_cons.mp hstarts
    rw [List.filterMap_cons, faultFrom?_of_gives hstart ends gives, ← ih hstarts]
    cases fault? <;> rfl

theorem SearchEnds.turns_le {starts : List Nat} {faults : List Fault}
    (h : SearchEnds subject vars starts turns faults)
    (hstarts : ∀ start ∈ starts, start < vars.length) :
    turns ≤ starts.length * vars.length := by
  induction h with
  | done => exact Nat.zero_le _
  | @walk start turns more starts walk fault? faults ends _ _ ih =>
    obtain ⟨hstart, hstarts⟩ := List.forall_mem_cons.mp hstarts
    calc turns + more
        ≤ vars.length + starts.length * vars.length :=
          Nat.add_le_add (ends.turns_le (referenceAt?_lt vars) hstart) (ih hstarts)
      _ = (start :: starts).length * vars.length := by
          rw [List.length_cons, Nat.succ_mul, Nat.add_comm]

/-- **The search for cycles in a list of variables ends, whatever their names and conditions are, and
gives the faults of `cycleFaults`.  A walk never visits a place twice, and has ended after as many
turns as there are variables.** -/
theorem searchEnds_cycleFaults (subject : String) (vars : List Variable) :
    (∃ turns, SearchEnds subject vars (List.range vars.length) turns (cycleFaults subject vars)) ∧
    (∀ turns faults, SearchEnds subject vars (List.range vars.length) turns faults →
      turns ≤ vars.length * vars.length ∧ faults = cycleFaults subject vars) ∧
    ∀ start < vars.length,
      (∀ turns s, Reaches (referenceAt? vars) start turns s →
        s.visited.Nodup ∧ (∀ p ∈ s.visited, p < vars.length) ∧ turns < vars.length) ∧
      ∃ turns ≤ vars.length,
        WalkEnds (referenceAt? vars) start turns (follow (referenceAt? vars) vars.length start) := by
  have hrange : ∀ start ∈ List.range vars.length, start < vars.length :=
    fun _ => List.mem_range.mp
  have hfaults : ∀ turns faults, SearchEnds subject vars (List.range vars.length) turns faults →
      faults = cycleFaults subject vars := by
    intro turns faults h
    rw [cycleFaults_eq_chainOf?]
    exact h.faults_eq hrange
  refine ⟨?_, ?_, ?_⟩
  · obtain ⟨turns, faults, h⟩ := exists_searchEnds subject vars hrange
    exact ⟨turns, hfaults turns faults h ▸ h⟩
  · intro turns faults h
    have hturns := h.turns_le hrange
    rw [List.length_range] at hturns
    exact ⟨hturns, hfaults turns faults h⟩
  · intro start hstart
    have hnext := referenceAt?_lt vars
    refine ⟨fun turns s h => ?_, exists_walkEnds hnext hstart⟩
    obtain ⟨seen, hvisited, _, hv⟩ := h.visited
    exact ⟨hvisited ▸ hv.nodup, h.lt_count hnext hstart, h.turns_lt hnext hstart⟩

/-- A path that leads into a circle, a name that is declared twice, a variable that refers to itself,
and a reference to nothing. -/
def repeatedVars : List Variable :=
  [flagNeededWhen "TAIL" "RED", flagNeededWhen "RED" "SELF", flagNeededWhen "GREEN" "RED",
    flagNeededWhen "SELF" "SELF", flagNeededWhen "RED" "GREEN", flagNeededWhen "LOST" "NOWHERE"]

theorem searchEnds_cycleFaults_repeated :
    (∃ turns ≤ 36, SearchEnds "lamps" repeatedVars [0, 1, 2, 3, 4, 5] turns
      [.cycle "lamps" ["GREEN", "RED", "GREEN"], .cycle "lamps" ["SELF", "SELF"]]) ∧
    0 < repeatedVars.length ∧
    ∃ turns ≤ 6, WalkEnds (referenceAt? repeatedVars) 0 turns (.caught [0, 4, 2]) := by
  have hfaults : cycleFaults "lamps" repeatedVars =
      [.cycle "lamps" ["GREEN", "RED", "GREEN"], .cycle "lamps" ["SELF", "SELF"]] := by decide
  have hwalk : follow (referenceAt? repeatedVars) 6 0 = .caught [0, 4, 2] := by decide
  obtain ⟨⟨turns, h⟩, hbound, hwalks⟩ := searchEnds_cycleFaults "lamps" repeatedVars
  have hturns := (hbound turns _ h).1
  rw [hfaults] at h
  exact ⟨⟨turns, hturns, h⟩, by decide, hwalk ▸ (hwalks 0 (by decide)).2⟩

end DeclaredEnv
