/-!
# Cycles where each point has at most one successor

* `Walk` — how following the successors from a point ends.
* `follow` — the walk from a point.  A walk that neither ends nor comes back visits a new point with
  each step, so as many steps as there are points are enough.
* `cycles` — every cycle once, as the list of its points from the least one on, ordered by that
  point.
-/

namespace DeclaredEnv

/-- How a walk along the successors ends; each case has the points visited, in order. -/
inductive Walk where
  /-- The walk comes back to its first point. -/
  | closed (points : List Nat)
  /-- The last point has no successor. -/
  | stopped (points : List Nat)
  /-- The walk reaches a later point a second time. -/
  | caught (points : List Nat)
  /-- The steps were too few. -/
  | unfinished (points : List Nat)
  deriving DecidableEq, Repr

/-- The points visited. -/
def Walk.points : Walk → List Nat
  | .closed ps => ps
  | .stopped ps => ps
  | .caught ps => ps
  | .unfinished ps => ps

/-- Continue a walk from its first point that has visited `visited` and stands at `current`. -/
def followFrom (next : Nat → Option Nat) (start : Nat) :
    (steps : Nat) → (visited : List Nat) → (current : Nat) → Walk
  | 0, visited, _ => .unfinished visited
  | steps + 1, visited, current =>
    match next current with
    | none => .stopped visited
    | some following =>
      if following = start then .closed visited
      else if visited.contains following then .caught visited
      else followFrom next start steps (visited ++ [following]) following

/-- The walk from a point among `count` of them. -/
def follow (next : Nat → Option Nat) (count start : Nat) : Walk :=
  followFrom next start count [start] start

/-- Each cycle among the points below `count`, from its least point on. -/
def cycles (next : Nat → Option Nat) (count : Nat) : List (List Nat) :=
  (List.range count).filterMap fun start =>
    match follow next count start with
    | .closed points => if points.all (decide <| start ≤ ·) then some points else none
    | _ => none

end DeclaredEnv
