import DeclaredEnv.Cycle
import DeclaredEnv.Entry
import DeclaredEnv.Fault
import DeclaredEnv.Variable

/-!
# The entries of one subject, and what becomes of them

* `Group` — the entries of one subject, in order.
* `Grouping.ofEntries` — a list of entries parted into groups in the order of their first entries.
  An entry whose subject already has one of its name is set aside.
* `Entry.toVariable` — the variable of an entry by itself, still without its condition.
* `Group.condition` — the condition of an entry, tied to the variable of the group that it names.
* `Group.vars`, `Group.faults` — the variables of a group and what is wrong with its entries.
-/

namespace DeclaredEnv

/-- The entries of one subject. -/
structure Group where
  subject : String
  entries : List Entry
  deriving DecidableEq, Repr

/-- The subject has an entry of this name. -/
def Group.declares (g : Group) (name : String) : Bool := g.entries.any (·.name == name)

/-- The entry of a name. -/
def Group.entry? (g : Group) (name : String) : Option Entry := g.entries.find? (·.name == name)

/-- Groups in the order of their first entries, and the entries set aside as repetitions. -/
structure Grouping where
  groups : List Group
  repeated : List Entry
  deriving DecidableEq, Repr

/-- The entry's subject already has one of its name. -/
def declaredIn (groups : List Group) (e : Entry) : Bool :=
  groups.any fun g => g.subject == e.subject && g.declares e.name

/-- Put an entry at the end of the group of its subject, which is added if there is none. -/
def placeIn (e : Entry) : List Group → List Group
  | [] => [⟨e.subject, [e]⟩]
  | g :: rest =>
    if g.subject = e.subject then { g with entries := g.entries ++ [e] } :: rest
    else g :: placeIn e rest

/-- Take up one more entry. -/
def Grouping.add (a : Grouping) (e : Entry) : Grouping :=
  if declaredIn a.groups e then { a with repeated := a.repeated ++ [e] }
  else { a with groups := placeIn e a.groups }

/-- Part a list of entries into groups. -/
def Grouping.ofEntries (entries : List Entry) : Grouping := entries.foldl Grouping.add ⟨[], []⟩

/-- The elements in order, each where it first occurs. -/
def firstOccurrences (names : List String) : List String :=
  names.foldl (fun seen name => if seen.contains name then seen else seen ++ [name]) []

/-- The variable of an entry by itself, without its condition. -/
def Entry.toVariable (e : Entry) : Except Fault Variable :=
  match Kind.ofToken? e.type with
  | none => .error (.unknownType e.subject e.name e.type)
  | some kind =>
    let variableWith (d : Option Value) : Variable :=
      { subject := e.subject, name := e.name, kind, default? := d, description := e.description,
        requiredWhen := e.requiredWhen, condition := none,
        applications := firstOccurrences e.applications }
    match e.default? with
    | none => .ok (variableWith none)
    | some raw =>
      match kind.read? raw with
      | none => .error (.defaultMismatch e.subject e.name raw kind)
      | some d => .ok (variableWith (some d))

/-- The fault of a comparison that names no variable of its own subject. -/
def strayReference (groups : List Group) (e : Entry) (reference : String) : Fault :=
  match groups.find? fun g => g.subject != e.subject && g.declares reference with
  | some other => .otherSubject e.subject e.name reference other.subject
  | none => .unknownReference e.subject e.name reference

namespace Group

/--
The condition of an entry.  A comparison with a variable that has no kind itself gives none, and no
fault of its own: that variable's fault stands for it.
-/
def condition (g : Group) (groups : List Group) (e : Entry) : Except Fault (Option Condition) :=
  match e.requiredWhen with
  | none => .ok none
  | some text =>
    match Comparison.ofText? text with
    | none => .error (.malformedCondition e.subject e.name text)
    | some comparison =>
      match g.entry? comparison.reference with
      | none => .error (strayReference groups e comparison.reference)
      | some named =>
        match named.toVariable with
        | .error _ => .ok none
        | .ok v =>
          match comparison.bind v.kind v.default?.isSome with
          | .ok c => .ok (some c)
          | .error reason =>
            .error (.notComparable e.subject e.name comparison.reference reason)

/-- The variable of an entry with its condition, if the entry has a kind. -/
def typed? (g : Group) (groups : List Group) (e : Entry) : Option Variable :=
  match e.toVariable with
  | .error _ => none
  | .ok v =>
    match g.condition groups e with
    | .ok c => some { v with condition := c }
    | .error _ => some v

/-- The variables of a group, in the order of its entries. -/
def vars (g : Group) (groups : List Group) : List Variable :=
  g.entries.filterMap (g.typed? groups)

end Group

/-- The fault of a failed step, if it failed. -/
def faultOf? {α : Type} : Except Fault α → Option Fault
  | .error f => some f
  | .ok _ => none

/-- The place of the last variable of a name. -/
def placeOf? (vars : List Variable) (name : String) : Option Nat :=
  (vars.zipIdx.reverse.find? (·.1.name == name)).map (·.2)

/-- The place of the variable that the condition of the one at a place refers to. -/
def referenceAt? (vars : List Variable) (place : Nat) : Option Nat :=
  match vars[place]? with
  | none => none
  | some v =>
    match v.condition with
    | none => none
    | some c => placeOf? vars c.reference

/-- One fault for each cycle of conditions; its chain returns to the name it begins with. -/
def cycleFaults (subject : String) (vars : List Variable) : List Fault :=
  (cycles (referenceAt? vars) vars.length).map fun points =>
    .cycle subject ((points ++ points.take 1).filterMap fun place => vars[place]?.map (·.name))

/-- What is wrong with the entries of a group: kinds and defaults, conditions, then cycles. -/
def Group.faults (g : Group) (groups : List Group) : List Fault :=
  g.entries.filterMap (fun e => faultOf? e.toVariable) ++
    g.entries.filterMap (fun e => faultOf? (g.condition groups e)) ++
    cycleFaults g.subject (g.vars groups)

end DeclaredEnv
