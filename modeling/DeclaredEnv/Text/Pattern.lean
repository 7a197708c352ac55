/-!
# Search patterns

* `Mode`, `Switch`, `Modes` — ways of searching, which a pattern turns on and off.
* `CharSet` — a set of characters between brackets.
* `Pattern` — characters, places in the text and sets, in sequences, choices, repetitions and groups.
* `Pattern.depth` — how many of these parts are inside of one another.
* `Pattern.names` — the names of the groups.

Only what tells which patterns can be searched for is kept: one class of characters, or one place
in the text, is not told from another of its kind.
-/

namespace DeclaredEnv.Text

/-- A way of searching that a pattern can turn on or off. -/
inductive Mode where
  | foldCase
  | lineEdges
  | anyIsAll
  | shortest
  | unicode
  | lineEnds
  /-- Blanks and comments in the pattern do not count. -/
  | spaced
  deriving DecidableEq, Repr

/-- The letter of a way of searching. -/
def Mode.ofLetter? : Char → Option Mode
  | 'i' => some .foldCase
  | 'm' => some .lineEdges
  | 's' => some .anyIsAll
  | 'U' => some .shortest
  | 'u' => some .unicode
  | 'R' => some .lineEnds
  | 'x' => some .spaced
  | _ => none

/-- A way of searching is turned on, or off. -/
structure Switch where
  mode : Mode
  on : Bool
  deriving DecidableEq, Repr

/-- Which ways of searching are on. -/
abbrev Modes := Mode → Bool

namespace Modes

/-- What is on where a pattern begins. -/
def standard : Modes
  | .unicode => true
  | _ => false

/-- What is on after a switch. -/
def turn (modes : Modes) (switch : Switch) : Modes := fun mode =>
  if mode = switch.mode then switch.on else modes mode

/-- What is on after some switches. -/
def turnAll (modes : Modes) (switches : List Switch) : Modes := switches.foldl turn modes

end Modes

/-- A set of characters, or a part of one. -/
inductive CharSet where
  | nothing
  | char (c : Char)
  | range (low high : Char)
  /-- A class with a name, such as `[:alpha:]`, or what is outside of it. -/
  | named (negated : Bool)
  /-- A class with a letter, such as `\d`, or what is outside of it. -/
  | lettered (negated : Bool)
  /-- What is between brackets, or what is outside of it. -/
  | bracketed (negated : Bool) (inner : CharSet)
  | union (parts : List CharSet)
  /-- What an operator such as `&&` makes of two sets. -/
  | combined (left right : CharSet)

namespace CharSet

/-- The union of parts. -/
def ofParts : List CharSet → CharSet
  | [] => .nothing
  | [part] => part
  | parts => .union parts

mutual

/-- The number of brackets, unions and operators that are inside of one another. -/
def depth : CharSet → Nat
  | .nothing => 0
  | .char _ => 0
  | .range _ _ => 0
  | .named _ => 0
  | .lettered _ => 0
  | .bracketed _ inner => inner.depth + 1
  | .union parts => greatestDepth parts + 1
  | .combined left right => max left.depth right.depth + 1

/-- The greatest depth of a part. -/
def greatestDepth : List CharSet → Nat
  | [] => 0
  | part :: parts => max part.depth (greatestDepth parts)

end

end CharSet

/-- A search pattern. -/
inductive Pattern where
  | empty
  | char (c : Char)
  /-- A character by the number of its byte. -/
  | byte (c : Char)
  /-- Any character. -/
  | any
  /-- The beginning or the end of a text or of a line. -/
  | edge
  /-- The beginning or the end of a word, or where neither is. -/
  | wordEdge
  /-- A class with a letter, such as `\d`, or what is outside of it. -/
  | lettered (negated : Bool)
  | set (chars : CharSet)
  | repeated (inner : Pattern)
  | group (name : Option (List Char)) (switches : List Switch) (inner : Pattern)
  /-- Switches for the rest of the group. -/
  | switches (switches : List Switch)
  | sequence (parts : List Pattern)
  | choice (parts : List Pattern)

namespace Pattern

/-- The pattern of parts that follow one another. -/
def ofSequence : List Pattern → Pattern
  | [] => .empty
  | [part] => part
  | parts => .sequence parts

/-- The pattern of a choice between parts. -/
def ofChoice : List Pattern → Pattern
  | [part] => part
  | parts => .choice parts

/-- Switches are not searched for. -/
def isSwitches : Pattern → Bool
  | .switches _ => true
  | _ => false

/-- The characters of a pattern for one character, if a set may hold them. -/
def charSet? : Pattern → Option CharSet
  | .char c => some (.char c)
  | .byte c => some (.char c)
  | .lettered negated => some (.lettered negated)
  | _ => none

/-- The one character of a pattern. -/
def char? : Pattern → Option Char
  | .char c => some c
  | .byte c => some c
  | _ => none

mutual

/-- The number of parts with parts of their own that are inside of one another. -/
def depth : Pattern → Nat
  | .set chars => chars.depth
  | .repeated inner => inner.depth + 1
  | .group _ _ inner => inner.depth + 1
  | .sequence parts => greatestDepth parts + 1
  | .choice parts => greatestDepth parts + 1
  | .empty => 0
  | .char _ => 0
  | .byte _ => 0
  | .any => 0
  | .edge => 0
  | .wordEdge => 0
  | .lettered _ => 0
  | .switches _ => 0

/-- The greatest depth of a part. -/
def greatestDepth : List Pattern → Nat
  | [] => 0
  | part :: parts => max part.depth (greatestDepth parts)

end

mutual

/-- The names of the groups, from the left. -/
def names : Pattern → List (List Char)
  | .repeated inner => inner.names
  | .group name _ inner => name.toList ++ inner.names
  | .sequence parts => allNames parts
  | .choice parts => allNames parts
  | .empty => []
  | .char _ => []
  | .byte _ => []
  | .any => []
  | .edge => []
  | .wordEdge => []
  | .lettered _ => []
  | .set _ => []
  | .switches _ => []

/-- The names of the groups in all parts. -/
def allNames : List Pattern → List (List Char)
  | [] => []
  | part :: parts => part.names ++ allNames parts

end

end Pattern

end DeclaredEnv.Text
