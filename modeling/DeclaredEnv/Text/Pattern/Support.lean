import DeclaredEnv.Text.Pattern.Reader

/-!
# Patterns that can be searched for

Searching knows no table of letters, so that classes with a letter, edges of words and folding of
case are there only while Unicode is off.  Then each byte is a character of its own, and as matches
consist of whole characters, nothing can be searched for that a byte above ASCII would match.

* `Pattern.modesAfter` — the ways of searching that are on after a pattern.
* `CharSet.supported`, `Pattern.supported` — the pattern can be searched for in these ways.
* `isPattern` — a text writes such a pattern, which is not too deep and names no two groups alike.
-/

namespace DeclaredEnv.Text

namespace CharSet

/--
A set can hold some characters, which are or are not of ASCII alone.  Without Unicode, where each
byte is a character of its own, those of ASCII can be held, and their case can be folded.
-/
def holdsChars (modes : Modes) (ascii : Bool) : Bool :=
  if modes .unicode then !modes .foldCase else ascii

mutual

/-- The set can be searched for. -/
def supported (modes : Modes) : CharSet → Bool
  | .nothing => true
  | .char c => holdsChars modes (c.toNat < 128)
  | .range _ high => holdsChars modes (high.toNat < 128)
  | .named negated => holdsChars modes !negated
  | .lettered negated => !modes .unicode && !negated
  | .bracketed negated inner => (modes .unicode || !negated) && supported modes inner
  | .union parts => allSupported modes parts
  | .combined left right => supported modes left && supported modes right

/-- All parts can be searched for. -/
def allSupported (modes : Modes) : List CharSet → Bool
  | [] => true
  | part :: parts => supported modes part && allSupported modes parts

end

end CharSet

namespace Pattern

mutual

/-- What is on after a pattern.  Switches in a group count up to its end. -/
def modesAfter (modes : Modes) : Pattern → Modes
  | .switches list => modes.turnAll list
  | .repeated inner => modesAfter modes inner
  | .sequence parts => modesAfterAll modes parts
  | .choice parts => modesAfterAll modes parts
  | .group _ _ _ => modes
  | .empty => modes
  | .char _ => modes
  | .byte _ => modes
  | .any => modes
  | .edge => modes
  | .wordEdge => modes
  | .lettered _ => modes
  | .set _ => modes

/-- What is on after some patterns, one after the other. -/
def modesAfterAll (modes : Modes) : List Pattern → Modes
  | [] => modes
  | part :: parts => modesAfterAll (modesAfter modes part) parts

end

mutual

/-- The pattern can be searched for. -/
def supported (modes : Modes) : Pattern → Bool
  | .empty => true
  | .edge => true
  | .switches _ => true
  | .char _ => !(modes .unicode && modes .foldCase)
  | .byte c => if modes .unicode then !modes .foldCase else decide (c.toNat < 128)
  | .any => modes .unicode
  | .wordEdge => !modes .unicode
  | .lettered negated => !modes .unicode && !negated
  | .set chars => chars.supported modes
  | .repeated inner => supported modes inner
  | .group _ list inner => supported (modes.turnAll list) inner
  | .sequence parts => allSupported modes parts
  | .choice parts => allSupported modes parts

/-- All parts can be searched for, each with the switches of those before it. -/
def allSupported (modes : Modes) : List Pattern → Bool
  | [] => true
  | part :: parts => supported modes part && allSupported (modesAfter modes part) parts

end

/-- The greatest depth of a pattern that can be searched for. -/
def depthLimit : Nat := 250

end Pattern

/-- The text is a pattern that can be searched for. -/
def isPattern (cs : List Char) : Bool :=
  match Pattern.ofText? cs with
  | some pattern =>
    decide (pattern.depth ≤ Pattern.depthLimit) && pattern.names.eraseDups == pattern.names &&
      pattern.supported .standard
  | none => false

end DeclaredEnv.Text
