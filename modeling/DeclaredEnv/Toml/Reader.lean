/-!
# Reading text from its front

* `Reader` — a step that takes characters off the front of a text, or fails and takes none.
* `many` — a reader as often as it succeeds.  Each success takes at least one character, so a text
  allows no more repetitions than it has characters.
* `separated` — a reader once or more, with another one in between.
-/

namespace DeclaredEnv.Toml

/-- A step that takes characters off the front of a text, or fails. -/
abbrev Reader := StateT (List Char) Option

namespace Reader

variable {α β : Type}

/-- Take this character. -/
def char (c : Char) : Reader Unit
  | d :: rest => if d = c then some ((), rest) else none
  | [] => none

/-- Take these characters. -/
def word : List Char → Reader Unit
  | [] => pure ()
  | c :: cs => do char c; word cs

/-- Take one character of a class. -/
def one (p : Char → Bool) : Reader Char
  | d :: rest => if p d then some (d, rest) else none
  | [] => none

/-- Take characters of a class as long as there are any. -/
def takeWhile (p : Char → Bool) : Reader (List Char) := fun s =>
  some (s.takeWhile p, s.dropWhile p)

/-- Take exactly `count` characters of a class. -/
def exactly (p : Char → Bool) : (count : Nat) → Reader (List Char)
  | 0 => pure []
  | count + 1 => do
    let c ← one p
    let cs ← exactly p count
    pure (c :: cs)

/-- Succeed at the end of the text only. -/
def atEnd : Reader Unit
  | [] => some ((), [])
  | _ :: _ => none

/-- Repeat a reader at most once for each character of `budget`. -/
def manyWithin (r : Reader α) : (budget : List Char) → Reader (List α)
  | [] => pure []
  | _ :: budget => do
    match ← optional r with
    | none => pure []
    | some a => do
      let rest ← manyWithin r budget
      pure (a :: rest)

/-- Repeat a reader as often as it succeeds. -/
def many (r : Reader α) : Reader (List α) := fun s => manyWithin r s s

/-- A reader once or more, with another one in between. -/
def separated (r : Reader α) (separator : Reader β) : Reader (List α) := do
  let first ← r
  let rest ← many do
    let _ ← separator
    r
  pure (first :: rest)

/-- Succeed if a value is there. -/
def given (value : Option α) : Reader α := fun s => value.map (·, s)

end Reader

end DeclaredEnv.Toml
