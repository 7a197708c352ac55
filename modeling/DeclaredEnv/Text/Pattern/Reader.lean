import DeclaredEnv.Text.Alphanumeric
import DeclaredEnv.Text.Blank
import DeclaredEnv.Text.Pattern

/-!
# Reading search patterns

* `afterSpace` — what follows blanks and comments, where these do not count.
* `escape?` — what a backslash begins: a character, a place in the text or a class.
* `insideSet?` — what stands between the brackets of a set.
* `opening?` — what an opening parenthesis begins.
* `Pattern.ofText?` — the pattern that a text writes.

A count in braces is not read.
-/

namespace DeclaredEnv.Text

/-- What follows blanks and comments, perhaps in the middle of a comment. -/
def afterBlanks : (inComment : Bool) → List Char → List Char
  | _, [] => []
  | true, c :: rest => afterBlanks (c != '\n') rest
  | false, c :: rest =>
    if isBlank c then afterBlanks false rest
    else if c == '#' then afterBlanks true rest
    else c :: rest

/-- What follows blanks and comments, if these do not count. -/
def afterSpace (spaced : Bool) (cs : List Char) : List Char :=
  if spaced then afterBlanks false cs else cs

/-- An ASCII hexadecimal digit and its value. -/
def hexDigit? (c : Char) : Option Nat :=
  if c.isDigit then some (c.toNat - '0'.toNat)
  else if 'a' ≤ c ∧ c ≤ 'f' then some (c.toNat - 'a'.toNat + 10)
  else if 'A' ≤ c ∧ c ≤ 'F' then some (c.toNat - 'A'.toNat + 10)
  else none

/-- The number of the digits `before` and of `count` hexadecimal digits, and what follows them. -/
def hexNumber? (spaced : Bool) : (count : Nat) → (before : Nat) → List Char →
    Option (Nat × List Char)
  | 0, before, cs => some (before, cs)
  | count + 1, before, cs =>
    match afterSpace spaced cs with
    | [] => none
    | c :: rest => do
      let digit ← hexDigit? c
      hexNumber? spaced count (before * 16 + digit) rest

/-- The character with the code point that `count` hexadecimal digits write. -/
def charByNumber? (spaced : Bool) (count : Nat) (cs : List Char) : Option (Char × List Char) := do
  let (n, rest) ← hexNumber? spaced count 0 cs
  if n.isValidChar then some (Char.ofNat n, afterSpace spaced rest) else none

/-- A mark of ASCII, which stands for itself after a backslash. -/
def isMark (c : Char) : Bool := decide (c.toNat < 128) && !c.isAlphanum

/-- What a backslash begins, given what follows it. -/
def escape? (spaced : Bool) : List Char → Option (Pattern × List Char)
  | [] => none
  | c :: rest =>
    match c with
    | 'x' => (charByNumber? spaced 2 rest).map fun (c, rest) => (.byte c, rest)
    | 'u' => (charByNumber? spaced 4 rest).map fun (c, rest) => (.char c, rest)
    | 'U' => (charByNumber? spaced 8 rest).map fun (c, rest) => (.char c, rest)
    | 'd' => some (.lettered false, rest)
    | 's' => some (.lettered false, rest)
    | 'w' => some (.lettered false, rest)
    | 'D' => some (.lettered true, rest)
    | 'S' => some (.lettered true, rest)
    | 'W' => some (.lettered true, rest)
    | 'a' => some (.char '\x07', rest)
    | 'f' => some (.char '\x0c', rest)
    | 't' => some (.char '\t', rest)
    | 'n' => some (.char '\n', rest)
    | 'r' => some (.char '\r', rest)
    | 'v' => some (.char '\x0b', rest)
    | 'A' => some (.edge, rest)
    | 'z' => some (.edge, rest)
    | 'b' => some (.wordEdge, rest)
    | 'B' => some (.wordEdge, rest)
    | '<' => some (.wordEdge, rest)
    | '>' => some (.wordEdge, rest)
    | c => if isMark c then some (.char c, rest) else none

/-- The names of classes that a set may hold. -/
def classNames : List String :=
  ["alnum", "alpha", "ascii", "blank", "cntrl", "digit", "graph", "lower", "print", "punct",
   "space", "upper", "word", "xdigit"]

/-- A class such as `[:alpha:]`, given what follows its bracket. -/
def namedClass? : List Char → Option (CharSet × List Char)
  | ':' :: cs =>
    let (negated, cs) := match cs with
      | '^' :: rest => (true, rest)
      | other => (false, other)
    let name := String.ofList (cs.takeWhile (· != ':'))
    match cs.dropWhile (· != ':') with
    | ':' :: ']' :: rest => if classNames.contains name then some (.named negated, rest) else none
    | _ => none
  | _ => none

/-- A character as it is or after a backslash. -/
def oneChar? (spaced : Bool) : List Char → Option (Pattern × List Char)
  | [] => none
  | '\\' :: rest => escape? spaced rest
  | c :: rest => some (.char c, rest)

/--
The character after a dash in a set that tells whether the dash makes a range.  Blanks do not count,
and of a comment only its mark does not.
-/
def afterDash? (spaced : Bool) (cs : List Char) : Option Char :=
  if spaced then
    match trimLeft cs with
    | '#' :: rest => (trimLeft rest).head?
    | other => other.head?
  else cs.head?

/-- A character, a class or a range of a set. -/
def setPart? (spaced : Bool) (cs : List Char) : Option (CharSet × List Char) := do
  let (first, rest) ← oneChar? spaced cs
  let alone := first.charSet?.map (·, afterSpace spaced rest)
  match afterSpace spaced rest with
  | '-' :: next =>
    if afterDash? spaced next = some ']' ∨ afterDash? spaced next = some '-' then alone
    else do
      let (last, rest) ← oneChar? spaced (afterSpace spaced next)
      let low ← first.char?
      let high ← last.char?
      if low ≤ high then some (.range low high, rest) else none
  | _ => alone

/-- The parts after an operator, combined with what is left of it.  The last part comes first. -/
def combine (left : Option CharSet) (parts : List CharSet) : CharSet :=
  match left with
  | some set => .combined set (.ofParts parts.reverse)
  | none => .ofParts parts.reverse

/-- Whether a set is negated, given what follows its bracket. -/
def setMark (spaced : Bool) (cs : List Char) : Bool × List Char :=
  match afterSpace spaced cs with
  | '^' :: rest => (true, rest)
  | other => (false, other)

/--
What stands between the brackets of a set, and what follows the closing one.  `left` is what is left
of the last operator, and `parts` are those read after it, the last one first.  At the start dashes,
or else one closing bracket, are characters.
-/
def insideSet? (spaced : Bool) : (fuel : Nat) → (atStart : Bool) → (left : Option CharSet) →
    (parts : List CharSet) → List Char → Option (CharSet × List Char)
  | 0, _, _, _, _ => none
  | fuel + 1, atStart, left, parts, cs =>
    match afterSpace spaced cs with
    | [] => none
    | ']' :: rest =>
      if atStart && parts.isEmpty then insideSet? spaced fuel false left [.char ']'] rest
      else some (combine left parts, rest)
    | '[' :: rest =>
      match namedClass? rest with
      | some (part, rest) => insideSet? spaced fuel false left (part :: parts) rest
      | none => do
        let (negated, rest) := setMark spaced rest
        let (inner, rest) ← insideSet? spaced fuel true none [] rest
        insideSet? spaced fuel false left (.bracketed negated inner :: parts) rest
    | c :: rest =>
      if atStart && c == '-' then insideSet? spaced fuel true left (.char '-' :: parts) rest
      else if ['&', '-', '~'].contains c && rest.head? == some c then
        insideSet? spaced fuel false (some (combine left parts)) [] rest.tail
      else do
        let (part, rest) ← setPart? spaced (c :: rest)
        insideSet? spaced fuel false left (part :: parts) rest

/-- The set after an opening bracket, and what follows the set. -/
def set? (spaced : Bool) (cs : List Char) : Option (CharSet × List Char) := do
  let (negated, rest) := setMark spaced cs
  let (inner, rest) ← insideSet? spaced (rest.length + 1) true none [] rest
  some (.bracketed negated inner, rest)

/-- The text is the name of a group. -/
def isGroupName : List Char → Bool
  | [] => false
  | c :: rest =>
    (c == '_' || isAlphabetic c) &&
      rest.all fun c => ['_', '.', '[', ']'].contains c || isAlphanumeric c

/-- The switches that letters write, all of them on or all of them off. -/
def switchesOf? (on : Bool) (letters : List Char) : Option (List Switch) :=
  letters.mapM fun c => (Mode.ofLetter? c).map (⟨·, on⟩)

/-- The switches that letters write; after a dash they are off.  No way of searching comes twice. -/
def switches? (cs : List Char) : Option (List Switch) := do
  let on ← switchesOf? true (cs.takeWhile (· != '-'))
  let off ← match cs.dropWhile (· != '-') with
    | [] => some []
    | _ :: rest => if rest.isEmpty then none else switchesOf? false rest
  let modes := (on ++ off).map (·.mode)
  if modes.eraseDups = modes then some (on ++ off) else none

/-- What an opening parenthesis begins. -/
inductive Opening where
  | group (name : Option (List Char)) (switches : List Switch)
  | switches (switches : List Switch)
  deriving DecidableEq, Repr

/-- A group with a name, given what follows the `<` in front of it. -/
def namedGroup? (cs : List Char) : Option (Opening × List Char) :=
  let name := cs.takeWhile (· != '>')
  match cs.dropWhile (· != '>') with
  | [] => none
  | _ :: rest => if isGroupName name then some (.group (some name) [], rest) else none

/-- What an opening parenthesis begins, and what follows the opening. -/
def opening? : List Char → Option (Opening × List Char)
  | '?' :: 'P' :: '<' :: rest => namedGroup? rest
  | '?' :: '<' :: rest => namedGroup? rest
  | '?' :: rest =>
    let letters := rest.takeWhile fun c => c != ':' && c != ')'
    match switches? letters, rest.drop letters.length with
    | some switches, ':' :: rest => some (.group none switches, rest)
    | some switches, ')' :: rest =>
      if switches.isEmpty then none else some (.switches switches, rest)
    | _, _ => none
  | rest => some (.group none [], rest)

/-- A character, a place in the text or a class. -/
def atom? (spaced : Bool) : List Char → Option (Pattern × List Char)
  | '.' :: rest => some (.any, rest)
  | '^' :: rest => some (.edge, rest)
  | '$' :: rest => some (.edge, rest)
  | cs => oneChar? spaced cs

/-- What follows a repetition: a mark for the shortest match may come first. -/
def afterRepetition : List Char → List Char
  | '?' :: rest => rest
  | rest => rest

namespace Pattern

/--
The pattern up to the end of a group or of the text.  `choices` are the finished parts of a choice
and `parts` those of the sequence that is being read, the last one first.
-/
def inGroup? : (fuel : Nat) → Modes → (choices parts : List Pattern) → List Char →
    Option (Pattern × List Char)
  | 0, _, _, _, _ => none
  | fuel + 1, modes, choices, parts, cs =>
    let finished := ofSequence parts.reverse :: choices
    match afterSpace (modes .spaced) cs with
    | [] => some (ofChoice finished.reverse, [])
    | ')' :: rest => some (ofChoice finished.reverse, ')' :: rest)
    | '|' :: rest => inGroup? fuel modes finished [] rest
    | '(' :: rest => do
      match ← opening? (afterSpace (modes .spaced) rest) with
      | (.switches list, rest) =>
        inGroup? fuel (modes.turnAll list) choices (.switches list :: parts) rest
      | (.group name list, rest) =>
        match ← inGroup? fuel (modes.turnAll list) [] [] rest with
        | (inner, ')' :: rest) => inGroup? fuel modes choices (.group name list inner :: parts) rest
        | _ => none
    | '[' :: rest => do
      let (chars, rest) ← set? (modes .spaced) rest
      inGroup? fuel modes choices (.set chars :: parts) rest
    | '\x7b' :: _ => none
    | c :: rest =>
      if ['?', '*', '+'].contains c then
        match parts with
        | [] => none
        | last :: others =>
          if last.isSwitches then none
          else inGroup? fuel modes choices (.repeated last :: others) (afterRepetition rest)
      else do
        let (part, rest) ← atom? (modes .spaced) (c :: rest)
        inGroup? fuel modes choices (part :: parts) rest

/-- The pattern that a text writes. -/
def ofText? (cs : List Char) : Option Pattern :=
  match inGroup? (cs.length + 1) .standard [] [] cs with
  | some (pattern, []) => some pattern
  | _ => none

end Pattern

end DeclaredEnv.Text
