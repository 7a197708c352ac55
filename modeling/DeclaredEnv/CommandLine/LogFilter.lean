import DeclaredEnv.CommandLine.Log
import DeclaredEnv.Number.Decimal
import DeclaredEnv.Text.Alphanumeric
import DeclaredEnv.Text.Blank
import DeclaredEnv.Text.LetterCase
import DeclaredEnv.Text.Pattern.Support

/-!
# Which log lines are written

* `Level` — how much is written.
* `Clause` — one part of the text of a filter, such as `debug`, `env_schema=debug` or
  `env_schema[{entries}]=debug`.
* `Clause.ofText?` — the clause that a text without commas writes.
* `Directive` — what a clause says of events.
* `LogFilter` — directives.  Of those that concern an event the closest one decides: the one with
  the longest origin, then one with a field, then the one with the greater field, then the last.
* `LogFilter.ofText?` — the directives of clauses with commas between them.
* `logText` — the lines of the events that a filter lets pass.
-/

namespace DeclaredEnv.CommandLine

open Number Text

/-- How much is written. -/
inductive Level where
  | off
  | error
  | warn
  | info
  | debug
  | trace
  deriving DecidableEq, Repr

namespace Level

/-- The level lets the events of this program pass, which are of the level `debug`. -/
def passesDebug : Level → Bool
  | .debug => true
  | .trace => true
  | _ => false

/-- The level with a number. -/
def ofNumber? : Nat → Option Level
  | 0 => some .off
  | 1 => some .error
  | 2 => some .warn
  | 3 => some .info
  | 4 => some .debug
  | 5 => some .trace
  | _ => none

/-- The level with a name in small letters. -/
def ofName? : String → Option Level
  | "off" => some .off
  | "error" => some .error
  | "warn" => some .warn
  | "info" => some .info
  | "debug" => some .debug
  | "trace" => some .trace
  | _ => none

/-- The level that a text names: digits after an optional plus, or a word in either case of ASCII. -/
def ofText? (text : List Char) : Option Level :=
  let digits := match text with
    | '+' :: rest => rest
    | other => other
  if isDigits digits then ofNumber? (digitsValue digits)
  else ofName? (String.ofList (asciiLowercase text))

end Level

/-- What an event or a span must have: a field of a name, and perhaps a value in it. -/
structure FieldTest where
  name : String
  valued : Bool
  deriving DecidableEq, Repr

/-- One part of the text of a filter. -/
structure Clause where
  /-- The beginning of an origin. -/
  origin : Option String
  /-- The name of a span. -/
  span : Option String
  field : Option FieldTest
  level : Level
  deriving DecidableEq, Repr

/-- The test that a text between braces writes; a value is a number or a search pattern. -/
def FieldTest.ofText? (text : List Char) : Option FieldTest :=
  match text with
  | [] => none
  | _ :: _ =>
    let name := String.ofList (text.takeWhile (· != '='))
    match text.dropWhile (· != '=') with
    | [] => some ⟨name, false⟩
    | _ :: rest =>
      let value := rest.takeWhile (· != '=')
      if (readFloat? value).isSome || isPattern value then some ⟨name, true⟩ else none

/-- The number of bytes of a text. -/
def byteCount (cs : List Char) : Nat := cs.foldl (fun n c => n + c.utf8Size) 0

/-- The text from a position in bytes on, unless the position is inside a character. -/
def fromByte? : (position : Nat) → List Char → Option (List Char)
  | 0, cs => some cs
  | _ + 1, [] => none
  | position + 1, c :: cs =>
    if c.utf8Size ≤ position + 1 then fromByte? (position + 1 - c.utf8Size) cs else none

/-- The first bytes of a text, unless they end inside a character. -/
def firstBytes? : (count : Nat) → List Char → Option (List Char)
  | 0, _ => some []
  | _ + 1, [] => none
  | count + 1, c :: cs =>
    if c.utf8Size ≤ count + 1 then (firstBytes? (count + 1 - c.utf8Size) cs).map (c :: ·)
    else none

/-- The part of a text between two positions in bytes. -/
def cut? (raw : List Char) (start stop : Nat) : Option (List Char) := do
  let rest ← fromByte? start raw
  firstBytes? (stop - start) rest

namespace Clause

/-- The level at the end of a clause, from a position on; no text stands for `trace`. -/
def levelFrom? (raw : List Char) (position : Nat) : Option Level := do
  match ← fromByte? position raw with
  | [] => pure .trace
  | text => Level.ofText? text

/-- A clause of a word alone: a level, or else the beginning of an origin. -/
def ofWord (raw : List Char) : Clause :=
  match Level.ofText? raw with
  | some level => ⟨none, none, none, level⟩
  | none => ⟨some (String.ofList raw), none, none, .trace⟩

/-- The level after a bracket that ends at a position, given the characters from there on. -/
def levelAfterBracket? (raw : List Char) (position : Nat) : List Char → Option Level
  | [] => some .trace
  | '=' :: _ => levelFrom? raw (position + 1)
  | _ => none

/-- A clause with a bracket that opens before a position, given the characters from there on. -/
def bracketed? (raw : List Char) (origin : Option String) (start : Nat) (cs : List Char) :
    Option Clause := do
  let name := cs.takeWhile fun c => c != ']' && c != '\x7b'
  let stop := start + byteCount name
  let span ← cut? raw start stop
  match cs.drop name.length with
  | [] => none
  | ']' :: rest =>
    let level ← levelAfterBracket? raw (stop + 1) rest
    pure ⟨origin, some (String.ofList span), none, level⟩
  | _ :: rest =>
    let inner := rest.takeWhile (· != '\x7d')
    let innerStop := stop + 1 + byteCount inner
    match rest.drop inner.length with
    | '\x7d' :: ']' :: rest =>
      let field ← FieldTest.ofText? (← cut? raw (stop + 1) innerStop)
      let level ← levelAfterBracket? raw (innerStop + 2) rest
      pure ⟨origin, if span.isEmpty then none else some (String.ofList span), some field, level⟩
    | _ => none

/-- A clause can begin with this character. -/
def canBegin (c : Char) : Bool := isAlphanumeric c || c == '-' || c == ':' || c == '_'

/--
The clause that a text without commas writes.  The marks are looked for in the text without the
blanks at its ends, but the parts are cut from the whole text at the same positions, so that blanks
in front push the parts apart from what they seem to be.
-/
def ofText? (raw : List Char) : Option Clause :=
  match trim raw with
  | [] => none
  | '[' :: rest => bracketed? raw none 1 rest
  | first :: others =>
    if !canBegin first then none
    else
      let cs := first :: others
      let head := cs.takeWhile fun c => c != '=' && c != '['
      let stop := byteCount head
      match cs.drop head.length with
      | [] => some (ofWord raw)
      | '=' :: _ => do
        let origin ← cut? raw 0 stop
        let level ← levelFrom? raw (stop + 1)
        pure ⟨some (String.ofList origin), none, none, level⟩
      | _ :: rest => do
        let origin ← cut? raw 0 stop
        bracketed? raw (some (String.ofList origin)) (stop + 1) rest

end Clause

/-- A level for the events with an origin that begins with a text, and with a field. -/
structure Directive where
  origin : Option String
  field : Option String
  level : Level
  deriving DecidableEq, Repr

/--
What the clause says of events.  A clause with a span or with a value concerns what happens inside
of spans, and no event of this program does.
-/
def Clause.directive? (c : Clause) : Option Directive :=
  match c.span, c.field with
  | none, none => some ⟨c.origin, none, c.level⟩
  | none, some test => if test.valued then none else some ⟨c.origin, some test.name, c.level⟩
  | some _, _ => none

namespace Directive

/-- The directive is about the event. -/
def concerns (d : Directive) (e : LogEvent) : Bool :=
  (match d.origin with
    | some origin => origin.toList.isPrefixOf e.origin.toList
    | none => true) &&
  match d.field with
  | some name => e.hasField name
  | none => true

/-- The length of the origin, which is more than that of none. -/
def reach (d : Directive) : Nat :=
  match d.origin with
  | some origin => origin.length + 1
  | none => 0

/-- The first directive is at least as close to the events that both concern as the second one. -/
def atLeastAsClose (a b : Directive) : Bool :=
  let fieldOrder := match a.field, b.field with
    | some x, some y => compare x y
    | some _, none => .gt
    | none, some _ => .lt
    | none, none => .eq
  (compare a.reach b.reach).then fieldOrder != .lt

end Directive

/-- Which events are written. -/
abbrev LogFilter := List Directive

/-- The parts of a text between its commas. -/
def commaParts : List Char → List (List Char)
  | [] => [[]]
  | c :: rest =>
    match commaParts rest with
    | [] => [[c]]
    | part :: parts => if c == ',' then [] :: part :: parts else (c :: part) :: parts

namespace LogFilter

/-- The filter that a text writes. -/
def ofText? (text : String) : Option LogFilter :=
  let parts := (commaParts text.toList).filter (!·.isEmpty)
  (parts.mapM Clause.ofText?).map (·.filterMap Clause.directive?)

/-- The filter of a program without settings of its own. -/
def standard (verbose : Bool) : LogFilter :=
  [⟨some "env_schema", none, if verbose then .debug else .warn⟩]

/-- The directive that decides on an event. -/
def deciding? (filter : LogFilter) (event : LogEvent) : Option Directive :=
  (filter.filter (·.concerns event)).foldl (fun best d =>
    match best with
    | some b => if d.atLeastAsClose b then some d else best
    | none => some d) none

/-- The event is written. -/
def passes (filter : LogFilter) (event : LogEvent) : Bool :=
  match filter.deciding? event with
  | some d => d.level.passesDebug
  | none => false

end LogFilter

/-- The lines of the events that a filter lets pass. -/
def logText (styles : Bool) (filter : LogFilter) (events : List LogEvent) : String :=
  String.join ((events.filter filter.passes).map (LogEvent.line styles))

end DeclaredEnv.CommandLine
