import DeclaredEnv.Text.Quoted

/-!
# Log lines

* `LogEvent` — what the program reports of its work: a message with fields, and the part of the
  program that reports.
* `LogEvent.line` — the line of an event, with terminal styles or without.
-/

namespace DeclaredEnv.CommandLine

open Text

/-- What the program reports of its work. -/
inductive LogEvent where
  | loadedDocument (source : String) (entries : Nat)
  | builtSubject (subject : String) (count : Nat)
  | builtSchema (entries subjects applications : Nat)
  | evaluated (subjects violations : Nat)
  deriving DecidableEq, Repr

namespace LogEvent

/-- The part of the program that reports the event. -/
def origin : LogEvent → String
  | .loadedDocument .. => "env_schema"
  | .builtSubject .. => "env_schema::graph"
  | .builtSchema .. => "env_schema::schema"
  | .evaluated .. => "env_schema::evaluate"

/-- What happened. -/
def message : LogEvent → String
  | .loadedDocument .. => "loaded document"
  | .builtSubject .. => "built subject"
  | .builtSchema .. => "built schema"
  | .evaluated .. => "evaluated environment"

/-- The particulars of the event: names with texts. -/
def fields : LogEvent → List (String × String)
  | .loadedDocument source entries =>
    [("source", quoted source), ("entries", toString entries)]
  | .builtSubject subject count =>
    [("subject", quoted subject), ("variables", toString count)]
  | .builtSchema entries subjects applications =>
    [("entries", toString entries), ("subjects", toString subjects),
     ("applications", toString applications)]
  | .evaluated subjects violations =>
    [("subjects", toString subjects), ("violations", toString violations)]

/-- The event has a field of this name; its message counts as one. -/
def hasField (e : LogEvent) (name : String) : Bool :=
  name == "message" || e.fields.any (·.1 == name)

/-- The text in a style of the terminal, by the number of the style. -/
def styled (number : String) (text : String) : String :=
  "\x1b[" ++ number ++ "m" ++ text ++ "\x1b[0m"

/--
The line of the event.  With styles the level is blue, the names of fields are in italics, and the
equals signs are dimmed.
-/
def line (styles : Bool) (e : LogEvent) : String :=
  let style (number text : String) := if styles then styled number text else text
  style "34" "DEBUG" ++ " " ++ e.message ++
    String.join (e.fields.map fun f => " " ++ style "3" f.1 ++ style "2" "=" ++ f.2) ++ "\n"

end LogEvent

end DeclaredEnv.CommandLine
