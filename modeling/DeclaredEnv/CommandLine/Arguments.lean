import DeclaredEnv.Evaluation

/-!
# The arguments of the command line

* `Command` — what the program is asked to do with a schema.
* `Request` — a whole command line: the version, help, or a command with or without log lines.
* `Request.ofArguments?` — reading the arguments.  Before the command stand `-v`, `--verbose`, `-V`,
  `--version`, `-h` and `--help` only; after it, options and the source in any order, and `--` ends
  the options.  No option may be repeated, and the value of one begins with `-` only if it is
  attached or is `-` itself.  A question for help counts if nothing before it is wrong, whatever
  comes after it.
-/

namespace DeclaredEnv.CommandLine

/-- What the program is asked to do with a schema. -/
inductive Command where
  /-- Say whether the schema has faults. -/
  | check (source : String)
  /-- Write the manifest. -/
  | plan (source : String) (output : Option String) (pretty : Bool)
  /-- List the applications with their subjects. -/
  | apps (source : String) (json : Bool)
  /-- Evaluate the environment of the program. -/
  | validate (source : String) (target : Target) (json : Bool)
  deriving DecidableEq, Repr

/-- The file or address of the schema. -/
def Command.source : Command → String
  | .check source => source
  | .plan source .. => source
  | .apps source _ => source
  | .validate source .. => source

/-- A command line. -/
inductive Request where
  | version
  | help
  | command (verbose : Bool) (command : Command)
  deriving DecidableEq, Repr

/-- One argument after the command. -/
inductive Item where
  | flag (name : String)
  | option (name value : String)
  | positional (text : String)
  | help
  deriving DecidableEq, Repr

/-- Two items may not both be there: the same flag or option twice, or a second source. -/
def Item.clashes : Item → Item → Bool
  | .flag name, .flag other => name == other
  | .option name _, .option other _ => name == other
  | .positional _, .positional _ => true
  | _, _ => false

/-- The names of the options of a command, apart from `--verbose` and `--help`. -/
structure OptionNames where
  flags : List String
  valued : List String
  /-- The options whose value may not be empty. -/
  filled : List String
  deriving DecidableEq, Repr

/-- The names of the options of a command, by the name of the command. -/
def optionNames? : String → Option OptionNames
  | "check" => some ⟨[], [], []⟩
  | "plan" => some ⟨["pretty"], ["output"], ["output"]⟩
  | "apps" => some ⟨["json"], [], []⟩
  | "validate" => some ⟨["json"], ["app", "subject"], []⟩
  | _ => none

/-- The argument is a dash with something behind it. -/
def looksLikeOption (arg : String) : Bool :=
  match arg.toList with
  | '-' :: _ :: _ => true
  | _ => false

/-- A long option in its name and the value attached to it. -/
def longOption? (arg : String) : Option (String × Option String) :=
  match arg.toList with
  | '-' :: '-' :: body =>
    let name := String.ofList (body.takeWhile (· != '='))
    match body.dropWhile (· != '=') with
    | [] => some (name, none)
    | _ :: value => some (name, some (String.ofList value))
  | _ => none

/-- The letters of short options. -/
def shortOptions? (arg : String) : Option (List Char) :=
  match arg.toList with
  | '-' :: letter :: letters => some (letter :: letters)
  | _ => none

/-- The items of short options after the command; what stands behind a question for help is not
read. -/
def shortItems? : List Char → Option (List Item)
  | [] => some []
  | 'v' :: rest => (shortItems? rest).map (.flag "verbose" :: ·)
  | 'h' :: _ => some [.help]
  | _ :: _ => none

/-- An option with its value. -/
def valuedItem? (names : OptionNames) (name value : String) : Option Item :=
  if value.isEmpty && names.filled.contains name then none else some (.option name value)

/-- Sort the arguments after the command, up to a question for help. -/
def items? (names : OptionNames) : List String → Option (List Item)
  | [] => some []
  | arg :: rest =>
    if arg = "--" then some (rest.map .positional)
    else
      match longOption? arg with
      | some (name, attached) =>
        if names.valued.contains name then
          match attached with
          | some value => do
            let item ← valuedItem? names name value
            let items ← items? names rest
            pure (item :: items)
          | none =>
            match rest with
            | [] => none
            | value :: rest =>
              if looksLikeOption value then none
              else do
                let item ← valuedItem? names name value
                let items ← items? names rest
                pure (item :: items)
        else if attached.isSome then none
        else if name = "help" then some [.help]
        else if name = "verbose" ∨ names.flags.contains name then
          (items? names rest).map (.flag name :: ·)
        else none
      | none =>
        match shortOptions? arg with
        | some letters =>
          match shortItems? letters with
          | some items =>
            if items.contains .help then some items else (items? names rest).map (items ++ ·)
          | none => none
        | none => (items? names rest).map (.positional arg :: ·)

/-- The value of an option, if it is there. -/
def value? (items : List Item) (name : String) : Option String :=
  items.findSome? fun
    | .option n v => if n = name then some v else none
    | _ => none

/-- The positional argument. -/
def source? (items : List Item) : Option String :=
  items.findSome? fun
    | .positional t => some t
    | _ => none

/-- The target that one of two options names; there has to be one of them, and not both. -/
def target? (application subject : Option String) : Option Target :=
  match application, subject with
  | some a, none => some (.application a)
  | none, some s => some (.subject s)
  | _, _ => none

/-- A command from its name and its items. -/
def Command.ofItems? (name : String) (items : List Item) : Option Command := do
  let source ← source? items
  match name with
  | "check" => pure (.check source)
  | "plan" => pure (.plan source (value? items "output") (items.contains (.flag "pretty")))
  | "apps" => pure (.apps source (items.contains (.flag "json")))
  | "validate" =>
    let target ← target? (value? items "app") (value? items "subject")
    pure (.validate source target (items.contains (.flag "json")))
  | _ => none

/-- The request of a command and the arguments after it. -/
def commandRequest? (verbose : Bool) (name : String) (args : List String) : Option Request := do
  let names ← optionNames? name
  let items ← items? names args
  if ¬items.Pairwise (fun a b => a.clashes b = false) then none
  else if items.contains .help then pure .help
  else
    let command ← Command.ofItems? name items
    pure (.command (verbose || items.contains (.flag "verbose")) command)

/-- The request of `help` and the arguments after it: it takes the name of a command or nothing. -/
def helpRequest? : List String → Option Request
  | [] => some .help
  | [name] => if name = "help" ∨ (optionNames? name).isSome then some .help else none
  | _ => none

/-- What the short options before the command say. -/
inductive Leading where
  | version
  | help
  | verbose
  deriving DecidableEq, Repr

/-- Read short options before the command, with or without `-v` in front of them. -/
def leadingLetters? (verbose : Bool) : List Char → Option Leading
  | [] => some .verbose
  | 'v' :: rest => if verbose then none else if rest.isEmpty then some .verbose
    else leadingLetters? true rest
  | 'V' :: _ => some .version
  | 'h' :: _ => some .help
  | _ :: _ => none

/-- Read a command line from its first argument on. -/
def requestAfter (verbose : Bool) : List String → Option Request
  | [] => none
  | arg :: rest =>
    if arg = "--version" then some .version
    else if arg = "--help" then some .help
    else if arg = "--verbose" then if verbose then none else requestAfter true rest
    else if (longOption? arg).isSome then none
    else
      match shortOptions? arg with
      | some letters =>
        match leadingLetters? verbose letters with
        | some .version => some .version
        | some .help => some .help
        | some .verbose => requestAfter true rest
        | none => none
      | none =>
        if arg = "help" then helpRequest? rest else commandRequest? verbose arg rest

/-- The request of a command line, if it is one. -/
def Request.ofArguments? (args : List String) : Option Request := requestAfter false args

end DeclaredEnv.CommandLine
