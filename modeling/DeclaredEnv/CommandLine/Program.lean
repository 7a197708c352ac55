import DeclaredEnv.CommandLine.Arguments
import DeclaredEnv.CommandLine.FileSystem
import DeclaredEnv.CommandLine.LogFilter
import DeclaredEnv.CommandLine.Settings
import DeclaredEnv.Manifest
import DeclaredEnv.SchemaDocument

/-!
# The program

* `Fetched` — what comes of a source: a text or an error, and what is reported meanwhile.
* `Failure` — why there is no schema to work with.
* `openSchema` — the schema of a source, with what is reported on the way.
* `Response` — what a run prints, its exit code, and the file that it asks to be written.
* `LogSettings` — what a process is told of its log lines.
* `Command.respond` — the response to a command, given what came of its source and the settings.
* `Host` — what a run finds outside of the program.
* `Host.run` — a whole run.  `run` — a whole run without the web.

Neither the transfer of a document from the web nor the words of the libraries that read documents
and command lines are described here.  A host brings them along, so that whatever is proved of a run
holds for all that the web may deliver and for all that the libraries may say.
-/

namespace DeclaredEnv.CommandLine

/-- The name and the version of the program. -/
def versionText : String := "env-schema 0.1.0\n"

/-- How to call the program. -/
def usageText : String :=
  "Usage: env-schema [-v] <check | plan | apps | validate> <SCHEMA> [OPTIONS]\n" ++
    "  plan      [--pretty] [--output <FILE>]\n" ++
    "  apps      [--json]\n" ++
    "  validate  [--json] (--app <NAME> | --subject <NAME>)\n"

/-- What the program is for, and how to call it. -/
def helpText : String := "Resolve and validate environment-variable schemas\n\n" ++ usageText

/-- Why the web delivers no text. -/
inductive WebError where
  /-- The program was built without access to the web. -/
  | noAccess
  | failed (reason : String)
  deriving DecidableEq, Repr

/-- Why a source delivers no text. -/
inductive SourceError where
  | file (error : FileError)
  | web (error : WebError)
  deriving DecidableEq, Repr

/-- What comes of a source. -/
structure Fetched (ε : Type) where
  /-- What is reported while the source is read. -/
  lines : String
  text : Except ε String

/-- What a library says of a text that is no document, of a question for help, and of a command
line that is none. -/
structure Wording where
  noDocument : (text : String) → String
  help : (args : List String) → String
  usage : (args : List String) → String

/-- The words in which the program speaks for itself. -/
def Wording.plain : Wording :=
  ⟨fun _ => "the text is no TOML document", fun _ => helpText, fun _ => usageText⟩

/-- Why there is no schema to work with. -/
inductive Failure where
  | unreadable (source : String) (error : SourceError)
  | noDocument (reason : String)
  | invalidEntry (path : String) (fault : EntryFault)
  | invalidSchema (faults : List Fault)
  deriving DecidableEq, Repr

namespace Failure

/-- The failure on the error stream. -/
def text : Failure → String
  | .unreadable source (.file .notFound) | .unreadable source (.web .noAccess) =>
    "Error: file not found: " ++ source ++ "\n"
  | .unreadable source (.file e) => "Error: cannot read " ++ source ++ ": " ++ e.message ++ "\n"
  | .unreadable source (.web (.failed reason)) =>
    "Error: failed to fetch " ++ source ++ ": " ++ reason ++ "\n"
  | .noDocument reason => "Error: invalid TOML: " ++ reason ++ "\n"
  | .invalidEntry path fault =>
    "Error: invalid entry at " ++ path ++ ": " ++ fault.message ++ "\n"
  | .invalidSchema faults =>
    "Error: " ++ faultSummary faults ++ "\n" ++
      String.join (faults.map fun f => "  " ++ f.message ++ "\n")

/-- The exit code of the failure. -/
def exitCode : Failure → Nat
  | .unreadable .. => 3
  | .noDocument _ => 2
  | .invalidEntry .. => 2
  | .invalidSchema _ => 2

/-- The failure to load a text. -/
def ofLoad (wording : Wording) (text : String) : LoadError → Failure
  | .invalidToml => .noDocument (wording.noDocument text)
  | .invalidEntry path fault => .invalidEntry path fault

end Failure

/-- What is reported of building a list of entries. -/
def buildEvents (entries : List Entry) : List LogEvent :=
  (Grouping.ofEntries entries).subjects.map (fun s => .builtSubject s.name s.vars.length) ++
    match Schema.build entries with
    | .ok schema =>
      [.builtSchema entries.length schema.subjects.length schema.scopes.length]
    | .error _ => []

/-- The schema of a source of which `document` came. -/
def openSchema (wording : Wording) (source : String) (document : Except SourceError String) :
    List LogEvent × Except Failure Schema :=
  match document with
  | .error e => ([], .error (.unreadable source e))
  | .ok text =>
    match SchemaDocument.load text with
    | .error e => ([], .error (.ofLoad wording text e))
    | .ok entries =>
      (.loadedDocument source entries.length :: buildEvents entries,
        (Schema.build entries).mapError .invalidSchema)

/-- What a run prints, its exit code, and the file that it asks to be written. -/
structure Response where
  exit : Nat
  stdout : String
  stderr : String
  /-- A path and the text to write there. -/
  output : Option (String × String)
  deriving DecidableEq, Repr

/-- What a command has to say of a schema. -/
structure Reply where
  events : List LogEvent
  response : Response

/-- Print a text and end without fault. -/
def printed (text : String) : Reply := ⟨[], ⟨0, text, "", none⟩⟩

/-- The reply to `check`. -/
def checkReply (schema : Schema) : Reply :=
  printed ("OK: " ++ toString schema.subjects.length ++ " subjects, " ++
    toString schema.variableCount ++ " variables, " ++
    toString schema.scopes.length ++ " applications\n")

/-- The reply to `plan`. -/
def planReply (schema : Schema) (output : Option String) (pretty : Bool) : Reply :=
  let text := if pretty then schema.manifest.pretty else schema.manifest.compact
  match output with
  | none => printed (text ++ "\n")
  | some path => ⟨[], ⟨0, "", "", some (path, text)⟩⟩

/-- The reply to `apps`. -/
def appsReply (schema : Schema) (json : Bool) : Reply :=
  if json then printed ((scopesJson schema.scopes).compact ++ "\n")
  else
    printed (String.join (schema.scopes.map fun s =>
      s.application ++ ": " ++ ", ".intercalate s.subjects ++ "\n"))

/-- The event of an evaluation, unless its target is unknown. -/
def evaluationEvents (schema : Schema) (target : Target) (env : Environment) : List LogEvent :=
  match schema.targetSubjects target with
  | .error _ => []
  | .ok subjects => [.evaluated subjects.length (Schema.violationsOf subjects env).length]

/-- The response to `validate`, apart from its log lines. -/
def validateResponse (result : Except EvaluationError Resolved) (json : Bool) : Response :=
  match result, json with
  | .ok resolved, true =>
    let names : Json := .arr (resolved.subjects.map fun s => .str s.name)
    ⟨0, (Json.obj [("valid", .bool true), ("subjects", names)]).compact ++ "\n", "", none⟩
  | .ok _, false => ⟨0, "Valid\n", "", none⟩
  | .error (.invalid violations), true =>
    let list := violationsJson violations
    ⟨1, (Json.obj [("valid", .bool false), ("violations", list)]).compact ++ "\n", "", none⟩
  | .error (.invalid violations), false =>
    let lines := violations.map fun v => "  " ++ v.message ++ "\n"
    ⟨1, "", "Validation failed:\n" ++ String.join lines, none⟩
  | .error unknown, true =>
    let error : Json := .str unknown.message
    ⟨2, (Json.obj [("valid", .bool false), ("error", error)]).compact ++ "\n", "", none⟩
  | .error unknown, false => ⟨2, "", "Error: " ++ unknown.message ++ "\n", none⟩

/-- The reply to a command on a schema. -/
def Command.reply (env : Environment) (schema : Schema) : Command → Reply
  | .check _ => checkReply schema
  | .plan _ output pretty => planReply schema output pretty
  | .apps _ json => appsReply schema json
  | .validate _ target json =>
    ⟨evaluationEvents schema target env, validateResponse (schema.evaluate target env) json⟩

/-- What a process is told of its log lines. -/
structure LogSettings where
  filter : Option String
  noColor : Option String
  deriving DecidableEq, Repr

namespace LogSettings

/-- What settings say of log lines. -/
def ofSettings (settings : List Setting) : LogSettings :=
  ⟨firstText? settings "RUST_LOG", firstText? settings "NO_COLOR"⟩

/-- The filter of log lines: the one that is set, if it can be read. -/
def logFilter (s : LogSettings) (verbose : Bool) : LogFilter :=
  (s.filter.bind LogFilter.ofText?).getD (LogFilter.standard verbose)

/-- Log lines have terminal styles, unless it is set that no colour is wanted. -/
def styles (s : LogSettings) : Bool :=
  match s.noColor with
  | some text => text.isEmpty
  | none => true

/-- The log lines of events. -/
def text (s : LogSettings) (verbose : Bool) (events : List LogEvent) : String :=
  logText s.styles (s.logFilter verbose) events

end LogSettings

/-- The response to a command, given what came of its source. -/
def Command.respond (command : Command) (wording : Wording) (verbose : Bool) (log : LogSettings)
    (env : Environment) (document : Fetched SourceError) : Response :=
  let (events, opened) := openSchema wording command.source document.text
  match opened with
  | .error failure =>
    ⟨failure.exitCode, "", document.lines ++ log.text verbose events ++ failure.text, none⟩
  | .ok schema =>
    let reply := command.reply env schema
    { reply.response with
      stderr :=
        document.lines ++ log.text verbose (events ++ reply.events) ++ reply.response.stderr }

/-- The response if the file that was asked for cannot be written. -/
def Response.notWritten (r : Response) (path : String) (e : FileError) : Response :=
  { r with
    exit := 3
    stderr := r.stderr ++ "Error writing to " ++ path ++ ": " ++ e.message ++ "\n"
    output := none }

/-- The response to a command line that is none. -/
def usageResponse (text : String) : Response := ⟨2, "", text, none⟩

/-- The response to a question for help. -/
def helpResponse (text : String) : Response := ⟨0, text, "", none⟩

/-- The response to a question for the version. -/
def versionResponse : Response := ⟨0, versionText, "", none⟩

/-- What a run leaves behind. -/
structure Outcome where
  exit : Nat
  stdout : String
  stderr : String
  files : FileSystem

/-- What a response leaves behind once its file, if any, is written. -/
def Response.finish (r : Response) (files : FileSystem) : Outcome :=
  match r.output with
  | none => ⟨r.exit, r.stdout, r.stderr, files⟩
  | some (path, text) =>
    match files.write path text with
    | .ok written => ⟨r.exit, r.stdout, r.stderr, written⟩
    | .error e =>
      let failed := r.notWritten path e
      ⟨failed.exit, failed.stdout, failed.stderr, files⟩

/-- What a run finds outside of the program. -/
structure Host where
  files : FileSystem
  /-- The entries that the process starts with. -/
  entries : List (List UInt8)
  /-- What the web delivers for an address; the settings of the process may name a way there, and
  the log lines wanted of it.  The arguments have no say: they ask for the program's own lines. -/
  web : (settings : List Setting) → (address : String) → Fetched WebError
  wording : Wording

namespace Host

/-- The settings of the process. -/
def settings (host : Host) : List Setting := settingsOf host.entries

/-- The environment of the process. -/
def environment (host : Host) : Environment := environmentOf host.settings

/-- What the process is told of its log lines. -/
def log (host : Host) : LogSettings := .ofSettings host.settings

/-- What comes of a source: an address is looked up on the web, and all else is a path. -/
def fetch (host : Host) (source : String) : Fetched SourceError :=
  if isUrl source then
    let delivered := host.web host.settings source
    ⟨delivered.lines, delivered.text.mapError .web⟩
  else ⟨"", (host.files.readText source).mapError .file⟩

/-- A whole run with these arguments. -/
def run (host : Host) (args : List String) : Outcome :=
  match Request.ofArguments? args with
  | none => (usageResponse (host.wording.usage args)).finish host.files
  | some .version => versionResponse.finish host.files
  | some .help => (helpResponse (host.wording.help args)).finish host.files
  | some (.command verbose command) =>
    let response := command.respond host.wording verbose host.log host.environment
      (host.fetch command.source)
    response.finish host.files

end Host

/-- The web of a program that was built without access to it. -/
def noWeb (_settings : List Setting) (_address : String) : Fetched WebError :=
  ⟨"", .error .noAccess⟩

/-- A whole run, without the web, of a process with these entries and arguments. -/
def run (files : FileSystem) (entries : List (List UInt8)) (args : List String) : Outcome :=
  (Host.mk files entries noWeb .plain).run args

end DeclaredEnv.CommandLine
