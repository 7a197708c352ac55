import DeclaredEnv.Proofs.FileWrite
import DeclaredEnv.Proofs.JsonText
import DeclaredEnv.Proofs.Secrecy

/-!
# The stages of a run

A run reads a source, loads the document, builds the schema, and then does what the command says.

* `Reads`, `Loads`, `Opens` — a source reads as a text, gives entries, and gives a schema.
* `Stage`, `FailsToOpen`, `FailsAt` — the stages of a run, and the one at which it fails.
* `SaysValid` — the fields of an object that tells whether an exit code is zero.

Principal results: `openSchema_of_opens`, `openSchema_of_failsToOpen` — what opening a source comes
to.  `run_of_opens`, `run_of_failsToOpen` — the run with and without a schema: without one, the
command makes no difference.  `exit_of_failsAt`, `exit_of_forall_not_failsAt` — the exit code is
that of the stage.  `run_by_stages` — so the stage at which a run fails decides what it leaves
behind.
-/

namespace DeclaredEnv.CommandLine

variable {host : Host} {source : String} {schema : Schema} {command : Command}

/-! ## Opening a source -/

/-- A source reads as a text: it is a path that leads to a file of the text, or an address for which
the web delivers the text. -/
inductive Reads (host : Host) (source text : String) : Prop where
  | file {content : ByteArray} (path : isUrl source = false)
      (holds : host.files.Holds source content) (decodes : String.fromUTF8? content = some text) :
      Reads host source text
  | web (address : isUrl source = true)
      (delivers : (host.web host.settings source).text = .ok text) : Reads host source text

theorem mapError_eq_ok_iff {ε ε' α : Type} {f : ε → ε'} {x : Except ε α} {a : α} :
    x.mapError f = .ok a ↔ x = .ok a := by
  cases x <;> simp [Except.mapError]

theorem reads_iff {text : String} :
    Reads host source text ↔ (host.fetch source).text = .ok text := by
  unfold Host.fetch
  split
  · rename_i address
    rw [mapError_eq_ok_iff]
    refine ⟨fun h => ?_, .web address⟩
    cases h with
    | file path => exact absurd address (Bool.eq_false_iff.mp path)
    | web _ delivers => exact delivers
  · rename_i path
    rw [mapError_eq_ok_iff, FileSystem.readText_eq_ok_iff]
    constructor
    · intro h
      cases h with
      | file _ holds decodes => exact ⟨_, holds, decodes⟩
      | web address => exact absurd address path
    · rintro ⟨content, holds, decodes⟩
      exact .file (Bool.eq_false_iff.mpr path) holds decodes

/-- A source gives the entries of a document. -/
def Loads (host : Host) (source : String) (entries : List Entry) : Prop :=
  ∃ text, Reads host source text ∧ SchemaDocument.load text = .ok entries

/-- A source gives a schema. -/
def Opens (host : Host) (source : String) (schema : Schema) : Prop :=
  ∃ entries, Loads host source entries ∧ Schema.build entries = .ok schema

/-- The stages of a run, in their order. -/
inductive Stage where
  | reading
  | loading
  | building
  | writing
  | selecting
  | evaluating
  deriving DecidableEq, Repr

/-- The exit code of a run that fails at a stage. -/
def Stage.exitCode : Stage → Nat
  | .reading => 3
  | .loading => 2
  | .building => 2
  | .writing => 3
  | .selecting => 2
  | .evaluating => 1

/-- A source gives no schema, from one stage on. -/
inductive FailsToOpen (host : Host) (source : String) : Stage → Prop where
  | reading (unread : ∀ text, ¬Reads host source text) : FailsToOpen host source .reading
  | loading {text : String} {e : LoadError} (reads : Reads host source text)
      (invalid : SchemaDocument.load text = .error e) : FailsToOpen host source .loading
  | building {entries : List Entry} {faults : List Fault} (loads : Loads host source entries)
      (invalid : Schema.build entries = .error faults) : FailsToOpen host source .building

theorem opens_or_failsToOpen (host : Host) (source : String) :
    (∃ schema, Opens host source schema) ∨ ∃ stage, FailsToOpen host source stage := by
  by_cases hread : ∃ text, Reads host source text
  · obtain ⟨text, hread⟩ := hread
    cases hload : SchemaDocument.load text with
    | error e => exact .inr ⟨_, .loading hread hload⟩
    | ok entries =>
      cases hbuild : Schema.build entries with
      | error faults => exact .inr ⟨_, .building ⟨text, hread, hload⟩ hbuild⟩
      | ok schema => exact .inl ⟨schema, entries, ⟨text, hread, hload⟩, hbuild⟩
  · exact .inr ⟨_, .reading (not_exists.mp hread)⟩

theorem Opens.of_deliversAlike (h : Opens host source schema) {entries : List (List UInt8)}
    (hweb : host.DeliversAlike entries source) :
    Opens { host with entries := entries } source schema := by
  obtain ⟨document, ⟨text, hread, hload⟩, hbuild⟩ := h
  refine ⟨document, ⟨text, reads_iff.mpr ?_, hload⟩, hbuild⟩
  rw [hweb.fetch_eq]
  exact reads_iff.mp hread

theorem openSchema_of_loads {entries : List Entry} (h : Loads host source entries) :
    openSchema host.wording source (host.fetch source).text =
      (.loadedDocument source entries.length :: buildEvents entries,
        (Schema.build entries).mapError .invalidSchema) := by
  obtain ⟨text, hread, hload⟩ := h
  simp only [openSchema, reads_iff.mp hread, hload]

theorem openSchema_of_opens (h : Opens host source schema) :
    ∃ events, openSchema host.wording source (host.fetch source).text = (events, .ok schema) := by
  obtain ⟨entries, hload, hbuild⟩ := h
  rw [openSchema_of_loads hload, hbuild]
  exact ⟨_, rfl⟩

theorem openSchema_of_failsToOpen {stage : Stage} (h : FailsToOpen host source stage) :
    ∃ events failure,
      openSchema host.wording source (host.fetch source).text = (events, .error failure) ∧
        failure.exitCode = stage.exitCode := by
  cases h with
  | reading unread =>
    cases htext : (host.fetch source).text with
    | error e => exact ⟨[], .unreadable source e, rfl, rfl⟩
    | ok text => exact absurd (reads_iff.mpr htext) (unread text)
  | @loading text e reads invalid =>
    simp only [openSchema, reads_iff.mp reads, invalid]
    exact ⟨_, _, rfl, by cases e <;> rfl⟩
  | building loads invalid =>
    rw [openSchema_of_loads loads, invalid]
    exact ⟨_, _, rfl, rfl⟩

/-! ## Runs with and without a schema -/

variable {args : List String} {verbose : Bool} {stage : Stage}

/-- A run without a schema prints the failure and does nothing. -/
theorem run_of_failsToOpen (h : FailsToOpen host source stage) (verbose : Bool) :
    ∃ stderr, ∀ {entries : List (List UInt8)} {args : List String} {command : Command},
      Request.ofArguments? args = some (.command verbose command) → command.source = source →
        LogSettings.ofSettings (settingsOf entries) = host.log →
          host.DeliversAlike entries source →
            { host with entries := entries }.run args = ⟨stage.exitCode, "", stderr, host.files⟩ := by
  obtain ⟨events, failure, hopen, hexit⟩ := openSchema_of_failsToOpen h
  refine ⟨(host.fetch source).lines ++ host.log.text verbose events ++ failure.text, ?_⟩
  rintro entries args command hargs rfl hlog hweb
  rw [run_of_command hargs, hweb.fetch_eq]
  show Response.finish (command.respond _ _ (LogSettings.ofSettings (settingsOf entries)) _ _) _ = _
  rw [hlog]
  simp only [Command.respond, hopen, Response.finish, hexit]

theorem exit_of_failsToOpen
    (hargs : Request.ofArguments? args = some (.command verbose command))
    (h : FailsToOpen host command.source stage) : (host.run args).exit = stage.exitCode := by
  obtain ⟨stderr, hrun⟩ := run_of_failsToOpen h verbose
  exact congrArg Outcome.exit (hrun hargs rfl rfl fun _ => rfl)

/-- The response to a command whose source cannot be read, for whatever reason. -/
theorem respond_of_error (wording : Wording) (source lines : String) (e : SourceError)
    (verbose : Bool) (log : LogSettings) :
    ∃ stderr, ∀ (command : Command) (env : Environment), command.source = source →
      command.respond wording verbose log env ⟨lines, .error e⟩ =
        ⟨Stage.reading.exitCode, "", stderr, none⟩ := by
  refine ⟨lines ++ log.text verbose [] ++ (Failure.unreadable source e).text, ?_⟩
  rintro command env rfl
  rfl

/-- Log lines come before whatever else a run reports. -/
theorem finish_prepend (r : Response) (lines : String) (files : FileSystem) :
    { r with stderr := lines ++ r.stderr }.finish files =
      { r.finish files with stderr := lines ++ (r.finish files).stderr } := by
  unfold Response.finish
  cases r.output with
  | none => rfl
  | some file =>
    obtain ⟨path, text⟩ := file
    cases hwrite : files.write path text with
    | ok written => simp only [hwrite]
    | error e => simp only [hwrite, Response.notWritten, String.append_assoc]

/-- A run with a schema does what the command says of it. -/
theorem run_of_opens (h : Opens host command.source schema)
    (hargs : Request.ofArguments? args = some (.command verbose command)) :
    ∃ lines, host.run args =
      let outcome := (command.reply host.environment schema).response.finish host.files
      { outcome with stderr := lines ++ outcome.stderr } := by
  obtain ⟨events, hopen⟩ := openSchema_of_opens h
  let reply := command.reply host.environment schema
  refine ⟨(host.fetch command.source).lines ++ host.log.text verbose (events ++ reply.events), ?_⟩
  rw [run_of_command hargs]
  simp only [Command.respond, hopen]
  exact finish_prepend reply.response _ host.files

/-! ## The stage at which a run fails -/

/-- The text of a manifest. -/
def manifestText (schema : Schema) (pretty : Bool) : String :=
  if pretty then schema.manifest.pretty else schema.manifest.compact

/-- A run fails at a stage, and at none before. -/
inductive FailsAt (host : Host) (command : Command) : Stage → Prop where
  | opening {stage : Stage} (h : FailsToOpen host command.source stage) :
      FailsAt host command stage
  | writing {source path : String} {pretty : Bool} {schema : Schema} {e : FileError}
      (plan : command = .plan source (some path) pretty) (opens : Opens host source schema)
      (unwritten : host.files.write path (manifestText schema pretty) = .error e) :
      FailsAt host command .writing
  | selecting {source : String} {target : Target} {json : Bool} {schema : Schema}
      (validate : command = .validate source target json) (opens : Opens host source schema)
      (unknown : ∀ subjects, ¬target.Selects schema subjects) : FailsAt host command .selecting
  | evaluating {source : String} {target : Target} {json : Bool} {schema : Schema}
      {violations : List Violation} (validate : command = .validate source target json)
      (opens : Opens host source schema)
      (invalid : schema.evaluate target host.environment = .error (.invalid violations)) :
      FailsAt host command .evaluating

theorem Stage.exitCode_ne_zero (stage : Stage) : stage.exitCode ≠ 0 := by
  cases stage <;> decide

theorem Opens.coherent (h : Opens host source schema) : schema.Coherent := by
  obtain ⟨_, _, hbuild⟩ := h
  exact coherent_of_build hbuild

theorem exit_validateResponse (result : Except EvaluationError Resolved) (json : Bool) :
    (validateResponse result json).exit =
      match result with
      | .ok _ => 0
      | .error (.invalid _) => 1
      | .error _ => 2 := by
  rcases result with (_ | _ | _) | _ <;> cases json <;> rfl

theorem output_validateResponse (result : Except EvaluationError Resolved) (json : Bool) :
    (validateResponse result json).output = none := by
  rcases result with (_ | _ | _) | _ <;> cases json <;> rfl

/-- An object whose field `valid` says whether the exit code is zero. -/
structure SaysValid (exit : Nat) (fields : List (String × Json)) : Prop where
  keys : (fields.map (·.1)).Nodup
  valid : fields.lookup "valid" = some (.bool (decide (exit = 0)))

theorem stdout_validateResponse (result : Except EvaluationError Resolved) :
    ∃ fields, SaysValid (validateResponse result true).exit fields ∧ (Json.obj fields).Finite ∧
      (validateResponse result true).stdout = (Json.obj fields).compact ++ "\n" := by
  rcases result with (_ | _ | violations) | resolved
  · exact ⟨_, ⟨by simp, rfl⟩, .obj (by simp [Json.Finite.bool, Json.Finite.str]), rfl⟩
  · exact ⟨_, ⟨by simp, rfl⟩, .obj (by simp [Json.Finite.bool, Json.Finite.str]), rfl⟩
  · exact ⟨_, ⟨by simp, rfl⟩,
      .obj (by simp [Json.Finite.bool, finite_violationsJson violations]), rfl⟩
  · have hnames : Json.Finite (.arr (resolved.subjects.map fun s => .str s.name)) :=
      .arr (List.forall_mem_map.mpr fun s _ => .str s.name)
    exact ⟨_, ⟨by simp, rfl⟩, .obj (by simp [Json.Finite.bool, hnames]), rfl⟩

/-- The text of a manifest reads as the manifest. -/
theorem ofText?_manifestText (schema : Schema) (pretty : Bool) :
    Json.ofText? (manifestText schema pretty) = some schema.manifest := by
  unfold manifestText
  split
  · exact Json.ofText?_pretty schema.finite_manifest
  · exact Json.ofText?_compact schema.finite_manifest

/-- The exit code and the output of `validate` on a schema. -/
theorem run_validate_of_opens {target : Target} {json : Bool} (h : Opens host source schema)
    (hargs : Request.ofArguments? args = some (.command verbose (.validate source target json))) :
    let result := schema.evaluate target host.environment
    (host.run args).exit = (validateResponse result json).exit ∧
      (host.run args).stdout = (validateResponse result json).stdout := by
  obtain ⟨lines, hrun⟩ := run_of_opens h hargs
  rw [hrun]
  simp only [Command.reply, Response.finish, output_validateResponse, and_self]

/-- `plan` writes the manifest to its output. -/
theorem run_plan_of_opens {path : String} {pretty : Bool} (h : Opens host source schema)
    (hargs : Request.ofArguments? args =
      some (.command verbose (.plan source (some path) pretty))) :
    (host.run args).stdout = "" ∧
      match host.files.write path (manifestText schema pretty) with
      | .ok written => (host.run args).exit = 0 ∧ (host.run args).files = written
      | .error _ => (host.run args).exit = 3 := by
  obtain ⟨lines, hrun⟩ := run_of_opens h hargs
  have hresponse : (Command.reply host.environment schema
      (.plan source (some path) pretty)).response =
        ⟨0, "", "", some (path, manifestText schema pretty)⟩ := rfl
  rw [hrun, hresponse]
  cases hwrite : host.files.write path (manifestText schema pretty) with
  | ok written => simp only [Response.finish, hwrite, and_self]
  | error e => simp only [Response.finish, hwrite, Response.notWritten, and_self]

/-- `plan` prints the manifest if it has no output. -/
theorem run_plan_of_opens_printed {pretty : Bool} (h : Opens host source schema)
    (hargs : Request.ofArguments? args = some (.command verbose (.plan source none pretty))) :
    (host.run args).exit = 0 ∧
      (host.run args).stdout = manifestText schema pretty ++ "\n" := by
  obtain ⟨lines, hrun⟩ := run_of_opens h hargs
  rw [hrun]
  exact ⟨rfl, rfl⟩

/-- **A run that fails at a stage has the exit code of the stage.** -/
theorem exit_of_failsAt
    (hargs : Request.ofArguments? args = some (.command verbose command))
    (h : FailsAt host command stage) : (host.run args).exit = stage.exitCode := by
  cases h with
  | opening h => exact exit_of_failsToOpen hargs h
  | writing plan opens unwritten =>
    subst plan
    have hplan := (run_plan_of_opens opens hargs).2
    rw [unwritten] at hplan
    exact hplan
  | selecting validate opens unknown =>
    subst validate
    rw [(run_validate_of_opens opens hargs).1, exit_validateResponse,
      evaluate_of_not_selects opens.coherent unknown]
    rename_i target _ _
    cases target <;> rfl
  | evaluating validate opens invalid =>
    subst validate
    rw [(run_validate_of_opens opens hargs).1, exit_validateResponse, invalid]
    rfl

/-- **A run that fails at no stage has the exit code zero.** -/
theorem exit_of_forall_not_failsAt
    (hargs : Request.ofArguments? args = some (.command verbose command))
    (h : ∀ stage, ¬FailsAt host command stage) : (host.run args).exit = 0 := by
  rcases opens_or_failsToOpen host command.source with ⟨schema, hopen⟩ | ⟨stage, hfails⟩
  · cases command with
    | check source =>
      obtain ⟨lines, hrun⟩ := run_of_opens hopen hargs
      rw [hrun]
      rfl
    | apps source json =>
      obtain ⟨lines, hrun⟩ := run_of_opens hopen hargs
      rw [hrun]
      cases json <;> rfl
    | plan source output pretty =>
      cases output with
      | none => exact (run_plan_of_opens_printed hopen hargs).1
      | some path =>
        have hplan := (run_plan_of_opens hopen hargs).2
        cases hwrite : host.files.write path (manifestText schema pretty) with
        | error e => exact absurd (.writing rfl hopen hwrite) (h .writing)
        | ok written =>
          rw [hwrite] at hplan
          exact hplan.1
    | validate source target json =>
      rw [(run_validate_of_opens hopen hargs).1, exit_validateResponse]
      cases hresult : schema.evaluate target host.environment with
      | ok resolved => rfl
      | error e =>
        -- an evaluation without a result fails at one of the last two stages
        exfalso
        cases e with
        | invalid violations => exact h .evaluating (.evaluating rfl hopen hresult)
        | unknownApplication name | unknownSubject name =>
          refine h .selecting (.selecting rfl hopen fun subjects hselects => ?_)
          rw [evaluate_eq hopen.coherent hselects] at hresult
          split at hresult <;> cases hresult
  · exact absurd (.opening hfails) (h stage)

/-! ## The streams and the files -/

/-- **Without a schema nothing is printed or written, and neither the command nor the environment
makes a difference.** -/
theorem run_of_forall_not_opens
    (hargs : Request.ofArguments? args = some (.command verbose command))
    (h : ∀ schema, ¬Opens host command.source schema) :
    (host.run args).stdout = "" ∧ (host.run args).files = host.files ∧
      ∀ entries' args' command', Request.ofArguments? args' = some (.command verbose command') →
        command'.source = command.source →
        LogSettings.ofSettings (settingsOf entries') = host.log →
        host.DeliversAlike entries' command.source →
          { host with entries := entries' }.run args' = host.run args := by
  rcases opens_or_failsToOpen host command.source with ⟨schema, hopen⟩ | ⟨stage, hfails⟩
  · exact absurd hopen (h schema)
  · obtain ⟨stderr, hrun⟩ := run_of_failsToOpen hfails verbose
    have hself : host.run args = ⟨stage.exitCode, "", stderr, host.files⟩ :=
      hrun hargs rfl rfl fun _ => rfl
    rw [hself]
    exact ⟨rfl, rfl, fun _ _ _ hargs' hsource hlog hweb => hrun hargs' hsource hlog hweb⟩

/-- **`plan` writes to its output what it would print, without the end of the line, and this is the
manifest.** -/
theorem written_of_plan {path : String} {pretty : Bool}
    (hargs : Request.ofArguments? args = some (.command verbose (.plan source (some path) pretty)))
    (h : (host.run args).exit = 0) : (host.run args).stdout = "" ∧
      ∃ schema text, Opens host source schema ∧ Json.ofText? text = some schema.manifest ∧
        FileSystem.Written host.files (host.run args).files path text.toUTF8 ∧
        (host.run args).files.readText path = .ok text ∧
        ∀ entries' args' verbose', host.DeliversAlike entries' source →
          Request.ofArguments? args' = some (.command verbose' (.plan source none pretty)) →
            ({ host with entries := entries' }.run args').stdout = text ++ "\n" := by
  rcases opens_or_failsToOpen host source with ⟨schema, hopen⟩ | ⟨stage, hfails⟩
  · obtain ⟨hstdout, hplan⟩ := run_plan_of_opens hopen hargs
    cases hwrite : host.files.write path (manifestText schema pretty) with
    | error e =>
      rw [hwrite] at hplan
      cases h.symm.trans hplan
    | ok written =>
      rw [hwrite] at hplan
      refine ⟨hstdout, schema, manifestText schema pretty, hopen,
        ofText?_manifestText schema pretty, ?_, ?_, fun entries' args' verbose' hweb hargs' =>
          (run_plan_of_opens_printed (hopen.of_deliversAlike hweb) hargs').2⟩
      · rw [hplan.2]
        exact FileSystem.written_of_write hwrite
      · rw [hplan.2]
        exact FileSystem.readText_of_write hwrite
  · exact absurd ((exit_of_failsToOpen hargs hfails).symm.trans h) stage.exitCode_ne_zero

/-- **The stage at which a run fails decides what it leaves behind.**  The exit code is that of the
stage, or zero if there is none.  Without a schema nothing is printed or written, and every command
reports the same, for whatever reason the source cannot be read.  The output of `plan` is what it
would print without one, and reads as the manifest.  What `validate` prints in JSON reads as one
object, which says whether the exit code is zero. -/
theorem run_by_stages
    (hargs : Request.ofArguments? args = some (.command verbose command)) (host : Host) :
    (∀ stage, FailsAt host command stage → (host.run args).exit = stage.exitCode) ∧
    ((∀ stage, ¬FailsAt host command stage) → (host.run args).exit = 0) ∧
    ((∀ schema, ¬Opens host command.source schema) →
      (host.run args).stdout = "" ∧ (host.run args).files = host.files ∧
        ∀ entries' args' command',
          Request.ofArguments? args' = some (.command verbose command') →
          command'.source = command.source →
          LogSettings.ofSettings (settingsOf entries') = host.log →
          host.DeliversAlike entries' command.source →
            { host with entries := entries' }.run args' = host.run args) ∧
    (∀ lines error log, ∃ stderr, ∀ (command' : Command) env, command'.source = command.source →
      command'.respond host.wording verbose log env ⟨lines, .error error⟩ =
        ⟨Stage.reading.exitCode, "", stderr, none⟩) ∧
    (∀ source path pretty, command = .plan source (some path) pretty →
      (host.run args).exit = 0 → (host.run args).stdout = "" ∧
        ∃ schema text, Opens host source schema ∧ Json.ofText? text = some schema.manifest ∧
          FileSystem.Written host.files (host.run args).files path text.toUTF8 ∧
          (host.run args).files.readText path = .ok text ∧
          ∀ entries' args' verbose', host.DeliversAlike entries' source →
            Request.ofArguments? args' = some (.command verbose' (.plan source none pretty)) →
              ({ host with entries := entries' }.run args').stdout = text ++ "\n") ∧
    ∀ source target schema, command = .validate source target true → Opens host source schema →
      ∃ text fields, (host.run args).stdout = text ++ "\n" ∧
        text = (Json.obj fields).compact ∧ Json.ofText? text = some (.obj fields) ∧
          SaysValid (host.run args).exit fields := by
  refine ⟨fun _ => exit_of_failsAt hargs, exit_of_forall_not_failsAt hargs,
    run_of_forall_not_opens hargs,
    fun lines error log => respond_of_error host.wording command.source lines error verbose log,
    ?_, ?_⟩
  · rintro source path pretty rfl hexit
    exact written_of_plan hargs hexit
  · rintro source target schema rfl hopen
    obtain ⟨hexit, hstdout⟩ := run_validate_of_opens hopen hargs
    obtain ⟨fields, hfields, hfinite, htext⟩ :=
      stdout_validateResponse (schema.evaluate target host.environment)
    rw [hexit, hstdout]
    exact ⟨_, fields, htext, rfl, Json.ofText?_compact hfinite, hfields⟩

theorem run_by_stages_vault :
    Request.ofArguments? ["plan", "--output", "out.json", "https://vault/env.toml"] =
        some (.command false (.plan "https://vault/env.toml" (some "out.json") false)) ∧
      ((vaultHost []).run ["plan", "--output", "out.json", "https://vault/env.toml"]).stdout = "" ∧
      ∃ schema text, Opens (vaultHost []) "https://vault/env.toml" schema ∧
        Json.ofText? text = some schema.manifest ∧
        ((vaultHost []).run ["plan", "https://vault/env.toml"]).stdout = text ++ "\n" ∧
        FileSystem.Written vaultFiles
          ((vaultHost []).run ["plan", "--output", "out.json", "https://vault/env.toml"]).files
          "out.json" text.toUTF8 := by
  have hargs : Request.ofArguments? ["plan", "--output", "out.json", "https://vault/env.toml"] =
      some (.command false (.plan "https://vault/env.toml" (some "out.json") false)) := by
    decide +kernel
  have hexit : ((vaultHost []).run
      ["plan", "--output", "out.json", "https://vault/env.toml"]).exit = 0 := by
    decide +kernel
  have hargs' : Request.ofArguments? ["plan", "https://vault/env.toml"] =
      some (.command false (.plan "https://vault/env.toml" none false)) := by decide +kernel
  obtain ⟨_, _, _, _, hplan, _⟩ := run_by_stages hargs (vaultHost [])
  obtain ⟨hstdout, schema, text, hopens, hmanifest, hwritten, _, hprinted⟩ := hplan _ _ _ rfl hexit
  exact ⟨hargs, hstdout, schema, text, hopens, hmanifest,
    hprinted [] _ false (fun _ => rfl) hargs', hwritten⟩

end DeclaredEnv.CommandLine
