import DeclaredEnv.CommandLine.Program
import DeclaredEnv.Proofs.Resolved

/-!
# What the output tells of the environment

* `AlikeAt`, `Alike`, `AlikeFor` — environments that differ, at a variable, at those of some
  subjects, and at those of a target, at most in texts that fit their kinds and for which the same
  conditions hold.
* `Host.DeliversAlike` — the web delivers the same for a source to a process with other entries.

Principal results: `offends_of_alike` — in such environments the same is wrong with the variables.
`validateResponse_of_alike` — the same is said of their evaluations.  `run_validate_of_alike` — so
nothing that a run leaves behind tells them apart.
-/

namespace DeclaredEnv

variable {s : Schema} {t : Subject} {v w : Variable} {env env' : Environment}
  {subjects : List Subject} {target : Target}

/-- Two environments are alike at a variable of a subject: it is set in both or in neither, its
texts are the same or both fit its kind, and the same conditions on it hold for its values. -/
structure AlikeAt (t : Subject) (v : Variable) (env env' : Environment) : Prop where
  set : (env v.name).isSome = (env' v.name).isSome
  texts : ∀ raw raw', env v.name = some raw → env' v.name = some raw' →
    raw = raw' ∨ (v.kind.read? raw).isSome = true ∧ (v.kind.read? raw').isSome = true
  conditions : ∀ w ∈ t.vars, ∀ c, w.condition = some c → c.reference = v.name →
    c.holdsFor (v.valueIn env) = c.holdsFor (v.valueIn env')

instance : Decidable (AlikeAt t v env env') :=
  decidable_of_iff ((env v.name).isSome = (env' v.name).isSome ∧
      (∀ raw ∈ env v.name, ∀ raw' ∈ env' v.name,
        raw = raw' ∨ (v.kind.read? raw).isSome = true ∧ (v.kind.read? raw').isSome = true) ∧
      ∀ w ∈ t.vars, ∀ c ∈ w.condition, c.reference = v.name →
        c.holdsFor (v.valueIn env) = c.holdsFor (v.valueIn env'))
    ⟨fun ⟨set, texts, conditions⟩ =>
        ⟨set, fun raw raw' hraw hraw' => texts raw hraw raw' hraw', conditions⟩,
      fun h => ⟨h.set, fun raw hraw raw' hraw' => h.texts raw raw' hraw hraw', h.conditions⟩⟩

/-- Two environments are alike at every variable of the subjects. -/
def Alike (subjects : List Subject) (env env' : Environment) : Prop :=
  ∀ t ∈ subjects, ∀ v ∈ t.vars, AlikeAt t v env env'

instance : Decidable (Alike subjects env env') :=
  inferInstanceAs (Decidable (∀ t ∈ subjects, ∀ v ∈ t.vars, AlikeAt t v env env'))

/-- Two environments are alike for a target: at every variable of its subjects. -/
def AlikeFor (s : Schema) (target : Target) (env env' : Environment) : Prop :=
  ∀ subjects, target.Selects s subjects → Alike subjects env env'

/-! ## What is wrong in environments that are alike -/

theorem AlikeAt.symm (h : AlikeAt t v env env') : AlikeAt t v env' env :=
  ⟨h.set.symm, fun raw raw' hraw hraw' => (h.texts raw' raw hraw' hraw).imp Eq.symm And.symm,
    fun w hw c hc href => (h.conditions w hw c hc href).symm⟩

theorem AlikeAt.unset (h : AlikeAt t v env env') (unset : env v.name = none) :
    env' v.name = none := by
  have hset := h.set
  rw [unset] at hset
  exact Option.isNone_iff_eq_none.mp (Option.isSome_eq_false_iff.mp hset.symm)

/-- A text that does not fit is the same in both. -/
theorem AlikeAt.mismatch (h : AlikeAt t v env env') {raw : String} (set : env v.name = some raw)
    (unread : v.kind.read? raw = none) : env' v.name = some raw := by
  have hset' := h.set
  rw [set] at hset'
  obtain ⟨raw', set'⟩ := Option.isSome_iff_exists.mp hset'.symm
  rcases h.texts raw raw' set set' with rfl | ⟨hread, _⟩
  · exact set'
  · rw [unread] at hread
    cases hread

/-- A condition on the variable holds in both or in neither. -/
theorem AlikeAt.holds (h : AlikeAt t v env env') {c : Condition} (hw : w ∈ t.vars)
    (hc : w.condition = some c) (href : v.name = c.reference)
    (holds : v.known? env = some c.expected.toValue) :
    v.known? env' = some c.expected.toValue := by
  have hholds : c.holdsFor (v.valueIn env') = true := by
    rw [← h.conditions w hw c hc href.symm, valueIn_of_known? holds]
    exact beq_self_eq_true _
  exact known?_of_valueIn_eq (beq_iff_eq.mp hholds)

/-- **The same is wrong with a variable in environments that are alike.** -/
theorem offends_of_alike (h : ∀ v ∈ t.vars, AlikeAt t v env env') (hv : v ∈ t.vars) {p : Problem}
    (ho : Offends t env v p) : Offends t env' v p := by
  have hat := h v hv
  cases ho with
  | mismatch set unread => exact .mismatch (hat.mismatch set unread) unread
  | missing unset noDefault always required =>
    exact .missing (hat.unset unset) noDefault always required
  | missingWhen unset noDefault condition sibling name holds =>
    exact .missingWhen (hat.unset unset) noDefault condition sibling name
      ((h _ sibling).holds hv condition name holds)

theorem Subject.Coherent.violations_of_alike (ht : t.Coherent)
    (h : ∀ v ∈ t.vars, AlikeAt t v env env') : t.violations env = t.violations env' :=
  ht.violations_congr fun _ hv _ =>
    ⟨offends_of_alike h hv, offends_of_alike (fun w hw => (h w hw).symm) hv⟩

theorem Alike.violationsOf (h : Alike subjects env env') (hs : ∀ t ∈ subjects, t.Coherent) :
    Schema.violationsOf subjects env = Schema.violationsOf subjects env' :=
  List.flatMap_congr fun t ht => (hs t ht).violations_of_alike (h t ht)

end DeclaredEnv

namespace DeclaredEnv.CommandLine

variable {s : Schema} {env env' : Environment} {subjects : List Subject} {target : Target}

/-! ## What is said of evaluations -/

/-- Of values nothing but the names of their subjects is said. -/
theorem validateResponse_valuesOf (subjects : List Subject) (env env' : Environment)
    (json : Bool) : validateResponse (.ok (valuesOf subjects env)) json =
      validateResponse (.ok (valuesOf subjects env')) json := by
  cases json with
  | false => rfl
  | true => simp only [validateResponse, valuesOf, List.map_map, Function.comp_def]

theorem evaluationEvents_of_alike (h : AlikeFor s target env env') (hs : s.Coherent) :
    evaluationEvents s target env = evaluationEvents s target env' := by
  unfold evaluationEvents
  split
  · rfl
  · rename_i subjects htarget
    have hselects := (targetSubjects_eq_ok_iff hs).mp htarget
    rw [(h subjects hselects).violationsOf (hselects.coherent hs)]

/-- **The same is said of the evaluations of environments that are alike.** -/
theorem validateResponse_of_alike (h : AlikeFor s target env env') (hs : s.Coherent)
    (json : Bool) : validateResponse (s.evaluate target env) json =
      validateResponse (s.evaluate target env') json := by
  refine evaluate_rel (R := fun r r' => validateResponse r json = validateResponse r' json) hs hs
    (fun subjects hselects => ⟨subjects, hselects, ?_⟩)
    (fun subjects hselects => ⟨subjects, hselects⟩) rfl
  have hviolations : Schema.violationsOf subjects env = Schema.violationsOf subjects env' :=
    (h subjects hselects).violationsOf (hselects.coherent hs)
  rw [outcomeOf, outcomeOf, hviolations]
  split
  · exact validateResponse_valuesOf subjects env env' json
  · rfl

/-! ## Runs -/

theorem coherent_of_openSchema {wording : Wording} {source : String}
    {document : Except SourceError String}
    (h : (openSchema wording source document).2 = .ok s) : s.Coherent := by
  unfold openSchema at h
  split at h
  · cases h
  · split at h
    · cases h
    · rename_i entries _
      cases hb : Schema.build entries with
      | error faults =>
        rw [hb] at h
        cases h
      | ok schema =>
        rw [hb] at h
        cases h
        exact coherent_of_build hb

/-- The response to `validate` is the same in environments that are alike for the target. -/
theorem respond_validate_of_alike {wording : Wording} {source : String}
    {document : Fetched SourceError}
    (h : ∀ schema, (openSchema wording source document.text).2 = .ok schema →
      AlikeFor schema target env env')
    (json verbose : Bool) (log : LogSettings) :
    (Command.validate source target json).respond wording verbose log env document =
      (Command.validate source target json).respond wording verbose log env' document := by
  unfold Command.respond Command.source
  -- the schema is opened before the environment is looked at
  generalize hopen : openSchema wording source document.text = opened at h
  obtain ⟨events, opened⟩ := opened
  cases opened with
  | error failure => rfl
  | ok schema =>
    have hs : schema.Coherent := coherent_of_openSchema (congrArg Prod.snd hopen)
    have halike := h schema rfl
    simp only [Command.reply, evaluationEvents_of_alike halike hs,
      validateResponse_of_alike halike hs]

/-- A run of a command fetches its source and finishes what the command responds. -/
theorem run_of_command {args : List String} {verbose : Bool} {command : Command}
    (hargs : Request.ofArguments? args = some (.command verbose command)) (host : Host) :
    host.run args = (command.respond host.wording verbose host.log host.environment
      (host.fetch command.source)).finish host.files := by
  simp only [Host.run, hargs]

/-- The web delivers the same for a source, if it is an address, to a process with other entries. -/
def Host.DeliversAlike (host : Host) (entries : List (List UInt8)) (source : String) : Prop :=
  isUrl source = true → host.web (settingsOf entries) source = host.web host.settings source

theorem Host.DeliversAlike.fetch_eq {host : Host} {entries : List (List UInt8)} {source : String}
    (h : host.DeliversAlike entries source) :
    { host with entries := entries }.fetch source = host.fetch source := by
  unfold Host.fetch
  split
  · rename_i haddress
    simp only [Host.settings, h haddress]
  · rfl

/-- **Nothing that `validate` leaves behind tells apart environments that are alike for its
target**, whatever the web delivers to both. -/
theorem run_validate_of_alike {args : List String} {verbose json : Bool} {source : String}
    (hargs : Request.ofArguments? args = some (.command verbose (.validate source target json)))
    (host : Host) (entries : List (List UInt8))
    (hfilter : firstText? (settingsOf entries) "RUST_LOG" = firstText? host.settings "RUST_LOG")
    (hcolor : firstText? (settingsOf entries) "NO_COLOR" = firstText? host.settings "NO_COLOR")
    (hweb : host.DeliversAlike entries source)
    (halike : ∀ schema, (openSchema host.wording source (host.fetch source).text).2 = .ok schema →
      AlikeFor schema target (environmentOf (settingsOf entries)) host.environment) :
    { host with entries := entries }.run args = host.run args := by
  have hlog : LogSettings.ofSettings (settingsOf entries) = host.log := by
    rw [Host.log, LogSettings.ofSettings, LogSettings.ofSettings, hfilter, hcolor]
  have hresponse : (Command.validate source target json).respond host.wording verbose
        (LogSettings.ofSettings (settingsOf entries)) (environmentOf (settingsOf entries))
        ({ host with entries := entries }.fetch source) =
      (Command.validate source target json).respond host.wording verbose host.log
        host.environment (host.fetch source) := by
    rw [hweb.fetch_eq, hlog, respond_validate_of_alike halike]
  rw [run_of_command hargs, run_of_command hargs]
  exact congrArg (·.finish host.files) hresponse

/-- A certificate that is asked for when encryption is on. -/
def vaultDocument : String :=
  "[store.TLS]\ntype = 'bool'\ndefault = false\n" ++
    "[store.CERT]\ntype = 'str'\nrequired_when = 'TLS=true'\n"

/-- The subject of the document. -/
def vaultSubject : Subject :=
  ⟨"store", [⟨"store", "TLS", ⟨.bool, false⟩, some (.bool false), "", none, none, []⟩,
    ⟨"store", "CERT", ⟨.str, false⟩, none, "", some "TLS=true", some ⟨"TLS", .bool true⟩, []⟩]⟩

/-- A directory with the document. -/
def vaultFiles : FileSystem := ⟨.directory [("env.toml", .file vaultDocument.toUTF8)], []⟩

/-- The entries of a process, from their texts. -/
def entriesOfTexts (texts : List String) : List (List UInt8) := texts.map (·.toUTF8.data.toList)

/-- A host with the document in a file and at every address on the web. -/
def vaultHost (texts : List String) : Host :=
  ⟨vaultFiles, entriesOfTexts texts, fun _ _ => ⟨"", .ok vaultDocument⟩, .plain⟩

/-- What a source of the host opens. -/
def vaultOpened (source : String) : Option Schema :=
  (openSchema .plain source ((vaultHost ["CERT=hunter2", "TLS=0"]).fetch source).text).2.toOption

/-- A run with log lines that validates the subject. -/
def vaultRun (texts : List String) (source : String) : Outcome :=
  (vaultHost texts).run ["-v", "validate", "--subject", "store", source]

theorem run_validate_of_alike_vault :
    vaultOpened "env.toml" = some ⟨[vaultSubject]⟩ ∧
      vaultRun ["TLS=no", "CERT=swordfish"] "env.toml" =
        vaultRun ["CERT=hunter2", "TLS=0"] "env.toml" ∧
      vaultOpened "https://vault/env.toml" = some ⟨[vaultSubject]⟩ ∧
      vaultRun ["TLS=no", "CERT=swordfish"] "https://vault/env.toml" =
        vaultRun ["CERT=hunter2", "TLS=0"] "https://vault/env.toml" := by
  have hall : Alike [vaultSubject]
      (environmentOf (settingsOf (entriesOfTexts ["TLS=no", "CERT=swordfish"])))
      (environmentOf (settingsOf (entriesOfTexts ["CERT=hunter2", "TLS=0"]))) := by decide +kernel
  have hrun {source : String} (hopen : vaultOpened source = some ⟨[vaultSubject]⟩)
      (hargs : Request.ofArguments? ["-v", "validate", "--subject", "store", source] =
        some (.command true (.validate source (.subject "store") false))) :
      vaultRun ["TLS=no", "CERT=swordfish"] source =
        vaultRun ["CERT=hunter2", "TLS=0"] source := by
    refine run_validate_of_alike hargs (vaultHost ["CERT=hunter2", "TLS=0"])
      (entriesOfTexts ["TLS=no", "CERT=swordfish"]) (by decide +kernel) (by decide +kernel)
      (fun _ => rfl) fun schema hschema subjects hselects => ?_
    rw [vaultOpened, show Wording.plain = (vaultHost ["CERT=hunter2", "TLS=0"]).wording from rfl,
      hschema] at hopen
    obtain rfl : schema = ⟨[vaultSubject]⟩ := Option.some.inj hopen
    exact fun t ht => hall t (hselects.sublist.subset ht)
  have hfile : vaultOpened "env.toml" = some ⟨[vaultSubject]⟩ := by decide +kernel
  have hweb : vaultOpened "https://vault/env.toml" = some ⟨[vaultSubject]⟩ := by decide +kernel
  exact ⟨hfile, hrun hfile (by decide +kernel), hweb, hrun hweb (by decide +kernel)⟩

end DeclaredEnv.CommandLine
