import DeclaredEnv.Proofs.Evaluation

/-!
# What conditions do

* `Entry.SameButCondition`, `Variable.SameButCondition`, `Subject.SameButConditions` — declarations
  that differ at most in conditions.
* `KeptIn` — a variable whose condition two lists of entries have in common.
* `SameButConditions` — what evaluations under such declarations have in common.

Principal results: `condition_not_constant` — a condition can hold and can fail, whatever else is
set.  `Subject.SameButConditions.offends` — it decides on its own variable only.
`evaluate_of_sameButCondition` — so conditions influence neither values, nor which texts do not fit,
nor what is missing elsewhere.
-/

namespace DeclaredEnv

variable {entries entries' : List Entry} {s s' : Schema} {t u : Subject} {v w : Variable}
  {env : Environment} {c : Condition}

/-! ## Conditions hold and fail -/

/-- The text of a literal is read as the literal. -/
theorem Base.LiteralOf.read?_text {b : Base} {word : String} {l : Literal}
    (h : b.LiteralOf word l) : b.read? l.toValue.text = some l.toValue := by
  cases h with
  | str => rfl
  | bool b => cases b <;> rfl

/-- Some text is read as another value than a literal. -/
theorem Base.LiteralOf.exists_read?_ne {b : Base} {word : String} {l : Literal}
    (h : b.LiteralOf word l) : ∃ raw x, b.read? raw = some x ∧ x ≠ l.toValue := by
  cases h with
  | str =>
    refine ⟨word ++ "!", .str (word ++ "!"), rfl, fun heq => ?_⟩
    have hlength := congrArg String.length (Value.str.inj heq)
    simp at hlength
  | bool b =>
    cases b with
    | true => exact ⟨"false", .bool false, rfl, by decide⟩
    | false => exact ⟨"true", .bool true, rfl, by decide⟩

theorem requirement_eq_conditional_iff :
    v.requirement = .conditional ↔ v.default? = none ∧ ∃ c, v.condition = some c := by
  unfold Variable.requirement
  cases v.default? <;> cases v.condition <;> cases v.kind.optional <;> simp

/-- A variable with a condition is missing exactly if the condition holds. -/
theorem offends_iff_of_conditional (unset : env v.name = none) (noDefault : v.default? = none)
    (condition : v.condition = some c) {p : Problem} : Offends t env v p ↔
      p = .missingWhen c ∧
        ∃ w ∈ t.vars, w.name = c.reference ∧ w.known? env = some c.expected.toValue := by
  constructor
  · rintro (⟨set, _⟩ | ⟨_, _, always⟩ | ⟨_, _, condition', sibling, name, holds⟩)
    · rw [unset] at set
      cases set
    · rw [condition] at always
      cases always
    · rw [condition] at condition'
      cases condition'
      exact ⟨rfl, _, sibling, name, holds⟩
  · rintro ⟨rfl, w, sibling, name, holds⟩
    exact .missingWhen unset noDefault condition sibling name holds

/-- The condition of a variable is on another one. -/
theorem reference_ne_name (h : Schema.build entries = .ok s) (ht : t ∈ s.subjects) (hv : v ∈ t.vars)
    (hc : v.condition = some c) : c.reference ≠ v.name := by
  intro heq
  obtain ⟨e, he, hsubject, hdecl⟩ := exists_entry_of_mem h ht hv
  obtain ⟨written, spells, _⟩ := (hdecl.condition c).mp hc
  have hself : Refers entries t.name v.name v.name :=
    ⟨e, he, hsubject, hdecl.name.symm, _, _, written, spells, heq⟩
  exact (wellFormed_of_build h).acyclic t.name v.name (.single hself)

/-- **Whatever else is set, some text of the variable that a condition is on makes it hold, and some
text makes it fail.** -/
theorem condition_not_constant (h : Schema.build entries = .ok s) (ht : t ∈ s.subjects)
    (hv : v ∈ t.vars) (hr : v.requirement = .conditional) (unset : env v.name = none) :
    ∃ c, v.condition = some c ∧
      (∃ x, ⟨t.name, v.name, .missingWhen c⟩ ∈ reportedBy
        (s.evaluate (.subject t.name) (Function.update env c.reference (some x)))) ∧
      ∃ y, ∀ p, ⟨t.name, v.name, p⟩ ∉ reportedBy
        (s.evaluate (.subject t.name) (Function.update env c.reference (some y))) := by
  obtain ⟨noDefault, c, condition⟩ := requirement_eq_conditional_iff.mp hr
  have hs := coherent_of_build h
  have ht' := hs.subjects t ht
  obtain ⟨w, hw, name, word, compares⟩ := (ht'.vars v hv).condition c condition
  -- the text is that of another variable, so `v` stays unset, and only its condition decides
  have hreported (text : String) (p : Problem) :
      ⟨t.name, v.name, p⟩ ∈ reportedBy
          (s.evaluate (.subject t.name) (Function.update env c.reference (some text))) ↔
        p = .missingWhen c ∧ w.kind.read? text = some c.expected.toValue := by
    have hpart := hs.of_sublist (List.singleton_sublist.mpr ht)
    have hset : Function.update env c.reference (some text) w.name = some text := by
      rw [name, Function.update_self]
    have hunset : Function.update env c.reference (some text) v.name = none := by
      rw [Function.update_of_ne (reference_ne_name h ht hv condition).symm, unset]
    rw [reportedBy_evaluate hs (.subject ht),
      mem_violationsOf_iff_offends hpart (List.mem_singleton_self t) hv,
      offends_iff_of_conditional hunset noDefault condition, ← known?_of_set hset]
    refine and_congr_right fun _ => ⟨?_, fun holds => ⟨w, hw, name, holds⟩⟩
    rintro ⟨w', hw', name', holds⟩
    obtain rfl := List.inj_on_of_nodup_map ht'.names hw' hw (name'.trans name.symm)
    exact holds
  refine ⟨c, condition, ⟨_, (hreported _ _).mpr ⟨rfl, compares.literalOf.read?_text⟩⟩, ?_⟩
  obtain ⟨raw, other, hread, hne⟩ := compares.literalOf.exists_read?_ne
  refine ⟨raw, fun p hp => hne ?_⟩
  have hread' : w.kind.read? raw = some c.expected.toValue := ((hreported raw p).mp hp).2
  exact Option.some.inj (hread.symm.trans hread')

theorem condition_not_constant_sample :
    Schema.build sampleEntries = .ok ⟨[sampleSubject]⟩ ∧
      ∃ c, (sampleSubject.find? "URL").bind (·.condition) = some c ∧
        (∃ x, ⟨"store", "URL", .missingWhen c⟩ ∈ reportedBy (Schema.evaluate ⟨[sampleSubject]⟩
          (.subject "store") (Function.update (fun _ => none) c.reference (some x)))) ∧
        ∃ y, ∀ p, ⟨"store", "URL", p⟩ ∉ reportedBy (Schema.evaluate ⟨[sampleSubject]⟩
          (.subject "store") (Function.update (fun _ => none) c.reference (some y))) := by
  have hb : Schema.build sampleEntries = .ok ⟨[sampleSubject]⟩ := by rfl
  have hv : sampleSubject.vars[1] ∈ sampleSubject.vars := List.getElem_mem _
  exact ⟨hb, condition_not_constant hb (List.mem_singleton_self _) hv (by rfl) rfl⟩

/-! ## Declarations that differ in conditions -/

/-- The same entry, but perhaps for the text of its condition. -/
def Entry.SameButCondition (e e' : Entry) : Prop := ∃ text, e' = { e with requiredWhen := text }

/-- A variable is declared by the same entry, and so with the same condition, in both lists. -/
def KeptIn (entries entries' : List Entry) (subject name : String) : Prop :=
  ∃ e ∈ entries, e ∈ entries' ∧ e.subject = subject ∧ e.name = name

/-- The same variable, but perhaps for its condition, which is the same if its text is. -/
structure Variable.SameButCondition (v w : Variable) : Prop where
  subject : v.subject = w.subject
  name : v.name = w.name
  kind : v.kind = w.kind
  default : v.default? = w.default?
  applications : v.applications = w.applications
  condition : v.requiredWhen = w.requiredWhen → v.condition = w.condition

/-- The same variables in the same order under the same name, but perhaps for their conditions. -/
structure Subject.SameButConditions (t u : Subject) : Prop where
  name : t.name = u.name
  vars : List.Forall₂ Variable.SameButCondition t.vars u.vars

section Entries

variable {e e' : Entry}

theorem Entry.SameButCondition.symm (h : e.SameButCondition e') : e'.SameButCondition e := by
  obtain ⟨text, rfl⟩ := h
  exact ⟨e.requiredWhen, rfl⟩

theorem Entry.SameButCondition.subject (h : e.SameButCondition e') : e.subject = e'.subject := by
  obtain ⟨text, rfl⟩ := h
  rfl

theorem Entry.SameButCondition.hasType (h : e.SameButCondition e') {k : Kind} {d : Option Value}
    (ht : e.HasType k d) : e'.HasType k d := by
  obtain ⟨text, rfl⟩ := h
  cases ht with
  | plain token absent => exact .plain token absent
  | default token given read => exact .default token given read

variable (hsame : List.Forall₂ Entry.SameButCondition entries entries')

include hsame

theorem subjectNames_of_sameButCondition : subjectNames entries = subjectNames entries' := by
  have hsubjects : entries'.map Entry.subject = entries.map Entry.subject :=
    map_eq_of_forall₂ (fun _ _ h => h.subject.symm) hsame
  rw [subjectNames, subjectNames, hsubjects]

theorem filter_subject_of_sameButCondition (subject : String) :
    List.Forall₂ Entry.SameButCondition (entries.filter (·.subject == subject))
      (entries'.filter (·.subject == subject)) :=
  List.rel_filter (fun _ _ h => Bool.eq_iff_iff.mp (congrArg (· == subject) h.subject)) hsame

/-- The variable that a condition is on does not depend on conditions. -/
theorem Entry.ConditionIs.of_sameButCondition (hd : (entries.map Entry.key).Nodup)
    (hd' : (entries'.map Entry.key).Nodup) (hc : e.ConditionIs entries c) :
    e.ConditionIs entries' c := by
  obtain ⟨written, spells, declared, name, type, compares⟩ := hc
  rw [declarationsOf_of_nodup hd] at declared
  obtain ⟨d, declared', hd⟩ :=
    exists_right_of_forall₂ (filter_subject_of_sameButCondition hsame _) declared
  have type' := hd.hasType type
  obtain ⟨text, rfl⟩ := hd
  rw [← declarationsOf_of_nodup hd'] at declared'
  exact .mk written spells declared' name type' compares

theorem Entry.Declares.sameButCondition (hd : (entries.map Entry.key).Nodup)
    (hd' : (entries'.map Entry.key).Nodup) (h : e.SameButCondition e')
    (hv : e.Declares entries v) (hw : e'.Declares entries' w) : v.SameButCondition w := by
  obtain ⟨hkind, hdefault⟩ := (h.hasType hv.type).unique hw.type
  obtain ⟨text, rfl⟩ := h
  refine ⟨hv.subject.trans hw.subject.symm, hv.name.trans hw.name.symm, hkind, hdefault,
    hv.applications.trans hw.applications.symm, fun htext => ?_⟩
  -- entries with the same text are the same, and so only the other entries differ
  obtain rfl : e.requiredWhen = text := hv.requiredWhen.symm.trans (htext.trans hw.requiredWhen)
  apply Option.ext
  intro c
  rw [hv.condition, hw.condition]
  exact ⟨.of_sameButCondition hsame hd hd',
    .of_sameButCondition (hsame.flip.imp fun _ _ => .symm) hd' hd⟩

/-- **Entries that differ in conditions build schemas that differ in conditions.** -/
theorem subjects_of_sameButCondition (h : Schema.build entries = .ok s)
    (h' : Schema.build entries' = .ok s') :
    List.Forall₂ Subject.SameButConditions s.subjects s'.subjects := by
  have hd := (wellFormed_of_build h).distinct
  have hd' := (wellFormed_of_build h').distinct
  have hs' : List.Forall₂ (SubjectOf entries') (subjectNames entries) s'.subjects :=
    subjectNames_of_sameButCondition hsame ▸ represents_of_build h'
  refine forall₂_comp (fun t name u ht hu => ?_) (represents_of_build h).flip hs'
  refine ⟨ht.name.trans hu.name.symm, ?_⟩
  have hvars : List.Forall₂ (fun v e' => ∃ e : Entry, e.SameButCondition e' ∧ e.Declares entries v)
      t.vars (entries'.filter (·.subject == name)) :=
    forall₂_comp (fun _ e _ hv hsame => ⟨e, hsame, hv⟩) ht.vars.flip
      (filter_subject_of_sameButCondition hsame name)
  refine forall₂_comp (fun v e' w hv hw => ?_) hvars hu.vars
  obtain ⟨e, he, hv⟩ := hv
  exact hv.sameButCondition hsame hd hd' he hw

end Entries

theorem KeptIn.symm {subject name : String} (h : KeptIn entries entries' subject name) :
    KeptIn entries' entries subject name := by
  obtain ⟨e, he, he', hkey⟩ := h
  exact ⟨e, he', he, hkey⟩

theorem requiredWhen_of_mem (h : Schema.build entries = .ok s) (ht : t ∈ s.subjects)
    (hv : v ∈ t.vars) {e : Entry} (he : e ∈ entries) (hsubject : e.subject = t.name)
    (hname : e.name = v.name) : v.requiredWhen = e.requiredWhen := by
  obtain ⟨d, hd, hsubject', hdecl⟩ := exists_entry_of_mem h ht hv
  have hkey : d.key = e.key := by
    rw [Entry.key, Entry.key, hsubject', hsubject, hname, hdecl.name]
  obtain rfl := List.inj_on_of_nodup_map (wellFormed_of_build h).distinct hd he hkey
  exact hdecl.requiredWhen

/-! ## What is wrong with variables -/

theorem Variable.SameButCondition.symm (h : v.SameButCondition w) : w.SameButCondition v :=
  ⟨h.subject.symm, h.name.symm, h.kind.symm, h.default.symm, h.applications.symm,
    fun heq => (h.condition heq.symm).symm⟩

theorem Subject.SameButConditions.symm (h : t.SameButConditions u) : u.SameButConditions t :=
  ⟨h.name.symm, h.vars.flip.imp fun _ _ => Variable.SameButCondition.symm⟩

/-- What is known of a variable does not depend on its condition. -/
theorem Variable.SameButCondition.known? (h : v.SameButCondition w) (env : Environment) :
    v.known? env = w.known? env := by
  simp only [Variable.known?, h.name, h.kind, h.default]

/-- A text does not fit the kind of the variable. -/
def Problem.isMismatch : Problem → Bool
  | .mismatch .. => true
  | _ => false

/-- **A condition decides on its own variable only, and not on whether a text fits.** -/
theorem Subject.SameButConditions.offends (h : t.SameButConditions u) (hv : v.SameButCondition w)
    {p : Problem} (hp : p.isMismatch = true ∨ v.condition = w.condition)
    (ho : Offends t env v p) : Offends u env w p := by
  cases ho with
  | mismatch set unread => exact hv.kind ▸ .mismatch (hv.name ▸ set) (hv.kind ▸ unread)
  | missing unset noDefault always required =>
    -- what is missing is no mismatch, so the conditions are the same
    have hc : v.condition = w.condition := hp.resolve_left (by simp [Problem.isMismatch])
    exact .missing (hv.name ▸ unset) (hv.default ▸ noDefault) (hc ▸ always) (hv.kind ▸ required)
  | @missingWhen c sibling unset noDefault condition mem name holds =>
    have hc : v.condition = w.condition := hp.resolve_left (by simp [Problem.isMismatch])
    obtain ⟨sibling', mem', hsame⟩ := exists_right_of_forall₂ h.vars mem
    exact .missingWhen (hv.name ▸ unset) (hv.default ▸ noDefault) (hc ▸ condition) mem'
      (hsame.name ▸ name) (hsame.known? env ▸ holds)

theorem Subject.SameButConditions.mismatches (h : t.SameButConditions u) (ht : t.Coherent)
    (hu : u.Coherent) (env : Environment) :
    (t.violations env).filter (·.problem.isMismatch) =
      (u.violations env).filter (·.problem.isMismatch) := by
  rw [Subject.violations, Subject.violations, List.filter_filterMap, List.filter_filterMap]
  refine filterMap_eq_of_forall₂ h.vars fun v w hvw => ?_
  have hproblem : (t.problem? env v).filter Problem.isMismatch =
      (u.problem? env w).filter Problem.isMismatch := by
    apply Option.ext
    intro p
    simp only [Option.filter_eq_some_iff, problem?_eq_some_iff ht, problem?_eq_some_iff hu]
    exact and_congr_left fun hp =>
      ⟨h.offends hvw (.inl hp), h.symm.offends hvw.symm (.inl hp)⟩
  rw [Option.filter_map, Option.filter_map, hvw.subject, hvw.name]
  exact congrArg _ hproblem

/-! ## Evaluations -/

/-- What evaluations of a target have in common if only conditions differ, and those of the
variables that are `kept` do not. -/
structure SameButConditions (target : Target) (kept : String → String → Prop)
    (r r' : Except EvaluationError Resolved) : Prop where
  known : r = .error target.unknown ↔ r' = .error target.unknown
  mismatches : (reportedBy r).filter (·.problem.isMismatch) =
    (reportedBy r').filter (·.problem.isMismatch)
  kept : ∀ x : Violation, kept x.subject x.name → (x ∈ reportedBy r ↔ x ∈ reportedBy r')
  values : ∀ c c', r = .ok c → r' = .ok c' → c = c'

section Subjects

variable {subjects subjects' : List Subject}

/-- The subjects of a target differ in conditions. -/
theorem selects_of_sameButConditions
    (h : List.Forall₂ Subject.SameButConditions s.subjects s'.subjects) {target : Target}
    (hselects : target.Selects s subjects) : ∃ subjects', target.Selects s' subjects' ∧
      List.Forall₂ Subject.SameButConditions subjects subjects' :=
  hselects.of_forall₂ (fun _ _ htu => htu.name)
    (fun _ _ htu => any_usedBy_of_forall₂ (fun _ _ hvw => hvw.applications) htu.vars) h

theorem outcomeOf_ne_unknown (subjects : List Subject) (env : Environment) (target : Target) :
    outcomeOf subjects env ≠ .error target.unknown := by
  unfold outcomeOf
  split
  · nofun
  · cases target <;> nofun

theorem eq_valuesOf_of_outcomeOf {r : Resolved} (h : outcomeOf subjects env = .ok r) :
    r = valuesOf subjects env := by
  unfold outcomeOf at h
  split at h
  · exact (Except.ok.inj h).symm
  · cases h

theorem valuesOf_of_sameButConditions
    (h : List.Forall₂ Subject.SameButConditions subjects subjects') (env : Environment) :
    valuesOf subjects env = valuesOf subjects' env := by
  have hvalues : ∀ t u, Subject.SameButConditions t u →
      u.vars.map (fun w => (w.name, w.valueIn env)) = t.vars.map fun v => (v.name, v.valueIn env) :=
    fun t u htu => map_eq_of_forall₂
      (fun v w hvw => by rw [Variable.valueIn, Variable.valueIn, hvw.name, hvw.known? env]) htu.vars
  rw [valuesOf, valuesOf, map_eq_of_forall₂ (fun t u htu => ?_) h]
  rw [htu.name, hvalues t u htu]

theorem mismatches_of_sameButConditions
    (h : List.Forall₂ Subject.SameButConditions subjects subjects')
    (hs : ∀ t ∈ subjects, t.Coherent) (hs' : ∀ u ∈ subjects', u.Coherent) (env : Environment) :
    (Schema.violationsOf subjects env).filter (·.problem.isMismatch) =
      (Schema.violationsOf subjects' env).filter (·.problem.isMismatch) := by
  rw [Schema.violationsOf, Schema.violationsOf, List.filter_flatMap, List.filter_flatMap]
  exact flatMap_eq_of_forall₂ h fun t ht u hu htu => htu.mismatches (hs t ht) (hs' u hu) env

theorem mem_violationsOf_of_kept (h : Schema.build entries = .ok s)
    (h' : Schema.build entries' = .ok s') (hsub : subjects.Sublist s.subjects)
    (hsub' : subjects'.Sublist s'.subjects)
    (hpart : List.Forall₂ Subject.SameButConditions subjects subjects') {x : Violation}
    (hkept : KeptIn entries entries' x.subject x.name)
    (hx : x ∈ Schema.violationsOf subjects env) : x ∈ Schema.violationsOf subjects' env := by
  have hs := coherent_of_build h
  have hs' := coherent_of_build h'
  rw [mem_violationsOf_iff fun t ht => hs.subjects t (hsub.subset ht)] at hx
  rw [mem_violationsOf_iff fun u hu => hs'.subjects u (hsub'.subset hu)]
  obtain ⟨t, ht, v, hv, p, ho, rfl⟩ := hx
  obtain ⟨u, hu, htu⟩ := exists_right_of_forall₂ hpart ht
  obtain ⟨w, hw, hvw⟩ := exists_right_of_forall₂ htu.vars hv
  obtain ⟨e, he, he', hsubject, hname⟩ := hkept
  -- both variables are declared by `e`, as no other entry has its key
  have htext : v.requiredWhen = w.requiredWhen := by
    rw [requiredWhen_of_mem h (hsub.subset ht) hv he hsubject hname,
      requiredWhen_of_mem h' (hsub'.subset hu) hw he' (hsubject.trans htu.name)
        (hname.trans hvw.name)]
  refine ⟨u, hu, w, hw, p, htu.offends hvw (.inr (hvw.condition htext)) ho, ?_⟩
  rw [htu.name, hvw.name]

end Subjects

/-- **Conditions influence neither which targets are known, nor values, nor which texts do not fit,
and each decides on its own variable only.** -/
theorem evaluate_of_sameButCondition
    (hsame : List.Forall₂ Entry.SameButCondition entries entries')
    (h : Schema.build entries = .ok s) (h' : Schema.build entries' = .ok s') (target : Target)
    (env : Environment) : SameButConditions target (KeptIn entries entries')
      (s.evaluate target env) (s'.evaluate target env) := by
  have hs := coherent_of_build h
  have hs' := coherent_of_build h'
  have hsubjects := subjects_of_sameButCondition hsame h h'
  have hsubjects' : List.Forall₂ Subject.SameButConditions s'.subjects s.subjects :=
    hsubjects.flip.imp fun _ _ => .symm
  refine evaluate_rel hs hs' (fun subjects hsel => ?_) (fun subjects' hsel' => ?_) ?_
  · obtain ⟨subjects', hsel', hpart⟩ := selects_of_sameButConditions hsubjects hsel
    have hpart' : List.Forall₂ Subject.SameButConditions subjects' subjects :=
      hpart.flip.imp fun _ _ => .symm
    refine ⟨subjects', hsel', ?_, ?_, fun x hx => ?_, fun c c' hc hc' => ?_⟩
    · simp only [outcomeOf_ne_unknown]
    · rw [reportedBy_outcomeOf, reportedBy_outcomeOf]
      exact mismatches_of_sameButConditions hpart (hs.of_sublist hsel.sublist).subjects
        (hs'.of_sublist hsel'.sublist).subjects env
    · rw [reportedBy_outcomeOf, reportedBy_outcomeOf]
      exact ⟨mem_violationsOf_of_kept h h' hsel.sublist hsel'.sublist hpart hx,
        mem_violationsOf_of_kept h' h hsel'.sublist hsel.sublist hpart' hx.symm⟩
    · rw [eq_valuesOf_of_outcomeOf hc, eq_valuesOf_of_outcomeOf hc',
        valuesOf_of_sameButConditions hpart env]
  · obtain ⟨subjects, hsel, _⟩ := selects_of_sameButConditions hsubjects' hsel'
    exact ⟨subjects, hsel⟩
  · exact ⟨.rfl, rfl, fun _ _ => .rfl, nofun⟩

theorem evaluate_of_sameButCondition_sample :
    List.Forall₂ Entry.SameButCondition sampleEntries
        (sampleEntries.map fun e => { e with requiredWhen := none }) ∧
      SameButConditions (.subject "store")
        (KeptIn sampleEntries (sampleEntries.map fun e => { e with requiredWhen := none }))
        (.error (.invalid [⟨"store", "URL", .missingWhen ⟨"MODE", .str "remote"⟩⟩]))
        (.ok ⟨[⟨"store", [("MODE", .str "remote"), ("URL", .null)]⟩]⟩) := by
  have hsame : List.Forall₂ Entry.SameButCondition sampleEntries
      (sampleEntries.map fun e => { e with requiredWhen := none }) :=
    List.forall₂_map_right_iff.mpr (List.forall₂_same.mpr fun e _ => ⟨none, rfl⟩)
  have hb : Schema.build sampleEntries = .ok ⟨[sampleSubject]⟩ := by rfl
  have hb' : Schema.build (sampleEntries.map fun e => { e with requiredWhen := none }) =
      .ok (schemaOf (sampleEntries.map fun e => { e with requiredWhen := none })) := by rfl
  exact ⟨hsame, evaluate_of_sameButCondition hsame hb hb' (.subject "store")
    (.ofPairs [("MODE", "remote")])⟩

end DeclaredEnv
