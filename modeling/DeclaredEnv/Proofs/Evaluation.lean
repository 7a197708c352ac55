import DeclaredEnv.Proofs.Built

/-!
# What an evaluation reports and what it gives

* `Variable.known?`, `Variable.valueIn` — the value of a variable: its text if it is set, and else
  its default.
* `Offends` — what is wrong with a variable of a subject in an environment.
* `Violates` — the same, as the violation that is reported.
* `reportedBy` — the violations that an evaluation reports.

Principal results: `problem?_eq_some_iff` — the check of a variable finds exactly what is wrong with
it.  `slot_valueOrNull` — its slot holds its value.  `evaluate_rel` — how two evaluations are
compared.  `evaluate_of_build` — an evaluation reports every violation in order, and gives every
value if there is none.
-/

namespace DeclaredEnv

variable {s : Schema} {t : Subject} {v w : Variable} {env : Environment}

/-- What is known of a variable: its text, if it is set, and else its default. -/
def Variable.known? (env : Environment) (v : Variable) : Option Value :=
  match env v.name with
  | some raw => v.kind.read? raw
  | none => v.default?

/-- The value of a variable, none standing for what is not known. -/
def Variable.valueIn (env : Environment) (v : Variable) : Value := (v.known? env).getD .null

/-- What is wrong with a variable of a subject.  A condition holds if the value that is known of the
variable it refers to is the one it asks for. -/
inductive Offends (t : Subject) (env : Environment) (v : Variable) : Problem → Prop where
  | mismatch {raw : String} (set : env v.name = some raw) (unread : v.kind.read? raw = none) :
      Offends t env v (.mismatch v.kind raw)
  | missing (unset : env v.name = none) (noDefault : v.default? = none)
      (always : v.condition = none) (required : v.kind.optional = false) : Offends t env v .missing
  | missingWhen {c : Condition} {w : Variable} (unset : env v.name = none)
      (noDefault : v.default? = none) (condition : v.condition = some c) (sibling : w ∈ t.vars)
      (name : w.name = c.reference) (holds : w.known? env = some c.expected.toValue) :
      Offends t env v (.missingWhen c)

/-- A variable of a subject is reported with what is wrong with it. -/
def Violates (env : Environment) (p : Subject × Variable) (violation : Violation) : Prop :=
  ∃ problem, Offends p.1 env p.2 problem ∧ violation = ⟨p.1.name, p.2.name, problem⟩

/-- The variables of the subjects, in order, each with its subject. -/
def variablesOf (subjects : List Subject) : List (Subject × Variable) :=
  subjects.flatMap fun t => t.vars.map fun v => (t, v)

/-- The values of the variables of the subjects, in order. -/
def valuesOf (subjects : List Subject) (env : Environment) : Resolved :=
  ⟨subjects.map fun t => ⟨t.name, t.vars.map fun v => (v.name, v.valueIn env)⟩⟩

/-- What an evaluation of the subjects gives. -/
def outcomeOf (subjects : List Subject) (env : Environment) : Except EvaluationError Resolved :=
  if Schema.violationsOf subjects env = [] then .ok (valuesOf subjects env)
  else .error (.invalid (Schema.violationsOf subjects env))

/-- The violations that an evaluation reports, none if it gives values. -/
def reportedBy : Except EvaluationError Resolved → List Violation
  | .error (.invalid violations) => violations
  | _ => []

/-! ## Slots -/

/-- How a variable comes by its slot. -/
inductive SlotOf (env : Environment) (v : Variable) : Slot → Prop where
  | read {raw : String} {value : Value} (set : env v.name = some raw)
      (read : v.kind.read? raw = some value) : SlotOf env v (.value value)
  | mismatch {raw : String} (set : env v.name = some raw) (unread : v.kind.read? raw = none) :
      SlotOf env v (.mismatch raw)
  | default {d : Value} (unset : env v.name = none) (given : v.default? = some d) :
      SlotOf env v (.value d)
  | conditional {c : Condition} (unset : env v.name = none) (noDefault : v.default? = none)
      (condition : v.condition = some c) : SlotOf env v .absent
  | optional (unset : env v.name = none) (noDefault : v.default? = none)
      (always : v.condition = none) (optional : v.kind.optional = true) :
      SlotOf env v (.value .null)
  | required (unset : env v.name = none) (noDefault : v.default? = none)
      (always : v.condition = none) (required : v.kind.optional = false) : SlotOf env v .absent

theorem slotOf (env : Environment) (v : Variable) : SlotOf env v (v.slot env) := by
  unfold Variable.slot
  cases hset : env v.name with
  | some raw =>
    cases hread : v.kind.read? raw with
    | some value =>
      simp only [hread]
      exact .read hset hread
    | none =>
      simp only [hread]
      exact .mismatch hset hread
  | none =>
    cases hd : v.default? with
    | some d =>
      have hnever : v.requirement = .never := by simp [Variable.requirement, hd]
      have hfallback : v.fallback.getD .null = d := by simp [Variable.fallback, hd]
      simp only [hnever, hfallback]
      exact .default hset hd
    | none =>
      cases hc : v.condition with
      | some c =>
        have hrequirement : v.requirement = .conditional := by
          simp [Variable.requirement, hd, hc]
        simp only [hrequirement]
        exact .conditional hset hd hc
      | none =>
        cases ho : v.kind.optional with
        | true =>
          have hnever : v.requirement = .never := by simp [Variable.requirement, hd, hc, ho]
          have hfallback : v.fallback.getD .null = .null := by simp [Variable.fallback, hd, ho]
          simp only [hnever, hfallback]
          exact .optional hset hd hc ho
        | false =>
          have halways : v.requirement = .always := by simp [Variable.requirement, hd, hc, ho]
          simp only [halways]
          exact .required hset hd hc ho

theorem SlotOf.of_eq {slot : Slot} (h : v.slot env = slot) : SlotOf env v slot :=
  h ▸ slotOf env v

theorem known?_of_set {raw : String} (h : env v.name = some raw) :
    v.known? env = v.kind.read? raw := by
  simp only [Variable.known?, h]

theorem known?_of_unset (h : env v.name = none) : v.known? env = v.default? := by
  simp only [Variable.known?, h]

/-- **The slot of a variable holds its value.** -/
theorem slot_valueOrNull (env : Environment) (v : Variable) :
    (v.slot env).valueOrNull = v.valueIn env := by
  unfold Variable.valueIn
  generalize hslot : v.slot env = slot
  cases SlotOf.of_eq hslot with
  | read set read =>
    rw [known?_of_set set, read]
    rfl
  | mismatch set unread =>
    rw [known?_of_set set, unread]
    rfl
  | default unset given =>
    rw [known?_of_unset unset, given]
    rfl
  | conditional unset noDefault | optional unset noDefault | required unset noDefault =>
    rw [known?_of_unset unset, noDefault]
    rfl

theorem Literal.toValue_ne_null (l : Literal) : l.toValue ≠ .null := by
  cases l <;> simp [Literal.toValue]

/-- A slot has the value of a literal exactly if this is what is known of the variable. -/
theorem slot_eq_value_toValue_iff {l : Literal} :
    v.slot env = .value l.toValue ↔ v.known? env = some l.toValue := by
  generalize hslot : v.slot env = slot
  cases SlotOf.of_eq hslot with
  | read set read => rw [known?_of_set set, read, Slot.value.injEq, Option.some.injEq]
  | mismatch set unread => simp [known?_of_set set, unread]
  | default unset given =>
    rw [known?_of_unset unset, given, Slot.value.injEq, Option.some.injEq]
  | conditional unset noDefault | required unset noDefault =>
    simp [known?_of_unset unset, noDefault]
  | optional unset noDefault =>
    simp [known?_of_unset unset, noDefault, l.toValue_ne_null.symm]

/-! ## Problems -/

/-- The value of the variable that a condition refers to is the literal. -/
theorem slot?_eq_value_iff (ht : t.Coherent) {c : Condition} :
    t.slot? env c.reference = some (.value c.expected.toValue) ↔
      ∃ w ∈ t.vars, w.name = c.reference ∧ w.known? env = some c.expected.toValue := by
  simp only [Subject.slot?, Option.map_eq_some_iff, ht.find?_eq_some_iff,
    slot_eq_value_toValue_iff, and_assoc]

theorem problem?_of_conditional {c : Condition} (h : v.slot env = .absent)
    (hc : v.condition = some c) : t.problem? env v =
      if t.slot? env c.reference = some (.value c.expected.toValue) then some (.missingWhen c)
      else none := by
  simp only [Subject.problem?, h, hc, Condition.holdsFor]
  split
  · rename_i other hother
    simp [hother]
  · rename_i hother
    rw [if_neg (hother _)]

/-- **The check of a variable finds exactly what is wrong with it.** -/
theorem problem?_eq_some_iff (ht : t.Coherent) {p : Problem} :
    t.problem? env v = some p ↔ Offends t env v p := by
  generalize hslot : v.slot env = slot
  cases SlotOf.of_eq hslot with
  | read set read =>
    simp only [Subject.problem?, hslot]
    constructor
    · rintro ⟨⟩
    · rintro (⟨set', unread⟩ | ⟨unset⟩ | ⟨unset⟩) <;> simp_all
  | mismatch set unread =>
    simp only [Subject.problem?, hslot, Option.some.injEq]
    constructor
    · rintro rfl
      exact .mismatch set unread
    · rintro (⟨set', _⟩ | ⟨unset⟩ | ⟨unset⟩) <;> simp_all
  | default unset given =>
    simp only [Subject.problem?, hslot]
    constructor
    · rintro ⟨⟩
    · rintro (⟨set, _⟩ | ⟨_, noDefault⟩ | ⟨_, noDefault⟩) <;> simp_all
  | conditional unset noDefault condition =>
    rw [problem?_of_conditional hslot condition, Option.ite_none_right_eq_some,
      slot?_eq_value_iff ht, Option.some.injEq]
    constructor
    · rintro ⟨⟨w, hw, hname, hknown⟩, rfl⟩
      exact .missingWhen unset noDefault condition hw hname hknown
    · rintro (⟨set, _⟩ | ⟨_, _, always⟩ | ⟨_, _, condition', sibling, name, holds⟩)
      · simp_all
      · simp_all
      · rw [condition] at condition'
        cases condition'
        exact ⟨⟨_, sibling, name, holds⟩, rfl⟩
  | optional unset noDefault always optional =>
    simp only [Subject.problem?, hslot]
    constructor
    · rintro ⟨⟩
    · rintro (⟨set, _⟩ | ⟨_, _, _, required⟩ | ⟨_, _, condition⟩) <;> simp_all
  | required unset noDefault always required =>
    simp only [Subject.problem?, hslot, always, Option.some.injEq]
    constructor
    · rintro rfl
      exact .missing unset noDefault always required
    · rintro (⟨set, _⟩ | _ | ⟨_, _, condition⟩) <;> simp_all

/-- The checks of two variables find the same if the same is wrong with them. -/
theorem problem?_congr {u : Subject} {env' : Environment} (ht : t.Coherent) (hu : u.Coherent)
    (h : ∀ p, Offends t env v p ↔ Offends u env' w p) : t.problem? env v = u.problem? env' w := by
  apply Option.ext
  intro p
  rw [problem?_eq_some_iff ht, problem?_eq_some_iff hu]
  exact h p

/-- A subject has the same violations in two environments if the same is wrong with its
variables. -/
theorem Subject.Coherent.violations_congr {env' : Environment} (ht : t.Coherent)
    (h : ∀ v ∈ t.vars, ∀ p, Offends t env v p ↔ Offends t env' v p) :
    t.violations env = t.violations env' := by
  rw [Subject.violations, Subject.violations]
  refine List.filterMap_congr fun v hv => ?_
  rw [problem?_congr ht ht (h v hv)]

/-! ## Whole evaluations -/

theorem mem_variablesOf {subjects : List Subject} {p : Subject × Variable} :
    p ∈ variablesOf subjects ↔ p.1 ∈ subjects ∧ p.2 ∈ p.1.vars := by
  obtain ⟨t, v⟩ := p
  simp [variablesOf]

theorem violationsOf_eq_filterMap {subjects : List Subject} (h : ∀ t ∈ subjects, t.Coherent) :
    Schema.violationsOf subjects env = (variablesOf subjects).filterMap fun p =>
      (p.1.problem? env p.2).map fun problem => ⟨p.1.name, p.2.name, problem⟩ := by
  rw [Schema.violationsOf, variablesOf, List.filterMap_flatMap]
  apply List.flatMap_congr
  intro t ht
  rw [List.filterMap_map, Subject.violations]
  apply List.filterMap_congr
  intro v hv
  simp only [Function.comp_apply, ((h t ht).vars v hv).subject]

theorem collects_violationsOf {subjects : List Subject} (h : ∀ t ∈ subjects, t.Coherent) :
    Collects (Violates env) (variablesOf subjects) (Schema.violationsOf subjects env) := by
  rw [violationsOf_eq_filterMap h]
  apply collects_filterMap
  intro p hp violation
  have ht : p.1.Coherent := h p.1 (mem_variablesOf.mp hp).1
  simp only [Violates, Option.map_eq_some_iff, problem?_eq_some_iff ht]
  exact exists_congr fun problem => and_congr_right fun _ => eq_comm

theorem map_resolve (subjects : List Subject) (env : Environment) :
    (⟨subjects.map (·.resolve env)⟩ : Resolved) = valuesOf subjects env := by
  simp only [valuesOf, Subject.resolve, slot_valueOrNull]

/-- The values of a list of subjects are looked up as their variables are. -/
theorem get?_valuesOf_eq (subjects : List Subject) (env : Environment) (subject name : String) :
    (valuesOf subjects env).get? subject name =
      ((⟨subjects⟩ : Schema).lookup? subject name).map (·.valueIn env) := by
  have hsubject : (valuesOf subjects env).subjects.find? (·.name == subject) =
      (subjects.find? (·.name == subject)).map fun t =>
        ⟨t.name, t.vars.map fun v => (v.name, v.valueIn env)⟩ := by
    rw [valuesOf, List.find?_map]
    rfl
  rw [Resolved.get?, hsubject, Schema.lookup?, Schema.subject?]
  cases subjects.find? (·.name == subject) with
  | none => rfl
  | some t =>
    simp only [Option.map_some, Option.bind_some, List.find?_map, Option.map_map, Subject.find?]
    rfl

theorem Target.Selects.sublist {target : Target} {subjects : List Subject}
    (h : target.Selects s subjects) : subjects.Sublist s.subjects := by
  cases h with
  | subject known => exact List.singleton_sublist.mpr known
  | application => exact List.filter_sublist

/-- The subjects that a target stands for in a coherent schema are coherent. -/
theorem Target.Selects.coherent {target : Target} {subjects : List Subject}
    (h : target.Selects s subjects) (hs : s.Coherent) : ∀ t ∈ subjects, t.Coherent :=
  (hs.of_sublist h.sublist).subjects

theorem evaluate_eq (h : s.Coherent) {target : Target} {subjects : List Subject}
    (ht : target.Selects s subjects) : s.evaluate target env =
      if Schema.violationsOf subjects env = [] then .ok (valuesOf subjects env)
      else .error (.invalid (Schema.violationsOf subjects env)) := by
  simp only [Schema.evaluate, (targetSubjects_eq_ok_iff h).mpr ht, map_resolve, List.isEmpty_iff]

theorem reportedBy_outcomeOf (subjects : List Subject) (env : Environment) :
    reportedBy (outcomeOf subjects env) = Schema.violationsOf subjects env := by
  unfold outcomeOf
  split
  · rename_i h
    rw [h]
    rfl
  · rfl

theorem reportedBy_evaluate (h : s.Coherent) {target : Target} {subjects : List Subject}
    (ht : target.Selects s subjects) :
    reportedBy (s.evaluate target env) = Schema.violationsOf subjects env := by
  rw [evaluate_eq h ht]
  exact reportedBy_outcomeOf subjects env

theorem mem_violationsOf_iff {subjects : List Subject} (h : ∀ t ∈ subjects, t.Coherent)
    {x : Violation} : x ∈ Schema.violationsOf subjects env ↔
      ∃ t ∈ subjects, ∃ v ∈ t.vars, ∃ p, Offends t env v p ∧ x = ⟨t.name, v.name, p⟩ := by
  simp only [Schema.violationsOf, Subject.violations, List.mem_flatMap, List.mem_filterMap,
    Option.map_eq_some_iff]
  refine exists_congr fun t => and_congr_right fun ht => ?_
  refine exists_congr fun v => and_congr_right fun hv => exists_congr fun p => ?_
  rw [problem?_eq_some_iff (h t ht), ((h t ht).vars v hv).subject, eq_comm (b := x)]

/-- There are no violations exactly if nothing is wrong with any variable. -/
theorem violationsOf_eq_nil_iff_not_offends {subjects : List Subject}
    (h : ∀ t ∈ subjects, t.Coherent) : Schema.violationsOf subjects env = [] ↔
      ∀ t ∈ subjects, ∀ v ∈ t.vars, ∀ p, ¬Offends t env v p := by
  simp only [List.eq_nil_iff_forall_not_mem, mem_violationsOf_iff h]
  constructor
  · intro hnone t ht v hv p ho
    exact hnone _ ⟨t, ht, v, hv, p, ho, rfl⟩
  · rintro hnone _ ⟨t, ht, v, hv, p, ho, rfl⟩
    exact hnone t ht v hv p ho

/-- A variable is reported with what is wrong with it, and with nothing else. -/
theorem mem_violationsOf_iff_offends {subjects : List Subject} (h : Schema.Coherent ⟨subjects⟩)
    (ht : t ∈ subjects) (hv : v ∈ t.vars) {p : Problem} :
    (⟨t.name, v.name, p⟩ : Violation) ∈ Schema.violationsOf subjects env ↔ Offends t env v p := by
  rw [mem_violationsOf_iff h.subjects]
  constructor
  · rintro ⟨u, hu, w, hw, q, ho, heq⟩
    obtain ⟨htu, hvw, rfl⟩ := Violation.mk.injEq .. ▸ heq
    obtain rfl := List.inj_on_of_nodup_map h.names ht hu htu
    obtain rfl := List.inj_on_of_nodup_map (h.subjects t ht).names hv hw hvw
    exact ho
  · exact fun ho => ⟨t, ht, v, hv, p, ho, rfl⟩

/-- The error for a target that the schema does not know. -/
def Target.unknown : Target → EvaluationError
  | .application name => .unknownApplication name
  | .subject name => .unknownSubject name

theorem evaluate_of_not_selects (hs : s.Coherent) {target : Target}
    (h : ∀ subjects, ¬target.Selects s subjects) (env : Environment) :
    s.evaluate target env = .error target.unknown := by
  cases htarget : s.targetSubjects target with
  | ok subjects => exact absurd ((targetSubjects_eq_ok_iff hs).mp htarget) (h subjects)
  | error e =>
    simp only [Schema.evaluate, htarget]
    cases target with
    | application name | subject name =>
      simp only [Schema.targetSubjects] at htarget
      split at htarget
      · cases htarget
      · cases htarget
        rfl

/-- Evaluations of two schemas are related if those of the subjects of the target are, and if a
target is unknown to both or to neither. -/
theorem evaluate_rel {s' : Schema} {target : Target} {env' : Environment}
    {R : Except EvaluationError Resolved → Except EvaluationError Resolved → Prop}
    (hs : s.Coherent) (hs' : s'.Coherent)
    (known : ∀ subjects, target.Selects s subjects → ∃ subjects', target.Selects s' subjects' ∧
      R (outcomeOf subjects env) (outcomeOf subjects' env'))
    (known' : ∀ subjects', target.Selects s' subjects' → ∃ subjects, target.Selects s subjects)
    (unknown : R (.error target.unknown) (.error target.unknown)) :
    R (s.evaluate target env) (s'.evaluate target env') := by
  by_cases hselects : ∃ subjects, target.Selects s subjects
  · obtain ⟨subjects, hselects⟩ := hselects
    obtain ⟨subjects', hselects', hR⟩ := known subjects hselects
    rw [evaluate_eq hs hselects, evaluate_eq hs' hselects']
    exact hR
  · have hunknown' : ∀ subjects', ¬target.Selects s' subjects' := fun subjects' hselects' =>
      hselects (known' subjects' hselects')
    rw [evaluate_of_not_selects hs (not_exists.mp hselects), evaluate_of_not_selects hs' hunknown']
    exact unknown

/-- **An evaluation of a known target reports every violation, or gives every value if there is
none.** -/
theorem evaluate_of_build {entries : List Entry} (hb : Schema.build entries = .ok s)
    {target : Target} {subjects : List Subject} (ht : target.Selects s subjects)
    (env : Environment) : ∃ violations,
      Collects (Violates env) (variablesOf subjects) violations ∧
      s.evaluate target env = if violations = [] then .ok (valuesOf subjects env)
        else .error (.invalid violations) := by
  have hs := coherent_of_build hb
  have hsub : ∀ t ∈ subjects, t.Coherent := fun t h => hs.subjects t (ht.sublist.subset h)
  exact ⟨Schema.violationsOf subjects env, collects_violationsOf hsub, evaluate_eq hs ht⟩

theorem evaluate_of_build_sample :
    Schema.build sampleEntries = .ok ⟨[sampleSubject]⟩ ∧
      ∃ violations, Collects (Violates (Environment.ofPairs [("MODE", "remote")]))
          (variablesOf [sampleSubject]) violations ∧
        Schema.evaluate ⟨[sampleSubject]⟩ (.subject "store")
            (Environment.ofPairs [("MODE", "remote")]) =
          if violations = [] then
            .ok (valuesOf [sampleSubject] (Environment.ofPairs [("MODE", "remote")]))
          else .error (.invalid violations) := by
  have hb : Schema.build sampleEntries = .ok ⟨[sampleSubject]⟩ := by rfl
  have ht : Target.Selects ⟨[sampleSubject]⟩ (.subject "store") [sampleSubject] :=
    .subject (List.mem_singleton_self sampleSubject)
  exact ⟨hb, evaluate_of_build hb ht _⟩

end DeclaredEnv
