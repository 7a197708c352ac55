import DeclaredEnv.Proofs.Resolved

/-!
# Schemas that agree

* `Variable.Agrees`, `Subject.Agrees`, `Schema.Agrees` — the same declarations in the same order,
  whatever the texts of their conditions; doubles are compared as numbers.
* `SameResult` — two evaluations with the same outcome, doubles compared as numbers.

Principal results: `Schema.Agrees.scopes` — schemas that agree have the same scopes.
`Subject.Agrees.violations` — an environment violates the same variables of subjects that agree.
`Schema.Agrees.evaluate` — schemas that agree evaluate every environment to the same result.
-/

namespace DeclaredEnv

open Number

/-! ## Values compared as numbers -/

namespace Value

/-- A value that is no double is the same as itself only. -/
theorem same_iff_eq {x y : Value} (h : ∀ d, x ≠ .float d) : x.same y = true ↔ x = y := by
  cases x with
  | float d => exact absurd rfl (h d)
  | null | str | int | bool => simp [same]

theorem same_comm (x y : Value) : x.same y = y.same x := by
  cases x <;> cases y <;> first | exact Binary64.sameNumber_comm _ _ | exact BEq.comm

end Value

/-- A value of a base kind is the same as itself. -/
theorem Base.Admits.same_self {b : Base} {x : Value} (h : b.Admits x) : x.same x = true := by
  cases x with
  | float d => exact Binary64.sameNumber_self (h.finite d rfl)
  | null | str | int | bool => simp [Value.same]

theorem Literal.same_iff_eq {l : Literal} {x : Value} :
    l.toValue.same x = true ↔ x = l.toValue := by
  rw [Value.same_iff_eq (by cases l <;> nofun), eq_comm]

/-- Both values are missing, or both are there and are the same. -/
def SameOption : Option Value → Option Value → Prop := Option.Rel fun x y => x.same y = true

theorem SameOption.symm {x? y? : Option Value} (h : SameOption x? y?) : SameOption y? x? := by
  cases h with
  | none => exact .none
  | some h => exact .some (Value.same_comm _ _ ▸ h)

theorem SameOption.isSome_eq {x? y? : Option Value} (h : SameOption x? y?) :
    x?.isSome = y?.isSome := by
  cases h <;> rfl

theorem SameOption.eq_none {y? : Option Value} (h : SameOption none y?) : y? = none := by
  cases h
  rfl

theorem SameOption.eq_literal {l : Literal} {y? : Option Value}
    (h : SameOption (some l.toValue) y?) : y? = some l.toValue := by
  cases h with
  | some h => rw [Literal.same_iff_eq.mp h]

theorem SameOption.getD_null {x? y? : Option Value} (h : SameOption x? y?) :
    (x?.getD .null).same (y?.getD .null) = true := by
  cases h with
  | none => rfl
  | some h => exact h

/-! ## Schemas -/

/-- The same declaration, whatever the text of its condition. -/
structure Variable.Agrees (v w : Variable) : Prop where
  subject : v.subject = w.subject
  name : v.name = w.name
  kind : v.kind = w.kind
  default : SameOption v.default? w.default?
  description : v.description = w.description
  condition : v.condition = w.condition
  applications : v.applications = w.applications

/-- The same declarations in the same order under the same name. -/
structure Subject.Agrees (t u : Subject) : Prop where
  name : t.name = u.name
  vars : List.Forall₂ Variable.Agrees t.vars u.vars

/-- The same subjects in the same order. -/
def Schema.Agrees (s s' : Schema) : Prop := List.Forall₂ Subject.Agrees s.subjects s'.subjects

variable {s s' : Schema} {t u : Subject} {v w : Variable} {env : Environment}

theorem Variable.Agrees.symm (h : v.Agrees w) : w.Agrees v :=
  ⟨h.subject.symm, h.name.symm, h.kind.symm, h.default.symm, h.description.symm,
    h.condition.symm, h.applications.symm⟩

theorem Subject.Agrees.symm (h : t.Agrees u) : u.Agrees t :=
  ⟨h.name.symm, h.vars.flip.imp fun _ _ => Variable.Agrees.symm⟩

theorem Schema.Agrees.symm (h : s.Agrees s') : s'.Agrees s :=
  List.Forall₂.imp (fun _ _ => Subject.Agrees.symm) (List.Forall₂.flip h)

theorem Variable.Agrees.requirement (h : v.Agrees w) : v.requirement = w.requirement := by
  rw [Variable.requirement, Variable.requirement, h.default.isSome_eq, h.condition, h.kind]

/-- **Schemas that agree have the same scopes.** -/
theorem Schema.Agrees.scopes (h : s.Agrees s') : s.scopes = s'.scopes := by
  have hneeds : needs s.subjects = needs s'.subjects :=
    flatMap_eq_of_forall₂ h fun t _ u _ htu =>
      flatMap_eq_of_forall₂ htu.vars fun v _ w _ hvw => by rw [hvw.applications, htu.name]
  rw [Schema.scopes, scopesOf_eq, hneeds, ← scopesOf_eq, Schema.scopes]

/-! ## What is known of variables -/

theorem Variable.Agrees.known? (h : v.Agrees w) (env : Environment) :
    SameOption (v.known? env) (w.known? env) := by
  cases hset : env v.name with
  | some raw =>
    rw [known?_of_set hset, known?_of_set (h.name ▸ hset), ← h.kind]
    cases hread : v.kind.read? raw with
    | none => exact .none
    | some x => exact .some (Base.admits_of_read? hread).same_self
  | none =>
    rw [known?_of_unset hset, known?_of_unset (h.name ▸ hset)]
    exact h.default

theorem Variable.Agrees.valueIn (h : v.Agrees w) (env : Environment) :
    (v.valueIn env).same (w.valueIn env) = true :=
  (h.known? env).getD_null

/-- The same is wrong with variables that agree. -/
theorem Subject.Agrees.offends (h : t.Agrees u) (hv : v.Agrees w) {p : Problem}
    (ho : Offends t env v p) : Offends u env w p := by
  have hdefault (hd : v.default? = none) : w.default? = none := (hd ▸ hv.default).eq_none
  cases ho with
  | mismatch set unread => exact hv.kind ▸ .mismatch (hv.name ▸ set) (hv.kind ▸ unread)
  | missing unset noDefault always required =>
    exact .missing (hv.name ▸ unset) (hdefault noDefault) (hv.condition ▸ always)
      (hv.kind ▸ required)
  | @missingWhen c sibling unset noDefault condition mem name holds =>
    obtain ⟨sibling', mem', hagree⟩ := exists_right_of_forall₂ h.vars mem
    have holds' : sibling'.known? env = some c.expected.toValue :=
      (holds ▸ hagree.known? env).eq_literal
    exact .missingWhen (hv.name ▸ unset) (hdefault noDefault) (hv.condition ▸ condition) mem'
      (hagree.name ▸ name) holds'

/-! ## Evaluations -/

/-- **An environment violates the same variables of subjects that agree.** -/
theorem Subject.Agrees.violations (h : t.Agrees u) (ht : t.Coherent) (hu : u.Coherent)
    (env : Environment) : t.violations env = u.violations env := by
  rw [Subject.violations, Subject.violations]
  refine filterMap_eq_of_forall₂ h.vars fun v w hvw => ?_
  have hproblem : t.problem? env v = u.problem? env w :=
    problem?_congr ht hu fun _ => ⟨h.offends hvw, h.symm.offends hvw.symm⟩
  rw [hproblem, hvw.subject, hvw.name]

/-- The subjects of a target agree. -/
theorem Schema.Agrees.selects (h : s.Agrees s') {target : Target} {subjects : List Subject}
    (hselects : target.Selects s subjects) :
    ∃ subjects', target.Selects s' subjects' ∧ Schema.Agrees ⟨subjects⟩ ⟨subjects'⟩ :=
  hselects.of_forall₂ (fun _ _ htu => htu.name)
    (fun _ _ htu => any_usedBy_of_forall₂ (fun _ _ hvw => hvw.applications) htu.vars) h

/-- The values of one subject, in the same order under the same names. -/
structure ResolvedSubject.Agrees (r r' : ResolvedSubject) : Prop where
  name : r.name = r'.name
  values : List.Forall₂ (fun p q => p.1 = q.1 ∧ p.2.same q.2 = true) r.values r'.values

/-- Two evaluations with the same result: the same values in the same order, or the same error. -/
inductive SameResult :
    Except EvaluationError Resolved → Except EvaluationError Resolved → Prop where
  | ok {r r' : Resolved} (subjects : List.Forall₂ ResolvedSubject.Agrees r.subjects r'.subjects) :
      SameResult (.ok r) (.ok r')
  | error (e : EvaluationError) : SameResult (.error e) (.error e)

theorem Schema.Agrees.valuesOf (h : s.Agrees s') (env : Environment) :
    List.Forall₂ ResolvedSubject.Agrees (DeclaredEnv.valuesOf s.subjects env).subjects
      (DeclaredEnv.valuesOf s'.subjects env).subjects := by
  refine List.forall₂_map_left_iff.mpr (List.forall₂_map_right_iff.mpr (h.imp fun t u htu => ?_))
  refine ⟨htu.name, List.forall₂_map_left_iff.mpr (List.forall₂_map_right_iff.mpr ?_)⟩
  exact htu.vars.imp fun v w hvw => ⟨hvw.name, hvw.valueIn env⟩

theorem Schema.Agrees.violationsOf (h : s.Agrees s') (hs : s.Coherent) (hs' : s'.Coherent)
    (env : Environment) :
    Schema.violationsOf s.subjects env = Schema.violationsOf s'.subjects env :=
  flatMap_eq_of_forall₂ h fun t ht u hu htu =>
    htu.violations (hs.subjects t ht) (hs'.subjects u hu) env

/-- **Schemas that agree evaluate every environment to the same result.** -/
theorem Schema.Agrees.evaluate (h : s.Agrees s') (hs : s.Coherent) (hs' : s'.Coherent)
    (target : Target) (env : Environment) :
    SameResult (s.evaluate target env) (s'.evaluate target env) := by
  refine evaluate_rel hs hs' (fun subjects hselects => ?_)
    (fun subjects' hselects' => (h.symm.selects hselects').imp fun _ => And.left) (.error _)
  obtain ⟨subjects', hselects', hpart⟩ := h.selects hselects
  have hviolations : Schema.violationsOf subjects env = Schema.violationsOf subjects' env :=
    hpart.violationsOf (hs.of_sublist hselects.sublist) (hs'.of_sublist hselects'.sublist) env
  refine ⟨subjects', hselects', ?_⟩
  rw [outcomeOf, outcomeOf, hviolations]
  split
  · exact .ok (hpart.valuesOf env)
  · exact .error _

end DeclaredEnv
