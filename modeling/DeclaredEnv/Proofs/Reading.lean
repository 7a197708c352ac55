import DeclaredEnv.Proofs.Agreement
import DeclaredEnv.Proofs.Reexport

/-!
# What an evaluation reads of an environment

* `KnownAlike` — the same is known of a variable in two environments.
* `ReadAlike` — a variable is unset in two environments, or set to the same text, or to texts that
  read as the same value.
* `Resolved.WrittenIn` — an environment that sets the values of a configuration, and nothing else of
  its variables.

Principal results: `offends_of_knownAlike` — what is wrong with a variable depends on what is known
of those of its subject.  `evaluate_of_readAlike` — so a text counts only by the value that it reads
as.  `evaluate_of_writtenIn` — and the values of a configuration, written out, give it again.
-/

namespace DeclaredEnv

variable {entries : List Entry} {s : Schema} {t : Subject} {v : Variable} {env env' : Environment}
  {subjects : List Subject} {target : Target} {r : Resolved}

/-- The same is known of a variable in two environments, doubles being compared as numbers.  A
variable of which nothing is known is set to the same text in both, or in neither. -/
structure KnownAlike (env env' : Environment) (v : Variable) : Prop where
  known : SameOption (v.known? env) (v.known? env')
  unknown : v.known? env = none → env' v.name = env v.name

/-- A variable is unset in two environments, or set to the same text, or to two texts that read as
values which `R` relates. -/
inductive ReadAlike (R : Value → Value → Prop) (env env' : Environment) (v : Variable) : Prop where
  | unset (unset : env v.name = none) (unset' : env' v.name = none) : ReadAlike R env env' v
  | text {raw : String} (set : env v.name = some raw) (set' : env' v.name = some raw) :
      ReadAlike R env env' v
  | value {raw raw' : String} {x x' : Value} (set : env v.name = some raw)
      (set' : env' v.name = some raw') (read : v.kind.read? raw = some x)
      (read' : v.kind.read? raw' = some x') (same : R x x') : ReadAlike R env env' v

instance {R : Value → Value → Prop} [DecidableRel R] : Decidable (ReadAlike R env env' v) :=
  decidable_of_iff ((env v.name = none ∧ env' v.name = none) ∨
      ∃ raw ∈ env v.name, ∃ raw' ∈ env' v.name, raw = raw' ∨
        ∃ x ∈ v.kind.read? raw, ∃ x' ∈ v.kind.read? raw', R x x') <| by
    constructor
    · rintro (⟨unset, unset'⟩ | ⟨raw, set, raw', set', rfl | ⟨x, read, x', read', same⟩⟩)
      · exact .unset unset unset'
      · exact .text set set'
      · exact .value set set' read read' same
    · rintro (⟨unset, unset'⟩ | ⟨set, set'⟩ | ⟨set, set', read, read', same⟩)
      · exact .inl ⟨unset, unset'⟩
      · exact .inr ⟨_, set, _, set', .inl rfl⟩
      · exact .inr ⟨_, set, _, set', .inr ⟨_, read, _, read', same⟩⟩

/-- An environment sets the variables with a value to the texts of their values, and leaves those
without one unset. -/
def Resolved.WrittenIn (r : Resolved) (env : Environment) : Prop :=
  ∀ u ∈ r.subjects, ∀ p ∈ u.values, env p.1 = if p.2 = .null then none else some p.2.text

instance : Decidable (r.WrittenIn env) :=
  inferInstanceAs (Decidable (∀ u ∈ r.subjects, ∀ p ∈ u.values,
    env p.1 = if p.2 = .null then none else some p.2.text))

/-! ## Environments in which the same is known -/

theorem SameOption.refl_known? (hv : v.Coherent t) (env : Environment) :
    SameOption (v.known? env) (v.known? env) := by
  cases hk : v.known? env with
  | none => exact .none
  | some x => exact .some (admits_of_known? hv hk).same_self

/-- If the very same is known in both environments, then the same is. -/
theorem KnownAlike.of_eq (hv : v.Coherent t) (known : v.known? env' = v.known? env)
    (unknown : v.known? env = none → env' v.name = env v.name) : KnownAlike env env' v :=
  ⟨known ▸ SameOption.refl_known? hv env, unknown⟩

theorem KnownAlike.symm (h : KnownAlike env env' v) : KnownAlike env' env v := by
  refine ⟨h.known.symm, fun hk => (h.unknown ?_).symm⟩
  have hsame := h.known.symm
  rw [hk] at hsame
  exact hsame.eq_none

/-- **What is wrong with a variable depends on what is known of the variables of its subject, and on
its own text only if nothing is known of it.** -/
theorem offends_of_knownAlike (h : ∀ w ∈ t.vars, KnownAlike env env' w) (hv : v ∈ t.vars)
    {p : Problem} (ho : Offends t env v p) : Offends t env' v p := by
  have hat := h v hv
  -- nothing is known of a variable with which something is wrong
  cases ho with
  | mismatch set unread =>
    have hk : v.known? env = none := by rw [known?_of_set set, unread]
    exact .mismatch ((hat.unknown hk).trans set) unread
  | missing unset noDefault always required =>
    have hk : v.known? env = none := by rw [known?_of_unset unset, noDefault]
    exact .missing ((hat.unknown hk).trans unset) noDefault always required
  | missingWhen unset noDefault condition sibling name holds =>
    have hk : v.known? env = none := by rw [known?_of_unset unset, noDefault]
    have hsame := (h _ sibling).known
    rw [holds] at hsame
    exact .missingWhen ((hat.unknown hk).trans unset) noDefault condition sibling name
      hsame.eq_literal

theorem violationsOf_of_knownAlike (hs : ∀ t ∈ subjects, t.Coherent)
    (h : ∀ t ∈ subjects, ∀ v ∈ t.vars, KnownAlike env env' v) :
    Schema.violationsOf subjects env = Schema.violationsOf subjects env' :=
  List.flatMap_congr fun t ht => (hs t ht).violations_congr fun _ hv _ =>
    ⟨offends_of_knownAlike (h t ht) hv,
      offends_of_knownAlike (fun w hw => (h t ht w hw).symm) hv⟩

/-- Evaluations are the same where the very same is known. -/
theorem outcomeOf_of_known?_eq (hs : ∀ t ∈ subjects, t.Coherent)
    (known : ∀ t ∈ subjects, ∀ v ∈ t.vars, v.known? env' = v.known? env)
    (unknown : ∀ t ∈ subjects, ∀ v ∈ t.vars, v.known? env = none → env' v.name = env v.name) :
    outcomeOf subjects env' = outcomeOf subjects env := by
  have hviolations : Schema.violationsOf subjects env = Schema.violationsOf subjects env' :=
    violationsOf_of_knownAlike hs fun t ht v hv =>
      .of_eq ((hs t ht).vars v hv) (known t ht v hv) (unknown t ht v hv)
  have hvalues : valuesOf subjects env' = valuesOf subjects env := by
    rw [valuesOf, valuesOf, Resolved.mk.injEq]
    refine List.map_congr_left fun t ht => ?_
    rw [ResolvedSubject.mk.injEq]
    refine ⟨rfl, List.map_congr_left fun v hv => ?_⟩
    rw [Variable.valueIn, Variable.valueIn, known t ht v hv]
  rw [outcomeOf, outcomeOf, hviolations, hvalues]

/-- Evaluations have the same result where the same is known. -/
theorem outcomeOf_of_knownAlike (hs : ∀ t ∈ subjects, t.Coherent)
    (h : ∀ t ∈ subjects, ∀ v ∈ t.vars, KnownAlike env env' v) :
    SameResult (outcomeOf subjects env) (outcomeOf subjects env') := by
  rw [outcomeOf, outcomeOf, violationsOf_of_knownAlike hs h]
  split
  · refine .ok (List.forall₂_map_left_iff.mpr (List.forall₂_map_right_iff.mpr ?_))
    refine List.forall₂_same.mpr fun t ht => ⟨rfl, ?_⟩
    refine List.forall₂_map_left_iff.mpr (List.forall₂_map_right_iff.mpr ?_)
    exact List.forall₂_same.mpr fun v hv => ⟨rfl, (h t ht v hv).known.getD_null⟩
  · exact .error _

/-! ## Texts that read alike -/

theorem ReadAlike.known?_eq (h : ReadAlike (· = ·) env env' v) :
    v.known? env' = v.known? env := by
  cases h with
  | unset unset unset' => rw [known?_of_unset unset, known?_of_unset unset']
  | text set set' => rw [known?_of_set set, known?_of_set set']
  | value set set' read read' same =>
    rw [known?_of_set set, known?_of_set set', read, read', same]

theorem ReadAlike.unknown {R : Value → Value → Prop} (h : ReadAlike R env env' v)
    (hk : v.known? env = none) : env' v.name = env v.name := by
  cases h with
  | unset unset unset' => rw [unset, unset']
  | text set set' => rw [set, set']
  | value set _ read =>
    rw [known?_of_set set, read] at hk
    cases hk

theorem ReadAlike.knownAlike (hv : v.Coherent t)
    (h : ReadAlike (fun x y => x.same y = true) env env' v) : KnownAlike env env' v := by
  refine ⟨?_, h.unknown⟩
  cases h with
  | unset unset unset' =>
    rw [known?_of_unset unset', ← known?_of_unset unset]
    exact SameOption.refl_known? hv env
  | text set set' =>
    rw [known?_of_set set', ← known?_of_set set]
    exact SameOption.refl_known? hv env
  | value set set' read read' same =>
    rw [known?_of_set set, known?_of_set set', read, read']
    exact .some same

/-- **Texts that read as the same values are evaluated to the same result, and so with values that
are the same as numbers.** -/
theorem evaluate_of_readAlike (hb : Schema.build entries = .ok s)
    (hselects : target.Selects s subjects) (env env' : Environment) :
    ((∀ t ∈ subjects, ∀ v ∈ t.vars, ReadAlike (· = ·) env env' v) →
        s.evaluate target env = s.evaluate target env') ∧
      ((∀ t ∈ subjects, ∀ v ∈ t.vars, ReadAlike (fun x y => x.same y = true) env env' v) →
        SameResult (s.evaluate target env) (s.evaluate target env')) := by
  have hs := coherent_of_build hb
  have hpart := hselects.coherent hs
  rw [evaluate_eq hs hselects, evaluate_eq hs hselects]
  refine ⟨fun h => ?_, fun h => ?_⟩
  · exact (outcomeOf_of_known?_eq hpart (fun t ht v hv => (h t ht v hv).known?_eq)
      fun t ht v hv => (h t ht v hv).unknown).symm
  · exact outcomeOf_of_knownAlike hpart fun t ht v hv =>
      (h t ht v hv).knownAlike ((hpart t ht).vars v hv)

theorem evaluate_of_readAlike_shared :
    Schema.build sharedEntries = .ok (schemaOf sharedEntries) ∧
      (schemaOf sharedEntries).evaluate (.application "api")
          (.ofPairs [("CACHED", "yes"), ("RATIO", " 5e-1")]) =
        (schemaOf sharedEntries).evaluate (.application "api")
          (.ofPairs [("RATIO", "0.50"), ("OTHER", ""), ("CACHED", " TRUE ")]) ∧
      SameResult
        ((schemaOf sharedEntries).evaluate (.application "api")
          (.ofPairs [("CACHED", "off"), ("RATIO", "-0")]))
        ((schemaOf sharedEntries).evaluate (.application "api")
          (.ofPairs [("CACHED", "0"), ("RATIO", "+0.0")])) := by
  have hb : Schema.build sharedEntries = .ok (schemaOf sharedEntries) := by decide +kernel
  have hselects : Target.Selects (schemaOf sharedEntries) (.application "api") _ :=
    .application (by decide +kernel)
  exact ⟨hb, (evaluate_of_readAlike hb hselects _ _).1 (by decide +kernel),
    (evaluate_of_readAlike hb hselects _ _).2 (by decide +kernel)⟩

example : (schemaOf sharedEntries).evaluate (.application "api")
      (.ofPairs [("CACHED", "yes"), ("RATIO", " 5e-1")]) =
    .error (.invalid [⟨"store", "LIMIT", .missingWhen ⟨"CACHED", .bool true⟩⟩]) := by
  decide +kernel

/-! ## Configurations written out -/

/-- What is known of a variable without a problem is known again of its value as it is written. -/
theorem known?_of_written (hv : v.Coherent t) (h : ∀ p, ¬Offends t env v p)
    (hw : env' v.name = if v.valueIn env = .null then none else some (v.valueIn env).text) :
    v.known? env' = v.known? env ∧ (v.known? env = none → env' v.name = env v.name) := by
  cases hk : v.known? env with
  | none =>
    obtain ⟨unset, noDefault⟩ := unset_of_known?_eq_none h hk
    have hnull : v.valueIn env = .null := by rw [Variable.valueIn, hk, Option.getD_none]
    rw [if_pos hnull] at hw
    refine ⟨?_, fun _ => hw.trans unset.symm⟩
    rw [known?_of_unset hw, noDefault]
  | some x =>
    obtain ⟨raw, hread⟩ := exists_read?_of_known? hv hk
    have hne : x ≠ .null := (admits_of_known? hv hk).ne_null
    rw [valueIn_of_known? hk, if_neg hne] at hw
    refine ⟨?_, fun hnone => ?_⟩
    · rw [known?_of_set hw]
      exact Base.read?_text_of_read? hread
    · cases hnone

/-- **The values that an evaluation gives, written out, are given again.** -/
theorem evaluate_of_writtenIn (hb : Schema.build entries = .ok s)
    (h : s.evaluate target env = .ok r) (hw : r.WrittenIn env') :
    s.evaluate target env' = .ok r := by
  have hs := coherent_of_build hb
  obtain ⟨subjects, hselects⟩ := selects_of_evaluate_eq_ok hs h
  have hpart := hselects.coherent hs
  rw [evaluate_eq hs hselects] at h
  split at h
  · rename_i hnil
    cases h
    have hknown : ∀ t ∈ subjects, ∀ v ∈ t.vars,
        v.known? env' = v.known? env ∧ (v.known? env = none → env' v.name = env v.name) := by
      intro t ht v hv
      refine known?_of_written ((hpart t ht).vars v hv)
        ((violationsOf_eq_nil_iff_not_offends hpart).mp hnil t ht v hv) ?_
      exact hw _ (List.mem_map_of_mem ht) _ (List.mem_map_of_mem hv)
    have houtcome : outcomeOf subjects env' = outcomeOf subjects env :=
      outcomeOf_of_known?_eq hpart (fun t ht v hv => (hknown t ht v hv).1)
        fun t ht v hv => (hknown t ht v hv).2
    rw [evaluate_eq hs hselects]
    exact houtcome.trans (if_pos hnil)
  · cases h

theorem evaluate_of_writtenIn_shared :
    Schema.build sharedEntries = .ok (schemaOf sharedEntries) ∧
      ∃ r, (schemaOf sharedEntries).evaluate (.subject "store") (.ofPairs [("CACHED", " No ")]) =
          .ok r ∧
        r.WrittenIn (.ofPairs [("CACHED", "false"), ("OTHER", "1"), ("RATIO", "0.25")]) ∧
        (schemaOf sharedEntries).evaluate (.subject "store")
          (.ofPairs [("CACHED", "false"), ("OTHER", "1"), ("RATIO", "0.25")]) = .ok r := by
  have hb : Schema.build sharedEntries = .ok (schemaOf sharedEntries) := by decide +kernel
  obtain ⟨r, he, hw⟩ : ∃ r, (schemaOf sharedEntries).evaluate (.subject "store")
      (.ofPairs [("CACHED", " No ")]) = .ok r ∧
        r.WrittenIn (.ofPairs [("CACHED", "false"), ("OTHER", "1"), ("RATIO", "0.25")]) :=
    ⟨⟨[⟨"store", [("CACHED", .bool false), ("LIMIT", .null),
      ("RATIO", .float (.finite false 4598175219545276416 (by decide)))]⟩]⟩, by decide +kernel⟩
  exact ⟨hb, r, he, hw, evaluate_of_writtenIn hb he hw⟩

end DeclaredEnv
