import DeclaredEnv.Proofs.Evaluation
import Mathlib.Data.List.Perm.Basic

/-!
# Entries in another order

* `Schema.Rearranges` — two schemas that differ only in the order of their subjects and of the
  variables of these.
* `SameVerdict`, `Schema.SameButOrder` — what such schemas have in common for whoever uses them.

Principal results: `WellFormed.perm`, `schemaOf_perm` — the order of the entries decides only the
order of what is built from them.  `Schema.Rearranges.evaluate` — and only the order of what an
evaluation reports.  `build_perm` — so no order of the entries makes a difference to a user.
-/

namespace DeclaredEnv

open Relation

/-! ## Entries -/

section Entries

variable {entries entries' : List Entry} {subject : String} {e : Entry}

theorem subjectNames_perm (h : entries.Perm entries') :
    (subjectNames entries).Perm (subjectNames entries') :=
  (List.perm_ext_iff_of_nodup (nodup_subjectNames entries) (nodup_subjectNames entries')).mpr
    fun s => by simp only [mem_subjectNames, h.mem_iff]

theorem nodup_map_key_perm (h : entries.Perm entries') (hd : (entries.map Entry.key).Nodup) :
    (entries'.map Entry.key).Nodup :=
  (h.map Entry.key).nodup_iff.mp hd

/-- Entries of which none repeats another are all first declarations, in whatever order. -/
theorem declarationsOf_perm (h : entries.Perm entries') (hd : (entries.map Entry.key).Nodup)
    (subject : String) :
    (declarationsOf entries subject).Perm (declarationsOf entries' subject) := by
  rw [declarationsOf_of_nodup hd, declarationsOf_of_nodup (nodup_map_key_perm h hd)]
  exact h.filter _

theorem Entry.ConditionIs.perm (h : entries.Perm entries') (hd : (entries.map Entry.key).Nodup)
    {c : Condition} (hc : e.ConditionIs entries c) : e.ConditionIs entries' c := by
  obtain ⟨written, spells, declared, name, type, compares⟩ := hc
  exact .mk written spells ((declarationsOf_perm h hd _).subset declared) name type compares

theorem conditionIs_perm_iff (h : entries.Perm entries') (hd : (entries.map Entry.key).Nodup)
    {c : Condition} : e.ConditionIs entries c ↔ e.ConditionIs entries' c :=
  ⟨.perm h hd, .perm h.symm (nodup_map_key_perm h hd)⟩

theorem refers_perm (h : entries.Perm entries') :
    Refers entries subject = Refers entries' subject := by
  funext a b
  simp only [Refers, h.mem_iff]

/-- **Nothing is wrong with entries in another order if nothing is wrong with them in one.** -/
theorem WellFormed.perm (h : entries.Perm entries') (hw : WellFormed entries) :
    WellFormed entries' := by
  refine ⟨nodup_map_key_perm h hw.distinct, fun e he => hw.typed e (h.mem_iff.mpr he), ?_, ?_⟩
  · intro e he hsome
    obtain ⟨c, hc⟩ := hw.conditioned e (h.mem_iff.mpr he) hsome
    exact ⟨c, hc.perm h hw.distinct⟩
  · intro subject a
    rw [← refers_perm h]
    exact hw.acyclic subject a

theorem typed?_perm (h : entries.Perm entries') (hd : (entries.map Entry.key).Nodup) (e : Entry) :
    (groupOf entries e.subject).typed? (groupsOf entries) e =
      (groupOf entries' e.subject).typed? (groupsOf entries') e := by
  apply Option.ext
  intro v
  simp only [typed?_eq_some_iff, conditionIs_perm_iff h hd]

theorem varsOf_perm (h : entries.Perm entries') (hd : (entries.map Entry.key).Nodup)
    (subject : String) : (varsOf entries subject).Perm (varsOf entries' subject) := by
  have htyped : varsOf entries subject = (declarationsOf entries subject).filterMap
      ((groupOf entries' subject).typed? (groupsOf entries')) := by
    apply List.filterMap_congr
    intro e he
    obtain rfl := (mem_declarationsOf.mp he).2
    exact typed?_perm h hd e
  rw [htyped]
  exact (declarationsOf_perm h hd subject).filterMap _

end Entries

/-! ## Schemas -/

/-- The same variables under the same name, perhaps in another order. -/
structure Subject.Rearranges (t u : Subject) : Prop where
  name : t.name = u.name
  vars : t.vars.Perm u.vars

/-- The same subjects, perhaps in another order and with their variables in another order. -/
def Schema.Rearranges (s s' : Schema) : Prop :=
  ∃ subjects, List.Forall₂ Subject.Rearranges s.subjects subjects ∧ subjects.Perm s'.subjects

/-- **The order of the entries decides only the order of what is built from them.** -/
theorem schemaOf_perm {entries entries' : List Entry} (h : entries.Perm entries')
    (hd : (entries.map Entry.key).Nodup) : (schemaOf entries).Rearranges (schemaOf entries') := by
  refine ⟨(subjectNames entries).map fun s => ⟨s, varsOf entries' s⟩, ?_,
    (subjectNames_perm h).map _⟩
  rw [schemaOf, List.forall₂_map_left_iff, List.forall₂_map_right_iff, List.forall₂_same]
  exact fun s _ => ⟨rfl, varsOf_perm h hd s⟩

section Rearranged

variable {s s' : Schema} {t u : Subject} {v : Variable} {env : Environment}

theorem Subject.Rearranges.symm (h : t.Rearranges u) : u.Rearranges t := ⟨h.name.symm, h.vars.symm⟩

theorem Schema.Rearranges.symm (h : s.Rearranges s') : s'.Rearranges s := by
  obtain ⟨subjects, hforall, hperm⟩ := h
  exact List.perm_comp_forall₂ hperm.symm (hforall.flip.imp fun _ _ => Subject.Rearranges.symm)

theorem Schema.Rearranges.exists_mem (h : s.Rearranges s') (ht : t ∈ s.subjects) :
    ∃ u ∈ s'.subjects, t.Rearranges u := by
  obtain ⟨subjects, hforall, hperm⟩ := h
  obtain ⟨u, hu, htu⟩ := exists_right_of_forall₂ hforall ht
  exact ⟨u, hperm.subset hu, htu⟩

/-- What some variable of some subject is like does not depend on the order. -/
theorem Schema.Rearranges.exists_variable (h : s.Rearranges s') {p : String → Variable → Prop}
    (hex : ∃ t ∈ s.subjects, ∃ v ∈ t.vars, p t.name v) :
    ∃ t ∈ s'.subjects, ∃ v ∈ t.vars, p t.name v := by
  obtain ⟨t, ht, v, hv, hp⟩ := hex
  obtain ⟨u, hu, htu⟩ := h.exists_mem ht
  exact ⟨u, hu, v, htu.vars.subset hv, htu.name ▸ hp⟩

/-! ## Look-ups -/

theorem Schema.Rearranges.lookup? (h : s.Rearranges s') (hs : s.Coherent) (hs' : s'.Coherent)
    (subject name : String) : s.lookup? subject name = s'.lookup? subject name := by
  apply Option.ext
  intro v
  rw [hs.lookup?_eq_some_iff, hs'.lookup?_eq_some_iff]
  exact ⟨h.exists_variable (p := fun t w => t = subject ∧ w.name = name ∧ w = v),
    h.symm.exists_variable (p := fun t w => t = subject ∧ w.name = name ∧ w = v)⟩

theorem Schema.Rearranges.scopeOf? (h : s.Rearranges s') (hs : s.Coherent) (hs' : s'.Coherent)
    (application : String) : (DeclaredEnv.scopeOf? s.scopes application).isSome =
      (DeclaredEnv.scopeOf? s'.scopes application).isSome := by
  have hknown : (∃ t ∈ s.subjects, ∃ v ∈ t.vars, v.usedBy application = true) ↔
      ∃ t ∈ s'.subjects, ∃ v ∈ t.vars, v.usedBy application = true :=
    ⟨h.exists_variable (p := fun _ v => v.usedBy application = true),
      h.symm.exists_variable (p := fun _ v => v.usedBy application = true)⟩
  rw [hs.scopeOf?_scopes, hs'.scopeOf?_scopes]
  simp only [hknown]
  split <;> rfl

theorem Subject.Rearranges.find? (h : t.Rearranges u) (ht : (t.vars.map (·.name)).Nodup)
    (name : String) : t.find? name = u.find? name := by
  have hu : (u.vars.map (·.name)).Nodup := (h.vars.map _).nodup_iff.mp ht
  apply Option.ext
  intro v
  rw [Subject.find?, Subject.find?, find?_key_eq_some_iff ht, find?_key_eq_some_iff hu,
    h.vars.mem_iff]

/-! ## Evaluations -/

theorem Subject.Rearranges.violations (h : t.Rearranges u) (ht : (t.vars.map (·.name)).Nodup)
    (env : Environment) : (t.violations env).Perm (u.violations env) := by
  have hproblem : t.problem? env = u.problem? env := by
    funext v
    simp only [Subject.problem?, Subject.slot?, h.find? ht]
  rw [Subject.violations, hproblem]
  exact h.vars.filterMap _

theorem Schema.Rearranges.violationsOf (h : s.Rearranges s') (hs : s.Coherent)
    (env : Environment) :
    (Schema.violationsOf s.subjects env).Perm (Schema.violationsOf s'.subjects env) := by
  obtain ⟨subjects, hforall, hperm⟩ := h
  have hsubjects : (Schema.violationsOf s.subjects env).Perm (Schema.violationsOf subjects env) :=
    perm_flatMap_of_forall₂ hforall fun t ht u htu =>
      htu.violations (hs.subjects t ht).names env
  exact hsubjects.trans (hperm.flatMap_right _)

/-- The subjects of a target are the same but for their order. -/
theorem Schema.Rearranges.selects (h : s.Rearranges s') {target : Target} {subjects : List Subject}
    (hselects : target.Selects s subjects) :
    ∃ subjects', target.Selects s' subjects' ∧ Schema.Rearranges ⟨subjects⟩ ⟨subjects'⟩ := by
  cases hselects with
  | @subject t known =>
    obtain ⟨u, hu, htu⟩ := h.exists_mem known
    refine ⟨[u], htu.name ▸ .subject hu, [u], ?_, .refl [u]⟩
    exact .cons htu .nil
  | @application name known =>
    refine ⟨_, .application (h.exists_variable (p := fun _ v => v.usedBy name = true) known), ?_⟩
    obtain ⟨subjects, hforall, hperm⟩ := h
    refine ⟨subjects.filter fun t => t.vars.any (·.usedBy name), ?_, hperm.filter _⟩
    refine List.rel_filter (fun t u htu => ?_) hforall
    simp only [htu.vars.any_eq]

/-- Two evaluations with the same verdict: the same values under the same names, the same
violations but for their order, or the same target unknown. -/
inductive SameVerdict :
    Except EvaluationError Resolved → Except EvaluationError Resolved → Prop where
  | ok {r r' : Resolved} (values : ∀ subject name, r.get? subject name = r'.get? subject name) :
      SameVerdict (.ok r) (.ok r')
  | invalid {l l' : List Violation} (violations : l.Perm l') :
      SameVerdict (.error (.invalid l)) (.error (.invalid l'))
  | unknownApplication (name : String) :
      SameVerdict (.error (.unknownApplication name)) (.error (.unknownApplication name))
  | unknownSubject (name : String) :
      SameVerdict (.error (.unknownSubject name)) (.error (.unknownSubject name))

/-- **Schemas that differ only in order evaluate to the same verdict.** -/
theorem Schema.Rearranges.evaluate (h : s.Rearranges s') (hs : s.Coherent) (hs' : s'.Coherent)
    (target : Target) (env : Environment) :
    SameVerdict (s.evaluate target env) (s'.evaluate target env) := by
  refine evaluate_rel hs hs' (fun subjects hselects => ?_)
    (fun subjects' hselects' => (h.symm.selects hselects').imp fun _ => And.left) ?_
  · obtain ⟨subjects', hselects', hpart⟩ := h.selects hselects
    have hcoherent := hs.of_sublist hselects.sublist
    have hcoherent' := hs'.of_sublist hselects'.sublist
    have hviolations :
        (Schema.violationsOf subjects env).Perm (Schema.violationsOf subjects' env) :=
      hpart.violationsOf hcoherent env
    have hnil : Schema.violationsOf subjects env = [] ↔ Schema.violationsOf subjects' env = [] := by
      rw [← List.isEmpty_iff, hviolations.isEmpty_eq, List.isEmpty_iff]
    refine ⟨subjects', hselects', ?_⟩
    simp only [outcomeOf, hnil]
    split
    · refine .ok fun subject name => ?_
      rw [get?_valuesOf_eq, get?_valuesOf_eq, hpart.lookup? hcoherent hcoherent']
    · exact .invalid hviolations
  · cases target with
    | application name => exact .unknownApplication name
    | subject name => exact .unknownSubject name

/-- What two schemas have in common that differ only in order: every variable, the applications
that are known, and the verdict of every evaluation. -/
structure Schema.SameButOrder (s s' : Schema) : Prop where
  declared : ∀ subject name, s.lookup? subject name = s'.lookup? subject name
  known : ∀ application,
    (DeclaredEnv.scopeOf? s.scopes application).isSome =
      (DeclaredEnv.scopeOf? s'.scopes application).isSome
  verdict : ∀ target env, SameVerdict (s.evaluate target env) (s'.evaluate target env)

theorem Schema.Rearranges.sameButOrder (h : s.Rearranges s') (hs : s.Coherent)
    (hs' : s'.Coherent) : s.SameButOrder s' :=
  ⟨h.lookup? hs hs', h.scopeOf? hs hs', h.evaluate hs hs'⟩

end Rearranged

/-! ## Builds -/

variable {entries entries' : List Entry}

theorem exists_build_perm (h : entries.Perm entries') (hb : ∃ s, Schema.build entries = .ok s) :
    ∃ s, Schema.build entries' = .ok s := by
  obtain ⟨s, hs⟩ := hb
  exact ⟨schemaOf entries', build_of_wellFormed ((wellFormed_of_build hs).perm h)⟩

/-- **Entries build in one order exactly if they build in another, and nothing but the order of what
they give depends on it.** -/
theorem build_perm (h : entries.Perm entries') :
    ((∃ s, Schema.build entries = .ok s) ↔ ∃ s, Schema.build entries' = .ok s) ∧
      ∀ s s', Schema.build entries = .ok s → Schema.build entries' = .ok s' →
        s.SameButOrder s' := by
  refine ⟨⟨exists_build_perm h, exists_build_perm h.symm⟩, fun s s' hs hs' => ?_⟩
  have hrearranges : s.Rearranges s' := by
    rw [eq_schemaOf_of_build hs, eq_schemaOf_of_build hs']
    exact schemaOf_perm h (wellFormed_of_build hs).distinct
  exact hrearranges.sameButOrder (coherent_of_build hs) (coherent_of_build hs')

theorem build_perm_interleaved : interleavedEntries.Perm interleavedEntries.reverse ∧
    Schema.build interleavedEntries = .ok (schemaOf interleavedEntries) ∧
    Schema.build interleavedEntries.reverse = .ok (schemaOf interleavedEntries.reverse) ∧
    (schemaOf interleavedEntries).SameButOrder (schemaOf interleavedEntries.reverse) := by
  have hperm : interleavedEntries.Perm interleavedEntries.reverse := (List.reverse_perm _).symm
  have hb : Schema.build interleavedEntries = .ok (schemaOf interleavedEntries) := by rfl
  have hb' : Schema.build interleavedEntries.reverse =
      .ok (schemaOf interleavedEntries.reverse) := by rfl
  exact ⟨hperm, hb, hb', (build_perm hperm).2 _ _ hb hb'⟩

end DeclaredEnv
