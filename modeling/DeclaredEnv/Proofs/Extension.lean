import DeclaredEnv.Proofs.Application
import DeclaredEnv.Proofs.ConditionEffect
import DeclaredEnv.Proofs.Resolved

/-!
# Environments in which more is set

* `Extends` — an environment keeps every text of another one.
* `Environment.supplement` — an environment with the texts of further names.
* `mismatchesOf` — the texts of an evaluation that do not fit their kinds.

Principal results: `Offends.of_extends` — a text that does not fit stays wrong whatever else is set.
`violationsOf_supplement` — what is missing can be supplied, and one text fits every kind.
`evaluate_of_extends` — so an environment can be completed unless one of its texts does not fit, and
then it never can.
-/

namespace DeclaredEnv

variable {entries : List Entry} {s : Schema} {t : Subject} {v : Variable} {env env' : Environment}
  {subjects : List Subject}

/-- The second environment sets every name that the first one sets, to the same text. -/
def Extends (env env' : Environment) : Prop := ∀ name raw, env name = some raw → env' name = some raw

/-- The environment with the texts of further names; a name that it sets keeps its text. -/
def Environment.supplement (env : Environment) (pairs : List (String × String)) : Environment :=
  fun name => (env name).or (ofPairs pairs name)

/-- The violations of an evaluation that say of a text that it does not fit, in order. -/
def mismatchesOf (outcome : Except EvaluationError Resolved) : List Violation :=
  (reportedBy outcome).filter (·.problem.isMismatch)

/-- A text for each variable of the subjects. -/
def textsFor (subjects : List Subject) : List (String × String) :=
  (variablesOf subjects).map fun p => (p.2.name, "1")

/-! ## Supplying what is missing -/

/-- One text fits every kind. -/
theorem Kind.isSome_read?_one (k : Kind) : (k.read? "1").isSome = true := by
  unfold Kind.read?
  cases k.base <;> decide +kernel

theorem extends_supplement (env : Environment) (pairs : List (String × String)) :
    Extends env (env.supplement pairs) := by
  intro name raw set
  simp [Environment.supplement, set]

theorem supplement_unset (pairs : List (String × String)) :
    Environment.supplement (fun _ => none) pairs = .ofPairs pairs := by
  funext name
  simp [Environment.supplement]

/-- If all pairs have one text, then this is the text of each of their names. -/
theorem ofPairs_of_const {pairs : List (String × String)} {text name : String}
    (htext : ∀ p ∈ pairs, p.2 = text) (hname : name ∈ pairs.map (·.1)) :
    Environment.ofPairs pairs name = some text := by
  obtain ⟨p, hp, rfl⟩ := List.mem_map.mp hname
  unfold Environment.ofPairs
  cases hlookup : pairs.reverse.lookup p.1 with
  | none =>
    have hne := List.lookup_eq_none_iff.mp hlookup p (List.mem_reverse.mpr hp)
    simp at hne
  | some found =>
    obtain ⟨before, after, hsplit, _⟩ := List.lookup_eq_some_iff.mp hlookup
    have hmem : (p.1, found) ∈ pairs := by
      rw [← List.mem_reverse, hsplit]
      simp
    rw [← htext _ hmem]

/-- A supplemented environment sets every variable, to its own text or to the one that is added. -/
theorem supplement_textsFor (ht : t ∈ subjects) (hv : v ∈ t.vars) :
    env.supplement (textsFor subjects) v.name = some ((env v.name).getD "1") := by
  have hadded : Environment.ofPairs (textsFor subjects) v.name = some "1" := by
    refine ofPairs_of_const (fun p hp => ?_) ?_
    · obtain ⟨_, _, rfl⟩ := List.mem_map.mp hp
      rfl
    · rw [textsFor, List.map_map]
      exact List.mem_map.mpr ⟨(t, v), mem_variablesOf.mpr ⟨ht, hv⟩, rfl⟩
  rw [Environment.supplement, hadded]
  cases env v.name <;> rfl

/-- Nothing is wrong with a variable whose text fits. -/
theorem not_offends_of_fits {raw : String} (set : env v.name = some raw)
    (fits : (v.kind.read? raw).isSome = true) (p : Problem) : ¬Offends t env v p := by
  rintro (⟨set', unread⟩ | ⟨unset⟩ | ⟨unset⟩)
  · rw [set, Option.some.injEq] at set'
    simp [set', unread] at fits
  · simp [set] at unset
  · simp [set] at unset

theorem mismatches_eq_nil_iff (hs : ∀ t ∈ subjects, t.Coherent) :
    (Schema.violationsOf subjects env).filter (·.problem.isMismatch) = [] ↔
      ∀ t ∈ subjects, ∀ v ∈ t.vars, ∀ raw, env v.name = some raw →
        (v.kind.read? raw).isSome = true := by
  simp only [List.filter_eq_nil_iff, mem_violationsOf_iff hs]
  constructor
  · intro h t ht v hv raw set
    rw [Option.isSome_iff_ne_none]
    intro unread
    exact h _ ⟨t, ht, v, hv, _, .mismatch set unread, rfl⟩ rfl
  · rintro h _ ⟨t, ht, v, hv, p, ho, rfl⟩ hp
    cases ho with
    | mismatch set unread =>
      have fits := h t ht v hv _ set
      rw [unread] at fits
      cases fits
    | missing => cases hp
    | missingWhen => cases hp

/-- **Whatever is missing can be supplied, if every text that is set fits.** -/
theorem violationsOf_supplement (hs : ∀ t ∈ subjects, t.Coherent)
    (h : (Schema.violationsOf subjects env).filter (·.problem.isMismatch) = []) :
    Schema.violationsOf subjects (env.supplement (textsFor subjects)) = [] := by
  rw [mismatches_eq_nil_iff hs] at h
  rw [violationsOf_eq_nil_iff_not_offends hs]
  intro t ht v hv p
  refine not_offends_of_fits (supplement_textsFor ht hv) ?_ p
  cases hset : env v.name with
  | none => exact v.kind.isSome_read?_one
  | some raw => exact h t ht v hv raw hset

/-! ## Texts that do not fit -/

/-- **A text that does not fit stays wrong whatever else is set.** -/
theorem Offends.of_extends (h : Extends env env') {p : Problem} (ho : Offends t env v p)
    (hp : p.isMismatch = true) : Offends t env' v p := by
  cases ho with
  | mismatch set unread => exact .mismatch (h _ _ set) unread
  | missing => cases hp
  | missingWhen => cases hp

theorem mismatches_sublist_of_extends (hs : ∀ t ∈ subjects, t.Coherent) (h : Extends env env') :
    ((Schema.violationsOf subjects env).filter (·.problem.isMismatch)).Sublist
      (Schema.violationsOf subjects env') := by
  rw [violationsOf_eq_filterMap hs, violationsOf_eq_filterMap hs, List.filter_filterMap]
  refine filterMap_sublist_filterMap fun p hp x hx => ?_
  have ht : p.1.Coherent := hs p.1 (mem_variablesOf.mp hp).1
  obtain ⟨hx, hmismatch⟩ := Option.filter_eq_some_iff.mp hx
  obtain ⟨problem, hproblem, rfl⟩ := Option.map_eq_some_iff.mp hx
  have ho := ((problem?_eq_some_iff ht).mp hproblem).of_extends h hmismatch
  rw [(problem?_eq_some_iff ht).mpr ho, Option.map_some]

/-! ## Evaluations -/

theorem exists_evaluate_supplement (hs : s.Coherent) {target : Target}
    (hselects : target.Selects s subjects) (h : mismatchesOf (s.evaluate target env) = []) :
    ∃ pairs r, s.evaluate target (env.supplement pairs) = .ok r := by
  rw [mismatchesOf, reportedBy_evaluate hs hselects] at h
  refine ⟨textsFor subjects, valuesOf subjects (env.supplement (textsFor subjects)), ?_⟩
  rw [evaluate_eq hs hselects]
  exact if_pos (violationsOf_supplement (hselects.coherent hs) h)

/-- The environment in which nothing is set has no text that does not fit. -/
theorem mismatchesOf_unset (hs : s.Coherent) {target : Target}
    (hselects : target.Selects s subjects) :
    mismatchesOf (s.evaluate target fun _ => none) = [] := by
  rw [mismatchesOf, reportedBy_evaluate hs hselects,
    mismatches_eq_nil_iff (hselects.coherent hs)]
  intro t _ v _ raw set
  cases set

/-- **An environment can be completed, unless one of its texts does not fit; then every environment
that extends it is invalid for the same texts.  So every application can be satisfied.** -/
theorem evaluate_of_extends (hb : Schema.build entries = .ok s) :
    (∀ target subjects, target.Selects s subjects → ∀ env,
      (mismatchesOf (s.evaluate target env) = [] → ∃ pairs,
        Extends env (env.supplement pairs) ∧
          ∃ r, s.evaluate target (env.supplement pairs) = .ok r) ∧
      (mismatchesOf (s.evaluate target env) ≠ [] → ∀ env', Extends env env' → ∃ violations,
        s.evaluate target env' = .error (.invalid violations) ∧
          (mismatchesOf (s.evaluate target env)).Sublist violations)) ∧
    ∀ application, (∃ e ∈ entries, application ∈ e.applications) →
      ∃ pairs r, s.evaluate (.application application) (.ofPairs pairs) = .ok r := by
  have hs := coherent_of_build hb
  refine ⟨fun target subjects hselects env => ⟨fun hnil => ?_, fun hne env' hext => ?_⟩,
    fun application hlisted => ?_⟩
  · obtain ⟨pairs, hok⟩ := exists_evaluate_supplement hs hselects hnil
    exact ⟨pairs, extends_supplement env pairs, hok⟩
  · have hpart := hselects.coherent hs
    rw [mismatchesOf, reportedBy_evaluate hs hselects] at hne ⊢
    have hsub := mismatches_sublist_of_extends hpart hext
    have hviolations : Schema.violationsOf subjects env' ≠ [] := fun hnil =>
      hne (List.sublist_nil.mp (hnil ▸ hsub))
    exact ⟨_, (evaluate_eq hs hselects).trans (if_neg hviolations), hsub⟩
  · have hne : subjectsOf entries application ≠ [] := by
      rw [ne_eq, subjectsOf_eq_nil_iff]
      obtain ⟨e, he, ha⟩ := hlisted
      exact fun h => h e he ha
    have hselects := Target.Selects.application
      ((exists_usedBy_iff_subjectsOf_ne_nil hb application).mpr hne)
    have hok := exists_evaluate_supplement hs hselects (mismatchesOf_unset hs hselects)
    simpa only [supplement_unset] using hok

theorem evaluate_of_extends_shared :
    Schema.build sharedEntries = .ok (schemaOf sharedEntries) ∧
      (∃ pairs, Extends (.ofPairs [("CACHED", "yes")])
          (Environment.supplement (.ofPairs [("CACHED", "yes")]) pairs) ∧
        ∃ r, (schemaOf sharedEntries).evaluate (.application "api")
          (Environment.supplement (.ofPairs [("CACHED", "yes")]) pairs) = .ok r) ∧
      (∃ violations, (schemaOf sharedEntries).evaluate (.application "api")
          (Environment.supplement (.ofPairs [("CACHED", "2")]) [("LIMIT", "9")]) =
            .error (.invalid violations) ∧
        [⟨"store", "CACHED", .mismatch ⟨.bool, false⟩ "2"⟩,
          ⟨"cache", "CACHED", .mismatch ⟨.bool, true⟩ "2"⟩].Sublist violations) ∧
      ∃ pairs r, (schemaOf sharedEntries).evaluate (.application "api") (.ofPairs pairs) = .ok r := by
  have hb : Schema.build sharedEntries = .ok (schemaOf sharedEntries) := by decide +kernel
  have hselects : Target.Selects (schemaOf sharedEntries) (.application "api") _ :=
    .application (by decide +kernel)
  have hlisted : ∃ e ∈ sharedEntries, "api" ∈ e.applications := by decide +kernel
  have hmismatches : mismatchesOf ((schemaOf sharedEntries).evaluate (.application "api")
      (.ofPairs [("CACHED", "2")])) =
        [⟨"store", "CACHED", .mismatch ⟨.bool, false⟩ "2"⟩,
          ⟨"cache", "CACHED", .mismatch ⟨.bool, true⟩ "2"⟩] := by decide +kernel
  obtain ⟨hevery, happlications⟩ := evaluate_of_extends hb
  refine ⟨hb, (hevery _ _ hselects _).1 (by decide +kernel), ?_, happlications "api" hlisted⟩
  rw [← hmismatches]
  exact (hevery _ _ hselects _).2 (by rw [hmismatches]; nofun) _ (extends_supplement _ _)

end DeclaredEnv
