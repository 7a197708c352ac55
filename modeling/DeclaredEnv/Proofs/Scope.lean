import DeclaredEnv.Proofs.Sequence
import DeclaredEnv.Scope

/-!
# Which subjects an application needs

* `needs` — the pairs of an application and a subject that the variables of a list of subjects name.
* `scopesFor` — the scopes of a list of such pairs: applications, and the subjects of each, where
  they first occur.

Principal results: `scopesOf_eq` — the walk over the subjects makes these scopes.
`neededBy_needs` — an application needs the subjects of which it uses a variable.
`scopesOf_in_order` — both stand where they are first met, whether or not subjects repeat.
-/

namespace DeclaredEnv

/-- What the variables of the subjects say: which application uses one of which subject. -/
def needs (subjects : List Subject) : List (String × String) :=
  subjects.flatMap fun t => t.vars.flatMap fun v => v.applications.map fun a => (a, t.name)

/-- The subjects that stand with an application, each where it first does. -/
def neededBy (pairs : List (String × String)) (application : String) : List String :=
  ((pairs.filter (·.1 == application)).map (·.2)).eraseDups

/-- The applications, each where it first stands, with the subjects that stand with them. -/
def scopesFor (pairs : List (String × String)) : List Scope :=
  (pairs.map (·.1)).eraseDups.map fun a => ⟨a, neededBy pairs a⟩

/-! ## One more pair -/

/-- A scope with one more subject, unless it has it. -/
def Scope.addSubject (subject : String) (s : Scope) : Scope :=
  if s.subjects.contains subject then s else { s with subjects := s.subjects ++ [subject] }

theorem note_eq_upsert (application subject : String) : ∀ scopes : List Scope,
    Scope.note application subject scopes = upsert Scope.application application
      (Scope.addSubject subject) ⟨application, [subject]⟩ scopes
  | [] => rfl
  | s :: scopes => by
    rw [Scope.note, upsert, note_eq_upsert application subject scopes]
    rfl

theorem neededBy_concat (pairs : List (String × String)) (p : String × String)
    (application : String) : neededBy (pairs ++ [p]) application =
      if p.1 = application ∧ p.2 ∉ neededBy pairs application
        then neededBy pairs application ++ [p.2] else neededBy pairs application := by
  unfold neededBy
  rw [List.filter_append]
  by_cases h : p.1 = application
  · rw [List.filter_cons_of_pos (by simpa using h), List.filter_nil, List.map_append,
      List.map_singleton, eraseDups_concat]
    simp only [h, true_and, List.mem_eraseDups]
    split <;> simp [*]
  · rw [List.filter_cons_of_neg (by simpa using h), List.filter_nil, List.append_nil]
    simp [h]

theorem addSubject_neededBy (pairs : List (String × String)) (application subject : String) :
    Scope.addSubject subject ⟨application, neededBy pairs application⟩ =
      ⟨application, neededBy (pairs ++ [(application, subject)]) application⟩ := by
  rw [neededBy_concat, Scope.addSubject]
  by_cases h : subject ∈ neededBy pairs application
  · simp [h]
  · simp [h]

theorem neededBy_eq_nil {pairs : List (String × String)} {application : String}
    (h : application ∉ pairs.map (·.1)) : neededBy pairs application = [] := by
  have hnone : pairs.filter (·.1 == application) = [] := by
    rw [List.filter_eq_nil_iff]
    intro p hp heq
    rw [beq_iff_eq] at heq
    exact h (heq ▸ List.mem_map_of_mem hp)
  rw [neededBy, hnone]
  rfl

theorem note_scopesFor (pairs : List (String × String)) (p : String × String) :
    Scope.note p.1 p.2 (scopesFor pairs) = scopesFor (pairs ++ [p]) := by
  obtain ⟨application, subject⟩ := p
  have hnd : (pairs.map (·.1)).eraseDups.Nodup := nodup_eraseDups _
  rw [note_eq_upsert, scopesFor, upsert_map (fun _ => rfl) hnd, scopesFor, List.map_append,
    List.map_singleton, eraseDups_concat]
  simp only [List.mem_eraseDups]
  split
  · -- the application has a scope, and only this one may change
    apply List.map_congr_left
    intro a _
    split
    · rename_i ha
      subst ha
      exact addSubject_neededBy pairs a subject
    · rename_i ha
      rw [neededBy_concat, if_neg fun h => ha h.1.symm]
  · rename_i hmem
    rw [List.map_append, List.map_singleton, neededBy_concat, neededBy_eq_nil hmem]
    congr 1
    · apply List.map_congr_left
      intro a ha
      have hne : ¬application = a := fun heq => hmem (heq ▸ List.mem_eraseDups.mp ha)
      rw [neededBy_concat, if_neg fun h => hne h.1]
    · simp

/-- **The walk over the subjects makes the scopes of what their variables say.** -/
theorem scopesOf_eq (subjects : List Subject) : scopesOf subjects = scopesFor (needs subjects) := by
  have hwalk : scopesOf subjects =
      (needs subjects).foldl (fun scopes p => Scope.note p.1 p.2 scopes) [] := by
    simp only [needs, List.foldl_flatMap, List.foldl_map]
    rfl
  have hfold : ∀ pairs : List (String × String),
      pairs.foldl (fun scopes p => Scope.note p.1 p.2 scopes) [] = scopesFor pairs := by
    intro pairs
    induction pairs using List.reverseRecOn with
    | nil => rfl
    | append_singleton pairs p ih =>
      rw [List.foldl_append, ih]
      exact note_scopesFor pairs p
  rw [hwalk, hfold]

/-! ## The scope of an application -/

theorem scopeOf?_scopesFor (pairs : List (String × String)) (application : String) :
    scopeOf? (scopesFor pairs) application =
      if application ∈ pairs.map (·.1) then some ⟨application, neededBy pairs application⟩
      else none := by
  have hkeys : ((scopesFor pairs).map Scope.application).Nodup := by
    have hmap : (scopesFor pairs).map Scope.application = (pairs.map (·.1)).eraseDups := by
      rw [scopesFor, List.map_map]
      exact List.map_id _
    rw [hmap]
    exact nodup_eraseDups _
  split
  · rename_i h
    refine (find?_key_eq_some_iff hkeys).mpr ⟨?_, rfl⟩
    exact List.mem_map.mpr ⟨application, List.mem_eraseDups.mpr h, rfl⟩
  · rename_i h
    refine find?_key_eq_none_iff.mpr fun s hs heq => h ?_
    obtain ⟨a, ha, rfl⟩ := List.mem_map.mp hs
    subst heq
    exact List.mem_eraseDups.mp ha

theorem mem_map_fst_needs {subjects : List Subject} {application : String} :
    application ∈ (needs subjects).map (·.1) ↔
      ∃ t ∈ subjects, ∃ v ∈ t.vars, v.usedBy application = true := by
  simp [needs, Variable.usedBy]

/-- **An application needs the subjects of which it uses a variable, each where it first stands.** -/
theorem neededBy_needs (subjects : List Subject) (application : String) :
    neededBy (needs subjects) application =
      ((subjects.filter fun t => t.vars.any (·.usedBy application)).map (·.name)).eraseDups := by
  let own (t : Subject) : List String :=
    (t.vars.flatMap fun v => v.applications.filter (· == application)).map fun _ => t.name
  have hpairs : ((needs subjects).filter (·.1 == application)).map (·.2) =
      subjects.flatMap own := by
    simp only [needs, own, List.filter_flatMap, List.map_flatMap, List.filter_map, List.map_map]
    rfl
  have hempty : ∀ t : Subject, (!(own t).isEmpty) = t.vars.any (·.usedBy application) := by
    intro t
    rw [Bool.eq_iff_iff, Bool.not_eq_true', List.isEmpty_eq_false_iff_exists_mem]
    simp only [own, List.mem_map, List.mem_flatMap, List.mem_filter, List.any_eq_true,
      Variable.usedBy, List.contains_iff_mem, beq_iff_eq]
    constructor
    · rintro ⟨_, _, ⟨v, hv, ha, rfl⟩, _⟩
      exact ⟨v, hv, ha⟩
    · rintro ⟨v, hv, ha⟩
      exact ⟨t.name, application, ⟨v, hv, ha, rfl⟩, rfl⟩
  have hown : ∀ t ∈ subjects, ∀ name ∈ own t, name = t.name := by
    intro t _ name hname
    obtain ⟨_, _, rfl⟩ := List.mem_map.mp hname
    rfl
  rw [neededBy, hpairs, eraseDups_flatMap hown]
  simp only [hempty]

theorem neededBy_needs_of_nodup {subjects : List Subject}
    (hn : (subjects.map (·.name)).Nodup) (application : String) :
    neededBy (needs subjects) application =
      (subjects.filter fun t => t.vars.any (·.usedBy application)).map (·.name) := by
  rw [neededBy_needs]
  exact eraseDups_of_nodup ((List.filter_sublist.map _).nodup hn)

/-! ## Subjects that stand more than once -/

theorem scopesFor_append_of_subset {pairs own : List (String × String)} (h : own ⊆ pairs)
    (more : List (String × String)) :
    scopesFor (pairs ++ (own ++ more)) = scopesFor (pairs ++ more) := by
  have happlications : own.map (·.1) ⊆ pairs.map (·.1) := List.map_subset _ h
  have hneeded (a : String) : neededBy (pairs ++ (own ++ more)) a = neededBy (pairs ++ more) a := by
    simp only [neededBy, List.filter_append, List.map_append]
    exact eraseDups_append_of_subset (List.map_subset _ (List.filter_subset _ h)) _
  simp only [scopesFor, hneeded, List.map_append, eraseDups_append_of_subset happlications]

/-- A subject that stands a second time changes nothing. -/
theorem scopesOf_append_of_mem {l : List Subject} {t : Subject} (ht : t ∈ l) (m : List Subject) :
    scopesOf (l ++ t :: m) = scopesOf (l ++ m) := by
  have hown : needs [t] ⊆ needs l := by
    intro p hp
    rw [needs, List.flatMap_singleton] at hp
    exact List.mem_flatMap.mpr ⟨t, ht, hp⟩
  have hsplit : needs (l ++ t :: m) = needs l ++ (needs [t] ++ needs m) := by
    simp [needs]
  have hrest : needs (l ++ m) = needs l ++ needs m := by
    simp [needs]
  rw [scopesOf_eq, hsplit, scopesFor_append_of_subset hown, ← hrest, ← scopesOf_eq]

theorem scopesOf_eraseDups (subjects : List Subject) :
    scopesOf subjects.eraseDups = scopesOf subjects := by
  have hstep (l : List Subject) (t : Subject) :
      scopesOf (l ++ [t]) = Scope.noteSubject (scopesOf l) t := by
    rw [scopesOf, List.foldl_append]
    rfl
  induction subjects using List.reverseRecOn with
  | nil => rfl
  | append_singleton l t ih =>
    rw [eraseDups_concat]
    split
    · rename_i ht
      rw [ih, scopesOf_append_of_mem ht, List.append_nil]
    · rw [hstep, hstep, ih]

/-! ## The order of scopes -/

variable {subjects : List Subject} {s : Scope}

theorem map_fst_needs (subjects : List Subject) : (needs subjects).map (·.1) =
    subjects.flatMap fun t => t.vars.flatMap (·.applications) := by
  simp [needs, List.map_flatMap, Function.comp_def]

theorem map_application_scopesOf (subjects : List Subject) :
    (scopesOf subjects).map (·.application) =
      (subjects.flatMap fun t => t.vars.flatMap (·.applications)).eraseDups := by
  rw [scopesOf_eq, scopesFor, List.map_map, map_fst_needs]
  exact List.map_id _

theorem mem_scopesOf_iff : s ∈ scopesOf subjects ↔
    (∃ t ∈ subjects, ∃ v ∈ t.vars, v.usedBy s.application = true) ∧
      s.subjects = ((subjects.filter fun t =>
        t.vars.any (·.usedBy s.application)).map (·.name)).eraseDups := by
  rw [scopesOf_eq, scopesFor, List.mem_map]
  simp only [List.mem_eraseDups, mem_map_fst_needs, neededBy_needs]
  constructor
  · rintro ⟨a, ha, rfl⟩
    exact ⟨ha, rfl⟩
  · rintro ⟨ha, hs⟩
    exact ⟨s.application, ha, by rw [← hs]⟩

theorem mem_scope_iff {name application : String} :
    (∃ s ∈ scopesOf subjects, s.application = application ∧ name ∈ s.subjects) ↔
      ∃ t ∈ subjects, t.name = name ∧ ∃ v ∈ t.vars, v.usedBy application = true := by
  constructor
  · rintro ⟨s, hs, rfl, hname⟩
    rw [(mem_scopesOf_iff.mp hs).2, List.mem_eraseDups] at hname
    obtain ⟨t, ht, rfl⟩ := List.mem_map.mp hname
    obtain ⟨ht, hused⟩ := List.mem_filter.mp ht
    exact ⟨t, ht, rfl, List.any_eq_true.mp hused⟩
  · rintro ⟨t, ht, rfl, hused⟩
    let needed := subjects.filter fun t => t.vars.any (·.usedBy application)
    refine ⟨⟨application, (needed.map (·.name)).eraseDups⟩,
      mem_scopesOf_iff.mpr ⟨⟨t, ht, hused⟩, rfl⟩, rfl, ?_⟩
    have hmem : t ∈ needed := List.mem_filter.mpr ⟨ht, List.any_eq_true.mpr hused⟩
    exact List.mem_eraseDups.mpr (List.mem_map_of_mem hmem)

theorem subjects_ne_nil_of_mem (h : s ∈ scopesOf subjects) : s.subjects ≠ [] := by
  obtain ⟨⟨t, ht, v, hv, hused⟩, hs⟩ := mem_scopesOf_iff.mp h
  have hmem : t.name ∈ s.subjects := by
    rw [hs, List.mem_eraseDups]
    refine List.mem_map_of_mem (List.mem_filter.mpr ⟨ht, ?_⟩)
    exact List.any_eq_true.mpr ⟨v, hv, hused⟩
  exact List.ne_nil_of_mem hmem

/-- **The scopes of any list of subjects stand in the order in which the applications are first
met, and the subjects of each in the order in which they are.  So nothing stands twice, no scope is
empty, a subject is in a scope exactly if the application uses one of its variables, and a subject
that the list repeats may be left out where it does.** -/
theorem scopesOf_in_order (subjects : List Subject) :
    (scopesOf subjects).map (·.application) =
        (subjects.flatMap fun t => t.vars.flatMap (·.applications)).eraseDups ∧
      (∀ s ∈ scopesOf subjects, s.subjects = ((subjects.filter fun t =>
        t.vars.any (·.usedBy s.application)).map (·.name)).eraseDups) ∧
      ((scopesOf subjects).map (·.application)).Nodup ∧
      (∀ s ∈ scopesOf subjects, s.subjects.Nodup ∧ s.subjects ≠ []) ∧
      (∀ application name,
        (∃ s ∈ scopesOf subjects, s.application = application ∧ name ∈ s.subjects) ↔
          ∃ t ∈ subjects, t.name = name ∧ ∃ v ∈ t.vars, v.usedBy application = true) ∧
      (∀ l t m, subjects = l ++ t :: m → t ∈ l → scopesOf (l ++ m) = scopesOf subjects) ∧
      scopesOf subjects.eraseDups = scopesOf subjects := by
  refine ⟨map_application_scopesOf subjects, fun s hs => (mem_scopesOf_iff.mp hs).2, ?_,
    fun s hs => ⟨?_, subjects_ne_nil_of_mem hs⟩, fun _ _ => mem_scope_iff, ?_,
    scopesOf_eraseDups subjects⟩
  · rw [map_application_scopesOf]
    exact nodup_eraseDups _
  · rw [(mem_scopesOf_iff.mp hs).2]
    exact nodup_eraseDups _
  · rintro l t m rfl ht
    exact (scopesOf_append_of_mem ht m).symm

end DeclaredEnv
