import DeclaredEnv.Evaluation
import DeclaredEnv.Proofs.Scope
import DeclaredEnv.Proofs.WellFormed

/-!
# What holds of every schema that was built

* `Variable.Coherent`, `Subject.Coherent`, `Schema.Coherent` — names differ, defaults are values of
  their kinds, and a condition is tied to a variable of its subject that can be compared.
* `Schema.lookup?` — the variable of a subject and a name.
* `Target.Selects` — the subjects that a target stands for.

Principal results: `exists_entry_of_mem`, `exists_mem_of_entry` — the variables of the schema are
those that the entries declare.  `coherent_of_build` — the build leaves a coherent schema.
`targetSubjects_eq_ok_iff` — in such a schema a look-up gives the subjects of the target.
-/

namespace DeclaredEnv

variable {entries : List Entry} {s : Schema} {t : Subject} {v : Variable}

/-! ## Entries and variables -/

theorem exists_entry_of_mem (h : Schema.build entries = .ok s) (ht : t ∈ s.subjects)
    (hv : v ∈ t.vars) : ∃ e ∈ entries, e.subject = t.name ∧ e.Declares entries v := by
  obtain ⟨name, _, hname, hvars⟩ := exists_left_of_forall₂ (represents_of_build h) ht
  obtain ⟨e, he, hdecl⟩ := exists_left_of_forall₂ hvars hv
  obtain ⟨hmem, hsubject⟩ := List.mem_filter.mp he
  exact ⟨e, hmem, (beq_iff_eq.mp hsubject).trans hname.symm, hdecl⟩

theorem exists_mem_of_entry (h : Schema.build entries = .ok s) {e : Entry} (he : e ∈ entries) :
    ∃ t ∈ s.subjects, t.name = e.subject ∧ ∃ v ∈ t.vars, e.Declares entries v := by
  have hmem : e.subject ∈ subjectNames entries := mem_subjectNames.mpr ⟨e, he, rfl⟩
  obtain ⟨t, ht, hname, hvars⟩ := exists_right_of_forall₂ (represents_of_build h) hmem
  obtain ⟨v, hv, hdecl⟩ :=
    exists_right_of_forall₂ hvars (List.mem_filter.mpr ⟨he, beq_self_eq_true _⟩)
  exact ⟨t, ht, hname, v, hv, hdecl⟩

/-! ## Coherent schemas -/

/-- A variable of a subject has a default of its kind, and its condition is tied to a variable of
the subject that is always present and can be compared with the literal. -/
structure Variable.Coherent (t : Subject) (v : Variable) : Prop where
  subject : v.subject = t.name
  default : ∀ d, v.default? = some d → ∃ raw, v.kind.read? raw = some d
  condition : ∀ c, v.condition = some c → ∃ w ∈ t.vars, w.name = c.reference ∧
    ∃ word, w.kind.Compares w.default? word c.expected
  conditioned : v.condition.isSome = v.requiredWhen.isSome

/-- The variables of a subject differ in their names. -/
structure Subject.Coherent (t : Subject) : Prop where
  names : (t.vars.map (·.name)).Nodup
  vars : ∀ v ∈ t.vars, v.Coherent t

/-- The subjects of a schema differ in their names. -/
structure Schema.Coherent (s : Schema) : Prop where
  names : (s.subjects.map (·.name)).Nodup
  subjects : ∀ t ∈ s.subjects, t.Coherent

theorem names_of_build (h : Schema.build entries = .ok s) :
    s.subjects.map (·.name) = subjectNames entries := by
  have hnames : s.subjects.map (·.name) = (subjectNames entries).map id :=
    map_eq_of_forall₂ (fun _ _ hsub => hsub.name) (represents_of_build h)
  rw [hnames, List.map_id]

theorem exists_vars_of_mem (h : Schema.build entries = .ok s) (ht : t ∈ s.subjects) :
    List.Forall₂ (Entry.Declares entries) (declarationsOf entries t.name) t.vars := by
  obtain ⟨name, _, hname, hvars⟩ := exists_left_of_forall₂ (represents_of_build h) ht
  rw [declarationsOf_of_nodup (wellFormed_of_build h).distinct, hname]
  exact hvars

theorem variable_coherent_of_build (h : Schema.build entries = .ok s) (ht : t ∈ s.subjects)
    (hv : v ∈ t.vars) : v.Coherent t := by
  obtain ⟨e, _, hsubject, hdecl⟩ := exists_entry_of_mem h ht hv
  refine ⟨hdecl.subject.trans hsubject, fun d hd => ?_, fun c hc => ?_, ?_⟩
  · have htype := hdecl.type
    rw [hd] at htype
    cases htype with
    | default _ _ read => exact ⟨_, read⟩
  · obtain ⟨_, _, declared, name, type, compares⟩ := (hdecl.condition c).mp hc
    rw [hsubject] at declared
    obtain ⟨w, hw, hdecl'⟩ := exists_right_of_forall₂ (exists_vars_of_mem h ht) declared
    obtain ⟨hkind, hdefault⟩ := hdecl'.type.unique type
    exact ⟨w, hw, hdecl'.name.trans name, _, by rwa [hkind, hdefault]⟩
  · rw [hdecl.conditioned, hdecl.requiredWhen]

/-- **The build leaves a coherent schema.** -/
theorem coherent_of_build (h : Schema.build entries = .ok s) : s.Coherent := by
  refine ⟨?_, fun t ht => ⟨?_, fun v hv => variable_coherent_of_build h ht hv⟩⟩
  · rw [names_of_build h]
    exact nodup_subjectNames entries
  · have hnames : t.vars.map (·.name) = (declarationsOf entries t.name).map (·.name) :=
      map_eq_of_forall₂ (fun _ _ hdecl => hdecl.name) (exists_vars_of_mem h ht)
    rw [hnames]
    exact nodup_map_name_declarationsOf entries t.name

/-- A part of a coherent schema is coherent. -/
theorem Schema.Coherent.of_sublist (hs : s.Coherent) {subjects : List Subject}
    (hsub : subjects.Sublist s.subjects) : Schema.Coherent ⟨subjects⟩ :=
  ⟨(hsub.map _).nodup hs.names, fun t ht => hs.subjects t (hsub.subset ht)⟩

/-- Two variables, the second asked for when the first says that it is needed. -/
def sampleEntries : List Entry :=
  [⟨"store", "MODE", "str", "", some "local", none, ["api"]⟩,
    ⟨"store", "URL", "Optional[str]", "", none, some "MODE = remote", ["api", "api"]⟩]

/-- The subject of the two variables. -/
def sampleSubject : Subject :=
  ⟨"store", [⟨"store", "MODE", ⟨.str, false⟩, some (.str "local"), "", none, none, ["api"]⟩,
    ⟨"store", "URL", ⟨.str, true⟩, none, "", some "MODE = remote",
      some ⟨"MODE", .str "remote"⟩, ["api"]⟩]⟩

example : Schema.build sampleEntries = .ok ⟨[sampleSubject]⟩ := by rfl

/-- Entries of two subjects in turn, the first with a condition on the last. -/
def interleavedEntries : List Entry :=
  [⟨"store", "URL", "Optional[str]", "", none, some "MODE=remote", ["api"]⟩,
    ⟨"cache", "SIZE", "int", "", none, none, ["api", "web"]⟩,
    ⟨"store", "MODE", "str", "", some "local", none, ["web"]⟩]

/-- Two subjects that share a name, one with a condition on it. -/
def sharedEntries : List Entry :=
  [⟨"store", "CACHED", "bool", "", none, none, ["api"]⟩,
    ⟨"store", "LIMIT", "Optional[int]", "", none, some "CACHED=true", []⟩,
    ⟨"store", "RATIO", "float", "", some "25e-2", none, []⟩,
    ⟨"cache", "CACHED", "Optional[bool]", "", none, none, ["api"]⟩]

/-! ## Look-ups -/

theorem Subject.Coherent.find?_eq_some_iff (h : t.Coherent) {name : String} :
    t.find? name = some v ↔ v ∈ t.vars ∧ v.name = name :=
  find?_key_eq_some_iff h.names

theorem Schema.Coherent.subject?_eq_some_iff (h : s.Coherent) {name : String} :
    s.subject? name = some t ↔ t ∈ s.subjects ∧ t.name = name :=
  find?_key_eq_some_iff h.names

/-- The variable of a subject and a name. -/
def Schema.lookup? (s : Schema) (subject name : String) : Option Variable :=
  (s.subject? subject).bind (·.find? name)

theorem Schema.Coherent.lookup?_eq_some_iff (hs : s.Coherent) {subject name : String} :
    s.lookup? subject name = some v ↔
      ∃ t ∈ s.subjects, ∃ w ∈ t.vars, t.name = subject ∧ w.name = name ∧ w = v := by
  simp only [Schema.lookup?, Option.bind_eq_some_iff, hs.subject?_eq_some_iff]
  constructor
  · rintro ⟨t, ⟨ht, hsubject⟩, hfind⟩
    obtain ⟨hv, hname⟩ := (hs.subjects t ht).find?_eq_some_iff.mp hfind
    exact ⟨t, ht, v, hv, hsubject, hname, rfl⟩
  · rintro ⟨t, ht, w, hw, hsubject, hname, rfl⟩
    exact ⟨t, ⟨ht, hsubject⟩, (hs.subjects t ht).find?_eq_some_iff.mpr ⟨hw, hname⟩⟩

/-- The subjects of a target: one by its name, or those of which an application uses a variable. -/
inductive Target.Selects (s : Schema) : Target → List Subject → Prop where
  | subject {t : Subject} (known : t ∈ s.subjects) : Selects s (.subject t.name) [t]
  | application {name : String} (known : ∃ t ∈ s.subjects, ∃ v ∈ t.vars, v.usedBy name = true) :
      Selects s (.application name) (s.subjects.filter fun t => t.vars.any (·.usedBy name))

/-- Subjects that correspond are selected together, if they agree in their names and in the
applications that use them. -/
theorem Target.Selects.of_forall₂ {R : Subject → Subject → Prop} {s s' : Schema}
    (hname : ∀ t u, R t u → t.name = u.name)
    (hused : ∀ t u, R t u → ∀ a, t.vars.any (·.usedBy a) = u.vars.any (·.usedBy a))
    (h : List.Forall₂ R s.subjects s'.subjects) {target : Target} {subjects : List Subject}
    (hselects : target.Selects s subjects) :
    ∃ subjects', target.Selects s' subjects' ∧ List.Forall₂ R subjects subjects' := by
  cases hselects with
  | @subject t known =>
    obtain ⟨u, hu, htu⟩ := exists_right_of_forall₂ h known
    exact ⟨[u], hname t u htu ▸ .subject hu, .cons htu .nil⟩
  | @application name known =>
    obtain ⟨t, ht, hv⟩ := known
    obtain ⟨u, hu, htu⟩ := exists_right_of_forall₂ h ht
    have hw : ∃ w ∈ u.vars, w.usedBy name = true := by
      rw [← List.any_eq_true, ← hused t u htu, List.any_eq_true]
      exact hv
    refine ⟨_, .application ⟨u, hu, hw⟩, List.rel_filter (fun t u htu => ?_) h⟩
    exact Bool.eq_iff_iff.mp (hused t u htu name)

/-- Variables that correspond are used by the same applications, if each two are. -/
theorem any_usedBy_of_forall₂ {R : Variable → Variable → Prop}
    (hR : ∀ v w, R v w → v.applications = w.applications) {vars vars' : List Variable}
    (h : List.Forall₂ R vars vars') (application : String) :
    vars.any (·.usedBy application) = vars'.any (·.usedBy application) := by
  induction h with
  | nil => rfl
  | cons hvw _ ih =>
    rw [List.any_cons, List.any_cons, ih, Variable.usedBy, hR _ _ hvw, Variable.usedBy]

theorem Schema.Coherent.filterMap_subject? (h : s.Coherent) {subjects : List Subject}
    (hsub : subjects ⊆ s.subjects) :
    (subjects.map (·.name)).filterMap s.subject? = subjects := by
  rw [List.filterMap_map]
  conv => rhs; rw [← List.filterMap_some (l := subjects)]
  apply List.filterMap_congr
  intro t ht
  exact h.subject?_eq_some_iff.mpr ⟨hsub ht, rfl⟩

theorem Schema.Coherent.scopeOf?_scopes (h : s.Coherent) (name : String) :
    scopeOf? s.scopes name =
      if ∃ t ∈ s.subjects, ∃ v ∈ t.vars, v.usedBy name = true then
        some ⟨name, (s.subjects.filter fun t => t.vars.any (·.usedBy name)).map (·.name)⟩
      else none := by
  rw [Schema.scopes, scopesOf_eq, scopeOf?_scopesFor, neededBy_needs_of_nodup h.names]
  simp only [mem_map_fst_needs]

/-- **A target is known exactly if it stands for subjects, and a look-up gives these.** -/
theorem targetSubjects_eq_ok_iff (h : s.Coherent) {target : Target} {subjects : List Subject} :
    s.targetSubjects target = .ok subjects ↔ target.Selects s subjects := by
  cases target with
  | subject name =>
    simp only [Schema.targetSubjects]
    constructor
    · intro heq
      split at heq
      · rename_i t ht
        obtain ⟨hmem, rfl⟩ := h.subject?_eq_some_iff.mp ht
        cases heq
        exact .subject hmem
      · cases heq
    · rintro ⟨hmem⟩
      rw [h.subject?_eq_some_iff.mpr ⟨hmem, rfl⟩]
  | application name =>
    simp only [Schema.targetSubjects, h.scopeOf?_scopes]
    have hfound : (s.subjects.filter fun t => t.vars.any (·.usedBy name)) ⊆ s.subjects :=
      List.filter_subset_self _
    constructor
    · intro heq
      split at heq
      · rename_i scope hscope
        rw [Option.ite_none_right_eq_some] at hscope
        obtain ⟨known, hscope⟩ := hscope
        cases hscope
        rw [h.filterMap_subject? hfound] at heq
        cases heq
        exact .application known
      · cases heq
    · rintro ⟨⟩
      rename_i known
      rw [if_pos known]
      show Except.ok (List.filterMap s.subject? (List.map _ _)) = _
      rw [h.filterMap_subject? hfound]

end DeclaredEnv
