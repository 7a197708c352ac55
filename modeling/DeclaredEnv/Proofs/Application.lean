import DeclaredEnv.Proofs.Evaluation

/-!
# Applications, subject by subject

* `Lists` — an entry of a subject names an application.
* `subjectsOf` — the subjects with such an entry, in the order in which they first appear.
* `Joins` — an evaluation is made of others: of all their values, or of all their violations.

Principal results: `joins_outcomeOf` — the evaluation of some subjects is made of those of each.
`evaluate_application` — so an application is evaluated subject by subject, and it is known if some
entry names it.
-/

namespace DeclaredEnv

variable {entries : List Entry} {s : Schema} {t : Subject} {env : Environment}

/-! ## The subjects that entries name an application for -/

/-- An entry of the subject names the application. -/
def Lists (entries : List Entry) (subject application : String) : Prop :=
  ∃ e ∈ entries, e.subject = subject ∧ application ∈ e.applications

instance (entries : List Entry) (subject application : String) :
    Decidable (Lists entries subject application) :=
  inferInstanceAs (Decidable (∃ e ∈ entries, e.subject = subject ∧ application ∈ e.applications))

/-- The subjects with an entry that names the application, in the order in which they first
appear. -/
def subjectsOf (entries : List Entry) (application : String) : List String :=
  (subjectNames entries).filter (Lists entries · application)

theorem mem_subjectsOf {subject application : String} :
    subject ∈ subjectsOf entries application ↔ Lists entries subject application := by
  simp only [subjectsOf, List.mem_filter, decide_eq_true_eq, mem_subjectNames, and_iff_right_iff_imp]
  rintro ⟨e, he, hsubject, _⟩
  exact ⟨e, he, hsubject⟩

/-- A variable of a subject is used by an application if an entry of the subject names it. -/
theorem any_usedBy_iff_lists (h : Schema.build entries = .ok s) (ht : t ∈ s.subjects)
    (application : String) :
    t.vars.any (·.usedBy application) = true ↔ Lists entries t.name application := by
  simp only [List.any_eq_true, Variable.usedBy, List.contains_iff_mem]
  constructor
  · rintro ⟨v, hv, hused⟩
    obtain ⟨e, he, hsubject, hdecl⟩ := exists_entry_of_mem h ht hv
    rw [hdecl.applications, List.mem_eraseDups] at hused
    exact ⟨e, he, hsubject, hused⟩
  · rintro ⟨e, he, hsubject, hused⟩
    obtain ⟨u, hu, hname, v, hv, hdecl⟩ := exists_mem_of_entry h he
    obtain rfl : u = t :=
      List.inj_on_of_nodup_map (coherent_of_build h).names hu ht (hname.trans hsubject)
    exact ⟨v, hv, by rwa [hdecl.applications, List.mem_eraseDups]⟩

/-- The subjects of which an application uses a variable are those that list it. -/
theorem map_name_filter_usedBy (h : Schema.build entries = .ok s) (application : String) :
    (s.subjects.filter fun t => t.vars.any (·.usedBy application)).map (·.name) =
      subjectsOf entries application := by
  have hfilter : (s.subjects.filter fun t => t.vars.any (·.usedBy application)) =
      s.subjects.filter fun t => decide (Lists entries t.name application) :=
    List.filter_congr fun t ht => by
      rw [Bool.eq_iff_iff, any_usedBy_iff_lists h ht, decide_eq_true_iff]
  rw [hfilter, subjectsOf, ← names_of_build h, List.filter_map]
  rfl

/-- An application is known exactly if an entry names it. -/
theorem exists_usedBy_iff_subjectsOf_ne_nil (h : Schema.build entries = .ok s)
    (application : String) :
    (∃ t ∈ s.subjects, ∃ v ∈ t.vars, v.usedBy application = true) ↔
      subjectsOf entries application ≠ [] := by
  rw [← map_name_filter_usedBy h, ne_eq, List.map_eq_nil_iff, List.filter_eq_nil_iff]
  simp

theorem subjectsOf_eq_nil_iff {application : String} :
    subjectsOf entries application = [] ↔ ∀ e ∈ entries, application ∉ e.applications := by
  simp only [List.eq_nil_iff_forall_not_mem, mem_subjectsOf]
  constructor
  · exact fun h e he ha => h e.subject ⟨e, he, rfl, ha⟩
  · rintro h _ ⟨e, he, _, ha⟩
    exact h e he ha

/-! ## Evaluations made of others -/

/-- An evaluation is made of others: it gives all their values, in order, if all of them give
values, and else reports all their violations, in order. -/
inductive Joins (parts : List (Except EvaluationError Resolved)) :
    Except EvaluationError Resolved → Prop where
  | ok {rs : List Resolved} (all : parts = rs.map .ok) :
      Joins parts (.ok ⟨rs.flatMap (·.subjects)⟩)
  | invalid (evaluated : ∀ part ∈ parts, (∃ r, part = .ok r) ∨ ∃ l, part = .error (.invalid l))
      (some : ∃ part ∈ parts, ∃ l, part = .error (.invalid l)) :
      Joins parts (.error (.invalid (parts.flatMap reportedBy)))

theorem violationsOf_eq_nil_iff {subjects : List Subject} :
    Schema.violationsOf subjects env = [] ↔
      ∀ t ∈ subjects, Schema.violationsOf [t] env = [] := by
  simp [Schema.violationsOf]

/-- **The evaluation of some subjects is made of the evaluations of each.** -/
theorem joins_outcomeOf (subjects : List Subject) (env : Environment) :
    Joins (subjects.map fun t => outcomeOf [t] env) (outcomeOf subjects env) := by
  by_cases h : Schema.violationsOf subjects env = []
  · have hall : subjects.map (fun t => outcomeOf [t] env) =
        (subjects.map fun t => valuesOf [t] env).map .ok := by
      rw [List.map_map]
      exact List.map_congr_left fun t ht => if_pos (violationsOf_eq_nil_iff.mp h t ht)
    have hvalues : valuesOf subjects env =
        ⟨(subjects.map fun t => valuesOf [t] env).flatMap (·.subjects)⟩ := by
      rw [List.flatMap_map, valuesOf, ← List.flatMap_pure_eq_map]
      rfl
    rw [outcomeOf, if_pos h, hvalues]
    exact .ok hall
  · have hviolations : Schema.violationsOf subjects env =
        (subjects.map fun t => outcomeOf [t] env).flatMap reportedBy := by
      simp only [List.flatMap_map, reportedBy_outcomeOf, Schema.violationsOf, List.flatMap_singleton]
    rw [outcomeOf, if_neg h, hviolations]
    refine .invalid ?_ ?_
    · intro part hpart
      obtain ⟨t, _, rfl⟩ := List.mem_map.mp hpart
      by_cases ht : Schema.violationsOf [t] env = []
      · exact .inl ⟨_, if_pos ht⟩
      · exact .inr ⟨_, if_neg ht⟩
    · rw [violationsOf_eq_nil_iff] at h
      simp only [not_forall] at h
      obtain ⟨t, ht, hne⟩ := h
      exact ⟨_, List.mem_map_of_mem ht, _, if_neg hne⟩

/-! ## Applications -/

theorem evaluate_application_of_mem (h : Schema.build entries = .ok s) {application : String}
    (hne : subjectsOf entries application ≠ []) (env : Environment) :
    Joins ((subjectsOf entries application).map fun name => s.evaluate (.subject name) env)
      (s.evaluate (.application application) env) := by
  have hs := coherent_of_build h
  have hselects := Target.Selects.application
    ((exists_usedBy_iff_subjectsOf_ne_nil h application).mpr hne)
  have hparts : ((subjectsOf entries application).map fun name => s.evaluate (.subject name) env) =
      (s.subjects.filter fun t => t.vars.any (·.usedBy application)).map
        fun t => outcomeOf [t] env := by
    rw [← map_name_filter_usedBy h, List.map_map]
    exact List.map_congr_left fun t ht =>
      evaluate_eq hs (.subject (List.mem_of_mem_filter ht))
  rw [hparts, evaluate_eq hs hselects]
  exact joins_outcomeOf _ env

theorem evaluate_application_of_not_mem (h : Schema.build entries = .ok s) {application : String}
    (hnil : subjectsOf entries application = []) (env : Environment) :
    s.evaluate (.application application) env = .error (.unknownApplication application) := by
  refine evaluate_of_not_selects (coherent_of_build h) (fun subjects hselects => ?_) env
  cases hselects with
  | application known =>
    exact (exists_usedBy_iff_subjectsOf_ne_nil h application).mp known hnil

/-- **An application is known exactly if an entry names it, and is then evaluated subject by
subject.** -/
theorem evaluate_application (h : Schema.build entries = .ok s) (application : String)
    (env : Environment) :
    (s.evaluate (.application application) env = .error (.unknownApplication application) ↔
        ∀ e ∈ entries, application ∉ e.applications) ∧
      ((∃ e ∈ entries, application ∈ e.applications) →
        subjectsOf entries application ≠ [] ∧
          Joins ((subjectsOf entries application).map fun name => s.evaluate (.subject name) env)
            (s.evaluate (.application application) env)) := by
  rw [← subjectsOf_eq_nil_iff]
  refine ⟨⟨fun hunknown => ?_, fun hnil => evaluate_application_of_not_mem h hnil env⟩, ?_⟩
  · by_contra hne
    have hjoins := evaluate_application_of_mem h hne env
    rw [hunknown] at hjoins
    cases hjoins
  · rintro ⟨e, he, ha⟩
    have hne : subjectsOf entries application ≠ [] := fun hnil =>
      subjectsOf_eq_nil_iff.mp hnil e he ha
    exact ⟨hne, evaluate_application_of_mem h hne env⟩

theorem evaluate_application_interleaved :
    Schema.build interleavedEntries = .ok (schemaOf interleavedEntries) ∧
      subjectsOf interleavedEntries "web" = ["store", "cache"] ∧
      Joins (["store", "cache"].map fun name =>
          (schemaOf interleavedEntries).evaluate (.subject name) (.ofPairs [("URL", "file")]))
        (.error (.invalid [⟨"cache", "SIZE", .missing⟩])) := by
  have hb : Schema.build interleavedEntries = .ok (schemaOf interleavedEntries) := by rfl
  have hlists : ∃ e ∈ interleavedEntries, "web" ∈ e.applications := by decide
  have hjoins := ((evaluate_application hb "web" (.ofPairs [("URL", "file")])).2 hlists).2
  exact ⟨hb, by rfl, hjoins⟩

end DeclaredEnv
