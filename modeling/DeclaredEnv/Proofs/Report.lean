import DeclaredEnv.Proofs.Reference
import DeclaredEnv.Proofs.Typing
import DeclaredEnv.Schema

/-!
# Which faults a list of entries has

* `Bound` — the condition of one variable of a subject is tied to another one.
* `Entry.CycleFault` — the fault of the cycle that the variable of an entry is the first of.
* `SubjectReport`, `FaultReport` — all faults of one subject, and of all entries, in order.

Principal results: `faultReport_iff` — there is one such report, and the grouped entries make it.
`build_eq_error_iff` — a build fails with exactly the faults of the report.
`FaultReport.defaultMismatch_mem_iff`, `FaultReport.declaredTwice_mem_iff` — when a default and when
a repetition is reported.
-/

namespace DeclaredEnv

open Relation

variable {entries : List Entry} {subject : String} {e : Entry}

/-! ## Conditions between the variables of a subject -/

/-- The subject has a variable `a` with a type, whose condition is tied to the variable `b`. -/
def Bound (entries : List Entry) (subject a b : String) : Prop :=
  ∃ e ∈ declarationsOf entries subject, e.name = a ∧ (∃ k d, e.HasType k d) ∧
    ∃ c, e.ConditionIs entries c ∧ c.reference = b

/-- The variables of a subject, its entries without a type left out. -/
def varsOf (entries : List Entry) (subject : String) : List Variable :=
  (groupOf entries subject).vars (groupsOf entries)

theorem mem_varsOf {v : Variable} : v ∈ varsOf entries subject ↔
    ∃ e ∈ declarationsOf entries subject, ∃ k d condition, e.HasType k d ∧
      (∀ c, condition = some c ↔ e.ConditionIs entries c) ∧
        v = { e.variableOf k d with condition } := by
  simp only [varsOf, Group.vars, groupOf, List.mem_filterMap]
  refine exists_congr fun e => and_congr_right fun he => ?_
  obtain rfl := (mem_declarationsOf.mp he).2
  exact typed?_eq_some_iff

/-- The entry that a variable of a subject stands for. -/
theorem exists_entry_of_mem_varsOf {v : Variable} (h : v ∈ varsOf entries subject) :
    ∃ e ∈ declarationsOf entries subject, e.HasType v.kind v.default? ∧ e.name = v.name ∧
      ∀ c, v.condition = some c ↔ e.ConditionIs entries c := by
  obtain ⟨e, he, k, d, condition, ht, hc, rfl⟩ := mem_varsOf.mp h
  exact ⟨e, he, ht, rfl, hc⟩

/-- The variable of an entry with a type. -/
theorem exists_mem_varsOf (he : e ∈ declarationsOf entries subject) {k : Kind} {d : Option Value}
    (ht : e.HasType k d) : ∃ v ∈ varsOf entries subject, v.name = e.name ∧
      (groupOf entries subject).typed? (groupsOf entries) e = some v ∧
        ∀ c, v.condition = some c ↔ e.ConditionIs entries c := by
  obtain rfl := (mem_declarationsOf.mp he).2
  obtain ⟨condition, hc, htyped⟩ := typed?_of_hasType entries ht
  exact ⟨_, List.mem_filterMap.mpr ⟨e, he, htyped⟩, rfl, htyped, hc⟩

theorem map_name_filterMap_sublist {f : Entry → Option Variable}
    (hf : ∀ e v, f e = some v → v.name = e.name) : ∀ l : List Entry,
    ((l.filterMap f).map (·.name)).Sublist (l.map (·.name))
  | [] => .slnil
  | e :: l => by
    have ih := map_name_filterMap_sublist hf l
    cases h : f e with
    | none =>
      rw [List.filterMap_cons_none h]
      exact ih.cons e.name
    | some v =>
      rw [List.filterMap_cons_some h, List.map_cons, List.map_cons, hf e v h]
      exact ih.cons_cons e.name

theorem name_of_typed? {g : Group} {groups : List Group} {e : Entry} {v : Variable}
    (h : g.typed? groups e = some v) : v.name = e.name := by
  unfold Group.typed? at h
  split at h
  · cases h
  · rename_i u hu
    obtain ⟨k, d, _, rfl⟩ := toVariable_eq_ok_iff.mp hu
    split at h <;> cases h <;> rfl

theorem map_name_varsOf_sublist (entries : List Entry) (subject : String) :
    ((varsOf entries subject).map (·.name)).Sublist
      ((declarationsOf entries subject).map (·.name)) :=
  map_name_filterMap_sublist (fun _ _ h => name_of_typed? h) _

theorem nodup_map_name_varsOf (entries : List Entry) (subject : String) :
    ((varsOf entries subject).map (·.name)).Nodup :=
  (map_name_varsOf_sublist entries subject).nodup (nodup_map_name_declarationsOf entries subject)

/-- The conditions of the variables of a subject are those that its entries denote. -/
theorem refersTo_varsOf : RefersTo (varsOf entries subject) = Bound entries subject := by
  funext a b
  refine propext ⟨?_, ?_⟩
  · rintro ⟨v, hv, _, _, rfl, rfl, c, hc, href⟩
    obtain ⟨e, he, ht, hname, hcond⟩ := exists_entry_of_mem_varsOf hv
    exact ⟨e, he, hname, ⟨_, _, ht⟩, c, (hcond c).mp hc, href⟩
  · rintro ⟨e, he, rfl, ⟨k, d, ht⟩, c, hc, rfl⟩
    obtain ⟨v, hv, hname, _, hcond⟩ := exists_mem_varsOf he ht
    have hv' := (hcond c).mpr hc
    obtain ⟨_, _, declared, name, type, _⟩ := hc
    obtain rfl := (mem_declarationsOf.mp he).2
    obtain ⟨w, hw, hwname, _⟩ := exists_mem_varsOf declared type
    exact ⟨v, hv, w, hw, hname, hwname.trans name, _, hv', rfl⟩

/-! ## The faults of cycles -/

/-- The fault of the cycle of conditions in which the variable of an entry is the first declared. -/
def Entry.CycleFault (entries : List Entry) (e : Entry) (f : Fault) : Prop :=
  ∃ rest, CycleFrom (Bound entries e.subject)
      ((declarationsOf entries e.subject).map (·.name)) e.name rest ∧
    f = .cycle e.subject (e.name :: (rest ++ [e.name]))

theorem Bound.mem {a b : String} (h : Bound entries subject a b) :
    a ∈ (varsOf entries subject).map (·.name) := by
  rw [← refersTo_varsOf] at h
  exact h.mem

theorem cycleFrom_varsOf_iff {start : String} {rest : List String} :
    CycleFrom (RefersTo (varsOf entries subject)) ((varsOf entries subject).map (·.name)) start
      rest ↔ CycleFrom (Bound entries subject) ((declarationsOf entries subject).map (·.name))
        start rest := by
  rw [refersTo_varsOf]
  exact cycleFrom_iff_of_sublist (map_name_varsOf_sublist entries subject)
    (nodup_map_name_declarationsOf entries subject) fun _ _ h => h.mem

/-- A cycle of conditions begins at an entry with a type. -/
theorem exists_entry_of_cycleFrom {order rest : List String} {start : String}
    (h : CycleFrom (Bound entries subject) order start rest) :
    ∃ e ∈ declarationsOf entries subject, e.name = start ∧ ∃ k d, e.HasType k d := by
  have hself : TransGen (Bound entries subject) start start :=
    exists_isCycle_iff.mp ⟨rest, h.toIsCycle⟩
  obtain ⟨_, ⟨e, he, hname, ht, _⟩, _⟩ := TransGen.head'_iff.mp hself
  exact ⟨e, he, hname, ht⟩

theorem typed?_bind_cycleFaultOf?_iff (he : e ∈ declarationsOf entries subject) {f : Fault} :
    (((groupOf entries subject).typed? (groupsOf entries) e).bind fun v =>
      cycleFaultOf? subject (varsOf entries subject) v.name) = some f ↔
        e.CycleFault entries f := by
  have hn := nodup_map_name_varsOf entries subject
  obtain rfl := (mem_declarationsOf.mp he).2
  rw [Option.bind_eq_some_iff]
  constructor
  · rintro ⟨v, hv, hf⟩
    have hmem : v ∈ varsOf entries e.subject := List.mem_filterMap.mpr ⟨e, he, hv⟩
    obtain ⟨rest, hc, rfl⟩ := (cycleFaultOf?_eq_some_iff hn hmem).mp hf
    rw [name_of_typed? hv] at hc ⊢
    exact ⟨rest, cycleFrom_varsOf_iff.mp hc, rfl⟩
  · rintro ⟨rest, hc, rfl⟩
    -- the entry has a type, as a point on a cycle is bound to the next one
    obtain ⟨e', he', hname, k, d, ht⟩ := exists_entry_of_cycleFrom hc
    obtain rfl := List.inj_on_of_nodup_map (nodup_map_name_declarationsOf entries e.subject) he' he
      hname
    obtain ⟨v, hv, hvname, htyped, _⟩ := exists_mem_varsOf he' ht
    refine ⟨v, htyped, (cycleFaultOf?_eq_some_iff hn hv).mpr ⟨rest, ?_, by rw [hvname]⟩⟩
    rw [hvname]
    exact cycleFrom_varsOf_iff.mpr hc

/-! ## The report -/

/-- All faults of a subject: those of types, those of conditions, and those of cycles, each in the
order of the declarations. -/
def SubjectReport (entries : List Entry) (subject : String) (faults : List Fault) : Prop :=
  ∃ types conditions cycles, faults = types ++ conditions ++ cycles ∧
    Collects Entry.TypeFault (declarationsOf entries subject) types ∧
    Collects (Entry.ConditionFault entries) (declarationsOf entries subject) conditions ∧
    Collects (Entry.CycleFault entries) (declarationsOf entries subject) cycles

/-- All faults of a list of entries: one for each repeated declaration, then those of the subjects
in the order in which they first appear. -/
def FaultReport (entries : List Entry) (faults : List Fault) : Prop :=
  ∃ ofSubjects, List.Forall₂ (SubjectReport entries) (subjectNames entries) ofSubjects ∧
    faults = (repetitions entries).map (fun e => .declaredTwice e.subject e.name) ++
      ofSubjects.flatten

theorem faultOf?_eq_some_iff {α : Type} {x : Except Fault α} {f : Fault} :
    faultOf? x = some f ↔ x = .error f := by
  cases x <;> simp [faultOf?]

theorem subjectReport_iff {faults : List Fault} : SubjectReport entries subject faults ↔
    (groupOf entries subject).faults (groupsOf entries) = faults := by
  have htypes {l : List Fault} : Collects Entry.TypeFault (declarationsOf entries subject) l ↔
      l = (declarationsOf entries subject).filterMap fun e => faultOf? e.toVariable :=
    collects_iff fun e _ f => by rw [faultOf?_eq_some_iff, toVariable_eq_error_iff]
  have hconditions {l : List Fault} :
      Collects (Entry.ConditionFault entries) (declarationsOf entries subject) l ↔
        l = (declarationsOf entries subject).filterMap fun e =>
          faultOf? ((groupOf entries subject).condition (groupsOf entries) e) :=
    collects_iff fun e he f => by
      obtain rfl := (mem_declarationsOf.mp he).2
      rw [faultOf?_eq_some_iff, condition_eq_error_iff]
  have hcycles {l : List Fault} :
      Collects (Entry.CycleFault entries) (declarationsOf entries subject) l ↔
        l = cycleFaults subject (varsOf entries subject) := by
    rw [cycleFaults_eq_filterMap (nodup_map_name_varsOf entries subject)]
    nth_rewrite 2 [varsOf]
    rw [Group.vars, List.filterMap_filterMap]
    exact collects_iff fun e he f => (typed?_bind_cycleFaultOf?_iff he).symm
  simp only [SubjectReport, htypes, hconditions, hcycles]
  constructor
  · rintro ⟨_, _, _, rfl, rfl, rfl, rfl⟩
    rfl
  · rintro rfl
    exact ⟨_, _, _, rfl, rfl, rfl, rfl⟩

/-- **There is exactly one report, which is what the grouped entries make.** -/
theorem faultReport_iff {faults : List Fault} :
    FaultReport entries faults ↔ (Grouping.ofEntries entries).faults = faults := by
  have hsubjects {l : List (List Fault)} :
      List.Forall₂ (SubjectReport entries) (subjectNames entries) l ↔
        (groupsOf entries).map (·.faults (groupsOf entries)) = l := by
    rw [groupsOf_eq_map, List.map_map, ← List.forall₂_eq_eq_eq, List.forall₂_map_left_iff]
    exact ⟨List.Forall₂.imp fun _ _ => subjectReport_iff.mp,
      List.Forall₂.imp fun _ _ => subjectReport_iff.mpr⟩
  simp only [FaultReport, hsubjects, ofEntries_eq, Grouping.faults, List.flatMap_def]
  constructor
  · rintro ⟨_, rfl, rfl⟩
    rfl
  · rintro rfl
    exact ⟨_, rfl, rfl⟩

/-- **A build fails with exactly the faults of the report, if there are any.** -/
theorem build_eq_error_iff {faults : List Fault} :
    Schema.build entries = .error faults ↔ FaultReport entries faults ∧ faults ≠ [] := by
  rw [faultReport_iff, Schema.build]
  split
  · rename_i h
    rw [List.isEmpty_iff] at h
    simp [h, eq_comm]
  · rename_i h
    rw [List.isEmpty_iff] at h
    simp only [Except.error.injEq]
    exact ⟨fun heq => ⟨heq, heq ▸ h⟩, And.left⟩

/-! ## Faults of one sort -/

/-- Every fault of a subject is found at one of its first declarations. -/
theorem SubjectReport.exists_of_mem {faults : List Fault} (h : SubjectReport entries subject faults)
    {f : Fault} (hf : f ∈ faults) : ∃ e ∈ declarationsOf entries subject,
      e.TypeFault f ∨ e.ConditionFault entries f ∨ e.CycleFault entries f := by
  obtain ⟨types, conditions, cycles, rfl, ht, hc, hy⟩ := h
  rw [List.mem_append, List.mem_append] at hf
  rcases hf with (hf | hf) | hf
  · obtain ⟨e, he, hfault⟩ := ht.exists_of_mem hf
    exact ⟨e, he, .inl hfault⟩
  · obtain ⟨e, he, hfault⟩ := hc.exists_of_mem hf
    exact ⟨e, he, .inr (.inl hfault)⟩
  · obtain ⟨e, he, hfault⟩ := hy.exists_of_mem hf
    exact ⟨e, he, .inr (.inr hfault)⟩

/-- A fault of the type of an entry is among those of its subject. -/
theorem SubjectReport.mem_of_typeFault {faults : List Fault}
    (h : SubjectReport entries subject faults) (he : e ∈ declarationsOf entries subject) {f : Fault}
    (hf : e.TypeFault f) : f ∈ faults := by
  obtain ⟨types, conditions, cycles, rfl, ht, _, _⟩ := h
  have hunique : Relator.RightUnique Entry.TypeFault := fun _ _ _ => Entry.TypeFault.unique
  have htypes : f ∈ types := ht.mem_of_rightUnique hunique he hf
  exact List.mem_append_left cycles (List.mem_append_left conditions htypes)

/-- **A default is reported as no value of its kind exactly if a first declaration has it.** -/
theorem FaultReport.defaultMismatch_mem_iff {faults : List Fault} (h : FaultReport entries faults)
    {name raw : String} {k : Kind} : Fault.defaultMismatch subject name raw k ∈ faults ↔
      ∃ e ∈ declarations entries, e.TypeFault (.defaultMismatch subject name raw k) := by
  obtain ⟨ofSubjects, hsubjects, rfl⟩ := h
  constructor
  · intro hmem
    rcases List.mem_append.mp hmem with hmem | hmem
    · obtain ⟨e, _, hf⟩ := List.mem_map.mp hmem
      cases hf
    · obtain ⟨faults, hfaults, hmem⟩ := List.mem_flatten.mp hmem
      obtain ⟨s, _, hreport⟩ := exists_left_of_forall₂ hsubjects hfaults
      -- neither a condition nor a cycle gives a fault of this sort
      obtain ⟨e, he, hf | hf | ⟨rest, _, hf⟩⟩ := hreport.exists_of_mem hmem
      · exact ⟨e, (mem_declarationsOf.mp he).1, hf⟩
      · cases hf
      · cases hf
  · rintro ⟨e, he, hf⟩
    have hsubject : e.subject ∈ subjectNames entries :=
      mem_subjectNames.mpr ⟨e, mem_of_mem_declarations he, rfl⟩
    obtain ⟨faults, hfaults, hreport⟩ := exists_right_of_forall₂ hsubjects hsubject
    have hmem := hreport.mem_of_typeFault (mem_declarationsOf.mpr ⟨he, rfl⟩) hf
    exact List.mem_append_right _ (List.mem_flatten.mpr ⟨faults, hfaults, hmem⟩)

/-! ## Repeated declarations -/

/-- The faults of a subject concern its first declarations only. -/
theorem SubjectReport.declaredTwice_notMem {faults : List Fault}
    (h : SubjectReport entries subject faults) (s name : String) :
    Fault.declaredTwice s name ∉ faults := by
  intro hmem
  obtain ⟨e, _, hf | hf | ⟨rest, _, hf⟩⟩ := h.exists_of_mem hmem
  · cases hf
  · cases hf
  · cases hf

/-- **A variable is reported as declared twice exactly if an entry repeats it.** -/
theorem FaultReport.declaredTwice_mem_iff {faults : List Fault} (h : FaultReport entries faults)
    {name : String} : Fault.declaredTwice subject name ∈ faults ↔
      (subject, name) ∈ (repetitions entries).map Entry.key := by
  obtain ⟨ofSubjects, hsubjects, rfl⟩ := h
  have hnot : Fault.declaredTwice subject name ∉ ofSubjects.flatten := by
    intro hmem
    obtain ⟨faults, hfaults, hmem⟩ := List.mem_flatten.mp hmem
    obtain ⟨s, _, hreport⟩ := exists_left_of_forall₂ hsubjects hfaults
    exact hreport.declaredTwice_notMem subject name hmem
  simp [hnot, Entry.key]

end DeclaredEnv
