import DeclaredEnv.Proofs.Report

/-!
# Which lists of entries build, and what they build

* `WellFormed` — every variable is declared once, with a type and with a condition that denotes one,
  and the conditions do not go round in a circle.
* `Entry.Declares` — a variable says what an entry says.
* `Represents` — a schema has the subjects and the variables of a list of entries.

Principal results: `faultReport_nil_iff_wellFormed` — the entries in which nothing is wrong are the
well-formed ones.  `build_eq_ok_iff` — these build, and nothing else does.
-/

namespace DeclaredEnv

open Relation

variable {entries : List Entry} {subject : String} {e : Entry}

/-- The text of a condition of the variable `a` of a subject names `b`. -/
def Refers (entries : List Entry) (subject a b : String) : Prop :=
  ∃ e ∈ entries, e.subject = subject ∧ e.name = a ∧
    ∃ text c, e.requiredWhen = some text ∧ Spells text c ∧ c.reference = b

/-- A list of entries in which nothing is wrong. -/
structure WellFormed (entries : List Entry) : Prop where
  distinct : (entries.map Entry.key).Nodup
  typed : ∀ e ∈ entries, ∃ k d, e.HasType k d
  conditioned : ∀ e ∈ entries, e.requiredWhen.isSome = true → ∃ c, e.ConditionIs entries c
  acyclic : ∀ subject a, ¬TransGen (Refers entries subject) a a

/-! ## Entries without a fault -/

/-- No fault is found at an entry. -/
structure Entry.Faultless (entries : List Entry) (e : Entry) : Prop where
  type : ∀ f, ¬e.TypeFault f
  condition : ∀ f, ¬e.ConditionFault entries f
  cycle : ∀ f, ¬e.CycleFault entries f

theorem subjectReport_nil_iff : SubjectReport entries subject [] ↔
    ∀ e ∈ declarationsOf entries subject, e.Faultless entries := by
  constructor
  · rintro ⟨types, conditions, cycles, hnil, ht, hc, hy⟩
    simp only [List.nil_eq, List.append_eq_nil_iff] at hnil
    obtain ⟨⟨rfl, rfl⟩, rfl⟩ := hnil
    rw [collects_nil_iff] at ht hc hy
    exact fun e he => ⟨ht e he, hc e he, hy e he⟩
  · intro h
    refine ⟨[], [], [], rfl, ?_, ?_, ?_⟩
    · exact collects_nil_iff.mpr fun e he => (h e he).type
    · exact collects_nil_iff.mpr fun e he => (h e he).condition
    · exact collects_nil_iff.mpr fun e he => (h e he).cycle

theorem faultReport_nil_iff : FaultReport entries [] ↔
    (entries.map Entry.key).Nodup ∧ ∀ e ∈ declarations entries, e.Faultless entries := by
  rw [← repetitions_eq_nil_iff]
  have hsubjects : (∀ s ∈ subjectNames entries, SubjectReport entries s []) ↔
      ∀ e ∈ declarations entries, e.Faultless entries := by
    simp only [subjectReport_nil_iff, mem_declarationsOf]
    constructor
    · intro h e he
      exact h e.subject (mem_subjectNames.mpr ⟨e, mem_of_mem_declarations he, rfl⟩) e ⟨he, rfl⟩
    · exact fun h _ _ e he => h e he.1
  rw [← hsubjects, ← exists_forall₂_flatten_eq_nil_iff]
  constructor
  · rintro ⟨ofSubjects, h, hnil⟩
    rw [List.nil_eq, List.append_eq_nil_iff, List.map_eq_nil_iff] at hnil
    exact ⟨hnil.1, ofSubjects, h, hnil.2⟩
  · rintro ⟨hrep, ofSubjects, h, hnil⟩
    exact ⟨ofSubjects, h, by rw [hrep, hnil]; rfl⟩

/-- No cycle is reported exactly if no variable is bound to itself along the conditions. -/
theorem forall_not_cycleFault_iff :
    (∀ e ∈ declarationsOf entries subject, ∀ f, ¬e.CycleFault entries f) ↔
      ∀ a, ¬TransGen (Bound entries subject) a a := by
  constructor
  · intro h a ha
    have hmem : ∀ a b, Bound entries subject a b →
        a ∈ (declarationsOf entries subject).map (·.name) := fun _ _ hab =>
      (map_name_varsOf_sublist entries subject).subset hab.mem
    obtain ⟨start, rest, hc⟩ := (exists_cycleFrom_iff hmem).mpr ⟨a, ha⟩
    obtain ⟨e, he, rfl, _⟩ := exists_entry_of_cycleFrom hc
    obtain rfl := (mem_declarationsOf.mp he).2
    exact h e he _ ⟨rest, hc, rfl⟩
  · rintro h e he f ⟨rest, hc, _⟩
    obtain rfl := (mem_declarationsOf.mp he).2
    exact h e.name (exists_isCycle_iff.mp ⟨rest, hc.toIsCycle⟩)

theorem Entry.ConditionIs.not_conditionFault {c : Condition} (h : e.ConditionIs entries c)
    (f : Fault) : ¬e.ConditionFault entries f := by
  intro hf
  have herror := condition_of_conditionFault hf
  rw [condition_of_conditionIs h] at herror
  cases herror

theorem Entry.ConditionFault.requiredWhen {f : Fault} (h : e.ConditionFault entries f) :
    e.requiredWhen.isSome = true := by
  cases h <;> simp [*]

theorem Bound.refers {a b : String} (h : Bound entries subject a b) :
    Refers entries subject a b := by
  obtain ⟨e, he, rfl, _, c, hc, rfl⟩ := h
  obtain ⟨hmem, rfl⟩ := mem_declarationsOf.mp he
  obtain ⟨written, spells, _⟩ := hc
  exact ⟨e, mem_of_mem_declarations hmem, rfl, rfl, _, _, written, spells, rfl⟩

/-- Among entries that have types and conditions a text binds the variable that it names. -/
theorem Refers.bound (hd : (entries.map Entry.key).Nodup)
    (ht : ∀ e ∈ entries, ∃ k d, e.HasType k d)
    (hc : ∀ e ∈ entries, e.requiredWhen.isSome = true → ∃ c, e.ConditionIs entries c)
    {a b : String} (h : Refers entries subject a b) : Bound entries subject a b := by
  obtain ⟨e, he, rfl, rfl, text, c, written, spells, rfl⟩ := h
  have hmem : e ∈ declarationsOf entries e.subject :=
    mem_declarationsOf.mpr ⟨(declarations_of_nodup hd).symm ▸ he, rfl⟩
  obtain ⟨condition, hcond⟩ := hc e he (by simp [written])
  refine ⟨e, hmem, rfl, ht e he, condition, hcond, ?_⟩
  obtain ⟨written', spells', _⟩ := hcond
  rw [written] at written'
  cases written'
  rw [spells.unique spells']

theorem WellFormed.of_faultless (hd : (entries.map Entry.key).Nodup)
    (h : ∀ e ∈ entries, e.Faultless entries) : WellFormed entries := by
  have hdecls := declarations_of_nodup hd
  have ht : ∀ e ∈ entries, ∃ k d, e.HasType k d := by
    intro e he
    rcases hasType_or_typeFault e with ht | ⟨f, hf⟩
    · exact ht
    · exact absurd hf ((h e he).type f)
  have hc : ∀ e ∈ entries, e.requiredWhen.isSome = true → ∃ c, e.ConditionIs entries c := by
    intro e he hsome
    obtain ⟨text, written⟩ := Option.isSome_iff_exists.mp hsome
    rcases condition_cases entries written with hc | ⟨f, hf⟩ | ⟨_, _, d, f, _, _, hdecl, _, hf⟩
    · exact hc
    · exact absurd hf ((h e he).condition f)
    · -- the variable without a type has a fault itself
      have hmem : d ∈ entries := mem_of_mem_declarations (mem_declarationsOf.mp hdecl).1
      exact absurd hf ((h d hmem).type f)
  refine ⟨hd, ht, hc, fun subject a ha => ?_⟩
  have hcycle : ∀ e ∈ declarationsOf entries subject, ∀ f, ¬e.CycleFault entries f := fun e he =>
    (h e (mem_of_mem_declarations (mem_declarationsOf.mp he).1)).cycle
  exact forall_not_cycleFault_iff.mp hcycle a
    (TransGen.mono (fun _ _ hab => hab.bound hd ht hc) a a ha)

theorem WellFormed.faultless (h : WellFormed entries) (he : e ∈ entries) :
    e.Faultless entries := by
  refine ⟨fun f hf => ?_, fun f hf => ?_, ?_⟩
  · obtain ⟨k, d, ht⟩ := h.typed e he
    exact hf.not_hasType ht
  · obtain ⟨c, hc⟩ := h.conditioned e he hf.requiredWhen
    exact hc.not_conditionFault f hf
  · have hmem : e ∈ declarationsOf entries e.subject :=
      mem_declarationsOf.mpr ⟨(declarations_of_nodup h.distinct).symm ▸ he, rfl⟩
    refine forall_not_cycleFault_iff.mpr (fun a ha => ?_) e hmem
    exact h.acyclic e.subject a (TransGen.mono (fun _ _ hab => hab.refers) a a ha)

/-- **The entries in which nothing is wrong are the well-formed ones.** -/
theorem faultReport_nil_iff_wellFormed : FaultReport entries [] ↔ WellFormed entries := by
  rw [faultReport_nil_iff]
  constructor
  · rintro ⟨hd, h⟩
    rw [declarations_of_nodup hd] at h
    exact .of_faultless hd h
  · intro h
    refine ⟨h.distinct, ?_⟩
    rw [declarations_of_nodup h.distinct]
    exact fun e he => h.faultless he

/-! ## The schema of well-formed entries -/

/-- A variable says what an entry says: the kind of its type, the value of its default, and the
condition that its text denotes. -/
structure Entry.Declares (entries : List Entry) (e : Entry) (v : Variable) : Prop where
  subject : v.subject = e.subject
  name : v.name = e.name
  type : e.HasType v.kind v.default?
  description : v.description = e.description
  requiredWhen : v.requiredWhen = e.requiredWhen
  applications : v.applications = e.applications.eraseDups
  condition : ∀ c, v.condition = some c ↔ e.ConditionIs entries c
  conditioned : v.condition.isSome = e.requiredWhen.isSome

/-- A subject has the name and a variable for each entry of the name, in order. -/
structure SubjectOf (entries : List Entry) (subject : String) (t : Subject) : Prop where
  name : t.name = subject
  vars : List.Forall₂ (Entry.Declares entries) (entries.filter (·.subject == subject)) t.vars

/-- A schema has the subjects of the entries, in the order in which they first appear. -/
def Represents (entries : List Entry) (s : Schema) : Prop :=
  List.Forall₂ (SubjectOf entries) (subjectNames entries) s.subjects

theorem Entry.Declares.unique {v w : Variable} (hv : e.Declares entries v)
    (hw : e.Declares entries w) : v = w := by
  obtain ⟨hkind, hdefault⟩ := hv.type.unique hw.type
  have hcondition : v.condition = w.condition :=
    Option.ext fun c => (hv.condition c).trans (hw.condition c).symm
  obtain ⟨hsubject, hname, _, hdescription, hrequired, happlications, _, _⟩ := hv
  obtain ⟨hsubject', hname', _, hdescription', hrequired', happlications', _, _⟩ := hw
  cases v
  cases w
  simp_all

theorem SubjectOf.unique {t u : Subject} (ht : SubjectOf entries subject t)
    (hu : SubjectOf entries subject u) : t = u := by
  have hname : t.name = u.name := ht.name.trans hu.name.symm
  have hdeclares : Relator.RightUnique (Entry.Declares entries) := fun _ _ _ =>
    Entry.Declares.unique
  have hvars : t.vars = u.vars := List.right_unique_forall₂' hdeclares ht.vars hu.vars
  cases t
  cases u
  simp_all

theorem Represents.unique {s s' : Schema} (h : Represents entries s) (h' : Represents entries s') :
    s = s' := by
  have hsubjectOf : Relator.RightUnique (SubjectOf entries) := fun _ _ _ => SubjectOf.unique
  have hsubjects : s.subjects = s'.subjects := List.right_unique_forall₂' hsubjectOf h h'
  cases s
  cases s'
  simp_all

/-- The subjects of the entries, with their variables. -/
def schemaOf (entries : List Entry) : Schema :=
  ⟨(subjectNames entries).map fun s => ⟨s, varsOf entries s⟩⟩

theorem WellFormed.exists_declares (h : WellFormed entries) (he : e ∈ entries) :
    ∃ v, (groupOf entries e.subject).typed? (groupsOf entries) e = some v ∧
      e.Declares entries v := by
  obtain ⟨k, d, ht⟩ := h.typed e he
  obtain ⟨condition, hc, htyped⟩ := typed?_of_hasType entries ht
  refine ⟨_, htyped, ⟨rfl, rfl, ht, rfl, rfl, firstOccurrences_eq_eraseDups _, hc, ?_⟩⟩
  show condition.isSome = e.requiredWhen.isSome
  cases hr : e.requiredWhen with
  | none =>
    rw [Option.isSome_none, Option.isSome_eq_false_iff, Option.isNone_iff_eq_none]
    apply Option.eq_none_iff_forall_ne_some.mpr
    intro c hcond
    obtain ⟨written, _⟩ := (hc c).mp hcond
    rw [hr] at written
    cases written
  | some text =>
    obtain ⟨c, hcond⟩ := h.conditioned e he (by rw [hr]; rfl)
    rw [(hc c).mpr hcond]
    rfl

theorem represents_schemaOf (h : WellFormed entries) : Represents entries (schemaOf entries) := by
  rw [Represents, schemaOf, List.forall₂_map_right_iff, List.forall₂_same]
  intro name _
  refine ⟨rfl, ?_⟩
  rw [← declarationsOf_of_nodup h.distinct]
  apply forall₂_filterMap
  intro e he
  obtain ⟨hmem, rfl⟩ := mem_declarationsOf.mp he
  exact h.exists_declares (mem_of_mem_declarations hmem)

/-- The build is decided by the report of the entries. -/
theorem build_eq (entries : List Entry) : Schema.build entries =
    if (Grouping.ofEntries entries).faults = [] then .ok (schemaOf entries)
    else .error (Grouping.ofEntries entries).faults := by
  have hsubjects : (Grouping.ofEntries entries).subjects = (schemaOf entries).subjects := by
    rw [ofEntries_eq, Grouping.subjects, groupsOf_eq_map, List.map_map]
    rfl
  rw [Schema.build, hsubjects]
  simp only [List.isEmpty_iff]

theorem build_of_wellFormed (h : WellFormed entries) :
    Schema.build entries = .ok (schemaOf entries) := by
  rw [build_eq, if_pos (faultReport_iff.mp (faultReport_nil_iff_wellFormed.mpr h))]

theorem wellFormed_of_build {s : Schema} (h : Schema.build entries = .ok s) :
    WellFormed entries := by
  rw [build_eq] at h
  split at h
  · rename_i hnil
    exact faultReport_nil_iff_wellFormed.mp (faultReport_iff.mpr hnil)
  · cases h

theorem eq_schemaOf_of_build {s : Schema} (h : Schema.build entries = .ok s) :
    s = schemaOf entries := by
  rw [build_of_wellFormed (wellFormed_of_build h)] at h
  exact (Except.ok.inj h).symm

theorem represents_of_build {s : Schema} (h : Schema.build entries = .ok s) :
    Represents entries s := by
  have hw := wellFormed_of_build h
  rw [build_of_wellFormed hw] at h
  cases h
  exact represents_schemaOf hw

/-- **Exactly the well-formed entries build, and what they build is the schema that represents
them.** -/
theorem build_eq_ok_iff (entries : List Entry) :
    ((∃ s, Schema.build entries = .ok s) ↔ WellFormed entries) ∧
      ∀ s, Schema.build entries = .ok s ↔ WellFormed entries ∧ Represents entries s := by
  constructor
  · constructor
    · rintro ⟨s, hs⟩
      exact wellFormed_of_build hs
    · exact fun h => ⟨schemaOf entries, build_of_wellFormed h⟩
  · intro s
    constructor
    · exact fun hs => ⟨wellFormed_of_build hs, represents_of_build hs⟩
    · rintro ⟨hw, hs⟩
      rw [build_of_wellFormed hw, (represents_schemaOf hw).unique hs]

end DeclaredEnv
