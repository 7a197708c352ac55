import DeclaredEnv.Proofs.Built

/-!
# Subjects by themselves

* `ownEntries` — the entries of one subject.
* `Fault.seenAlone` — a fault as these entries alone show it, other subjects being out of sight.
* `buildFaults` — the faults with which entries fail to build.

Principal results: `map_seenAlone_faults` — the faults of a group depend on the other groups only in
what they say of these.  `buildFaults_ownEntries` — the faults of a subject are those of its own
entries.  `build_by_subject` — so entries build subject by subject.
-/

namespace DeclaredEnv

variable {entries : List Entry} {subject : String} {e : Entry} {g : Group} {groups : List Group}

/-- The entries of a subject, in order. -/
def ownEntries (entries : List Entry) (subject : String) : List Entry :=
  entries.filter (·.subject == subject)

/-- The fault as the entries of its subject alone show it: a variable of another subject is then no
variable at all. -/
def Fault.seenAlone : Fault → Fault
  | .otherSubject s n r _ => .unknownReference s n r
  | f => f

/-- The faults with which entries fail to build, none if they build. -/
def buildFaults (entries : List Entry) : List Fault :=
  match Schema.build entries with
  | .ok _ => []
  | .error faults => faults

/-! ## The entries of a subject -/

theorem ownEntries_concat (entries : List Entry) (e : Entry) (subject : String) :
    ownEntries (entries ++ [e]) subject =
      ownEntries entries subject ++ if e.subject == subject then [e] else [] := by
  rw [ownEntries, List.filter_append, List.filter_singleton, Bool.cond_eq_ite, ownEntries]

/-- Only entries of the same subject declare the same variable. -/
theorem any_key_ownEntries (h : e.subject = subject) :
    (ownEntries entries subject).any (·.key == e.key) = entries.any (·.key == e.key) := by
  rw [ownEntries, List.any_filter]
  congr 1
  funext d
  by_cases hd : d.subject = subject
  · simp [hd]
  · have hkey : (d.key == e.key) = false := by
      simp [Entry.key, h, hd]
    simp [hkey]

/-- The entries that are, or are not, the first of their variable are so among those of their
subject. -/
theorem filter_zipIdx_ownEntries (p : Bool → Bool) (entries : List Entry) (subject : String) :
    ((ownEntries entries subject).zipIdx.filter fun q =>
        p (declaredBefore (ownEntries entries subject) q.1 q.2)).map (·.1) =
      ((entries.zipIdx.filter fun q => p (declaredBefore entries q.1 q.2)).map (·.1)).filter
        (·.subject == subject) := by
  induction entries using List.reverseRecOn with
  | nil => rfl
  | append_singleton entries e ih =>
    rw [map_filter_zipIdx_concat p entries e, List.filter_append, ← ih, ownEntries_concat]
    by_cases h : e.subject = subject
    · rw [if_pos (by simpa using h), map_filter_zipIdx_concat, any_key_ownEntries h]
      split <;> simp [h]
    · rw [if_neg (by simpa using h), List.append_nil]
      split <;> simp [h]

theorem declarations_ownEntries (entries : List Entry) (subject : String) :
    declarations (ownEntries entries subject) = declarationsOf entries subject :=
  filter_zipIdx_ownEntries not entries subject

theorem repetitions_ownEntries (entries : List Entry) (subject : String) :
    repetitions (ownEntries entries subject) =
      (repetitions entries).filter (·.subject == subject) :=
  filter_zipIdx_ownEntries id entries subject

theorem groupOf_ownEntries (entries : List Entry) (subject : String) :
    groupOf (ownEntries entries subject) subject = groupOf entries subject := by
  rw [groupOf, declarationsOf, declarations_ownEntries, declarationsOf, List.filter_filter]
  simp only [Bool.and_self]
  rfl

theorem subjectNames_ownEntries (entries : List Entry) (subject : String) :
    subjectNames (ownEntries entries subject) = (subjectNames entries).filter (· == subject) := by
  induction entries using List.reverseRecOn with
  | nil => rfl
  | append_singleton entries e ih =>
    rw [ownEntries_concat, subjectNames_concat]
    by_cases h : e.subject = subject
    · rw [if_pos (by simpa using h), subjectNames_concat, ih]
      simp only [List.mem_filter, h, beq_self_eq_true, and_true]
      split <;> simp
    · rw [if_neg (by simpa using h), List.append_nil, ih]
      split <;> simp [h]

theorem subjectNames_ownEntries_of_mem (h : subject ∈ subjectNames entries) :
    subjectNames (ownEntries entries subject) = [subject] := by
  rw [subjectNames_ownEntries, List.filter_beq,
    List.count_eq_one_of_mem (nodup_subjectNames entries) h, List.replicate_one]

/-! ## A group among other groups -/

theorem seenAlone_strayReference (groups : List Group) (e : Entry) (name : String) :
    (strayReference groups e name).seenAlone = .unknownReference e.subject e.name name := by
  unfold strayReference
  split <;> rfl

/-- Without groups of other subjects a name that is not declared is unknown. -/
theorem strayReference_of_own (h : ∀ g ∈ groups, g.subject = e.subject) (name : String) :
    strayReference groups e name = .unknownReference e.subject e.name name := by
  have hfind : groups.find? (fun g => g.subject != e.subject && g.declares name) = none := by
    rw [List.find?_eq_none]
    intro g hg
    simp [h g hg]
  rw [strayReference, hfind]

/-- **The condition of an entry depends on the other groups only in what its fault says of
them.** -/
theorem mapError_seenAlone_condition (g : Group) (groups : List Group) (e : Entry) :
    (g.condition groups e).mapError Fault.seenAlone = g.condition [] e := by
  unfold Group.condition
  split
  · rfl
  · split
    · rfl
    · split
      · rw [Except.mapError, seenAlone_strayReference]
        rfl
      · split
        · rfl
        · split <;> rfl

theorem condition_of_own (h : ∀ g ∈ groups, g.subject = e.subject) :
    g.condition groups e = g.condition [] e := by
  simp only [Group.condition, strayReference_of_own h]
  rfl

theorem typed?_eq_of_groups (g : Group) (groups : List Group) (e : Entry) :
    g.typed? groups e = g.typed? [] e := by
  unfold Group.typed?
  rw [← mapError_seenAlone_condition g groups e]
  cases g.condition groups e <;> rfl

theorem vars_eq_of_groups (g : Group) (groups : List Group) : g.vars groups = g.vars [] :=
  List.filterMap_congr fun e _ => typed?_eq_of_groups g groups e

theorem seenAlone_of_typeFault {f : Fault} (h : e.TypeFault f) : f.seenAlone = f := by
  cases h <;> rfl

theorem faultOf?_mapError {α : Type} (x : Except Fault α) (f : Fault → Fault) :
    (faultOf? x).map f = faultOf? (x.mapError f) := by
  cases x <;> rfl

/-- **So do all faults of a group.** -/
theorem map_seenAlone_faults (g : Group) (groups : List Group) :
    (g.faults groups).map Fault.seenAlone = g.faults [] := by
  have htypes (e : Entry) :
      (faultOf? e.toVariable).map Fault.seenAlone = faultOf? e.toVariable := by
    cases h : e.toVariable with
    | ok v => rfl
    | error f => exact congrArg some (seenAlone_of_typeFault (toVariable_eq_error_iff.mp h))
  have hcycles : (cycleFaults g.subject (g.vars [])).map Fault.seenAlone =
      cycleFaults g.subject (g.vars []) := by
    rw [cycleFaults, List.map_map]
    rfl
  simp only [Group.faults, List.map_append, List.map_filterMap, htypes, faultOf?_mapError,
    mapError_seenAlone_condition, vars_eq_of_groups g groups, hcycles]

theorem faults_of_own (hg : ∀ e ∈ g.entries, e.subject = g.subject)
    (h : ∀ g' ∈ groups, g'.subject = g.subject) : g.faults groups = g.faults [] := by
  have hconditions : g.entries.filterMap (fun e => faultOf? (g.condition groups e)) =
      g.entries.filterMap fun e => faultOf? (g.condition [] e) :=
    List.filterMap_congr fun e he => by
      rw [condition_of_own fun g' hg' => (h g' hg').trans (hg e he).symm]
  rw [Group.faults, hconditions, vars_eq_of_groups, Group.faults]

/-! ## Where a fault lies -/

theorem subject_of_typeFault {f : Fault} (h : e.TypeFault f) : f.subject = e.subject := by
  cases h <;> rfl

theorem subject_of_condition_eq_error {f : Fault} (h : g.condition groups e = .error f) :
    f.subject = e.subject := by
  unfold Group.condition at h
  split at h
  · cases h
  · split at h
    · cases h
      rfl
    · split at h
      · cases h
        unfold strayReference
        split <;> rfl
      · split at h
        · cases h
        · split at h
          · cases h
          · cases h
            rfl

/-- The faults of a group lie in its subject. -/
theorem subject_of_mem_faults (hg : ∀ e ∈ g.entries, e.subject = g.subject) {f : Fault}
    (h : f ∈ g.faults groups) : f.subject = g.subject := by
  simp only [Group.faults, List.mem_append, List.mem_filterMap, faultOf?_eq_some_iff] at h
  rcases h with (⟨e, he, hf⟩ | ⟨e, he, hf⟩) | hf
  · exact (subject_of_typeFault (toVariable_eq_error_iff.mp hf)).trans (hg e he)
  · exact (subject_of_condition_eq_error hf).trans (hg e he)
  · obtain ⟨_, _, rfl⟩ := List.mem_map.mp hf
    rfl

theorem subject_of_mem_groupOf (e : Entry) (h : e ∈ (groupOf entries subject).entries) :
    e.subject = subject :=
  (mem_declarationsOf.mp h).2

/-! ## Builds -/

theorem buildFaults_eq (entries : List Entry) :
    buildFaults entries = (Grouping.ofEntries entries).faults := by
  rw [buildFaults, build_eq]
  split
  · rename_i h
    split at h
    · rename_i hnil
      exact hnil.symm
    · cases h
  · rename_i h
    split at h
    · cases h
    · cases h
      rfl

theorem buildFaults_eq_append (entries : List Entry) : buildFaults entries =
    (repetitions entries).map (fun e => .declaredTwice e.subject e.name) ++
      (subjectNames entries).flatMap fun s => (groupOf entries s).faults (groupsOf entries) := by
  rw [buildFaults_eq, ofEntries_eq, Grouping.faults, groupsOf_eq_map, List.flatMap_map]

theorem exists_build_iff : (∃ s, Schema.build entries = .ok s) ↔ buildFaults entries = [] := by
  rw [buildFaults_eq]
  simp only [build_eq]
  split <;> simp [*]

/-- The subjects that appear among the entries are those of their faults. -/
theorem subject_mem_of_mem_buildFaults {f : Fault} (h : f ∈ buildFaults entries) :
    f.subject ∈ subjectNames entries := by
  rw [buildFaults_eq_append, List.mem_append, List.mem_map, List.mem_flatMap] at h
  rcases h with ⟨e, he, rfl⟩ | ⟨s, hs, hf⟩
  · obtain ⟨q, hq, rfl⟩ := List.mem_map.mp he
    exact mem_subjectNames.mpr ⟨_, List.fst_mem_of_mem_zipIdx (List.mem_of_mem_filter hq), rfl⟩
  · rw [subject_of_mem_faults subject_of_mem_groupOf hf]
    exact hs

/-- Of what the groups report, what lies in one subject is what the group of the subject reports. -/
theorem filter_flatMap_faults (entries : List Entry) (subject : String) :
    ((subjectNames entries).flatMap fun s => (groupOf entries s).faults (groupsOf entries)).filter
        (·.subject == subject) =
      (subjectNames (ownEntries entries subject)).flatMap fun s =>
        (groupOf entries s).faults (groupsOf entries) := by
  rw [subjectNames_ownEntries]
  exact filter_flatMap_key id
    (fun _ _ _ hf => subject_of_mem_faults subject_of_mem_groupOf hf) subject

/-- **The faults of a subject are those of its own entries.** -/
theorem buildFaults_ownEntries (entries : List Entry) (subject : String) :
    ((buildFaults entries).filter (·.subject == subject)).map Fault.seenAlone =
      buildFaults (ownEntries entries subject) := by
  have hown : ∀ s ∈ subjectNames (ownEntries entries subject),
      (groupOf (ownEntries entries subject) s).faults (groupsOf (ownEntries entries subject)) =
        ((groupOf entries s).faults (groupsOf entries)).map Fault.seenAlone := by
    intro s hs
    rw [subjectNames_ownEntries, List.mem_filter, beq_iff_eq] at hs
    obtain ⟨hs, rfl⟩ := hs
    rw [groupOf_ownEntries, map_seenAlone_faults]
    refine faults_of_own subject_of_mem_groupOf fun g hg => ?_
    rw [groupsOf_eq_map, subjectNames_ownEntries_of_mem hs, List.map_singleton,
      List.mem_singleton] at hg
    rw [hg]
    rfl
  rw [buildFaults_eq_append, List.filter_append, List.map_append, filter_flatMap_faults,
    List.map_flatMap, buildFaults_eq_append, repetitions_ownEntries, List.filter_map, List.map_map]
  congr 1
  exact (List.flatMap_congr hown).symm

/-- A variable of another subject is out of sight for the entries of one. -/
example :
    let entries : List Entry := [⟨"a", "X", "str", "", none, some "Y=1", []⟩,
      ⟨"b", "Y", "str", "", none, none, []⟩]
    buildFaults entries = [.otherSubject "a" "X" "Y" "b"] ∧
      buildFaults (ownEntries entries "a") = [.unknownReference "a" "X" "Y"] :=
  ⟨by rfl, by rfl⟩

theorem build_iff_forall_subject : buildFaults entries = [] ↔
    ∀ s ∈ subjectNames entries, buildFaults (ownEntries entries s) = [] := by
  constructor
  · intro h s _
    rw [← buildFaults_ownEntries, h]
    rfl
  · intro h
    rw [List.eq_nil_iff_forall_not_mem]
    intro f hf
    have hown := h f.subject (subject_mem_of_mem_buildFaults hf)
    rw [← buildFaults_ownEntries, List.map_eq_nil_iff, List.filter_eq_nil_iff] at hown
    exact hown f hf (beq_self_eq_true _)

/-- The schema of the entries of a subject has the subject as it is among the others. -/
theorem schemaOf_ownEntries {t : Subject} (ht : t ∈ (schemaOf entries).subjects) :
    schemaOf (ownEntries entries t.name) = ⟨[t]⟩ := by
  obtain ⟨s, hs, rfl⟩ := List.mem_map.mp ht
  show schemaOf (ownEntries entries s) = _
  rw [schemaOf, subjectNames_ownEntries_of_mem hs, List.map_singleton, varsOf, varsOf,
    groupOf_ownEntries, vars_eq_of_groups, vars_eq_of_groups _ (groupsOf entries)]

/-- **Entries build subject by subject: each subject has the faults of its own entries, and is what
these build by themselves.** -/
theorem build_by_subject (entries : List Entry) :
    (∀ subject, ((buildFaults entries).filter (·.subject == subject)).map Fault.seenAlone =
        buildFaults (ownEntries entries subject)) ∧
      ((∃ s, Schema.build entries = .ok s) ↔
        ∀ subject ∈ subjectNames entries, ∃ s, Schema.build (ownEntries entries subject) = .ok s) ∧
      ∀ s, Schema.build entries = .ok s → ∀ t ∈ s.subjects,
        Schema.build (ownEntries entries t.name) = .ok ⟨[t]⟩ := by
  refine ⟨buildFaults_ownEntries entries, ?_, fun s hs t ht => ?_⟩
  · simp only [exists_build_iff]
    exact build_iff_forall_subject
  · obtain rfl := eq_schemaOf_of_build hs
    have hname : t.name ∈ subjectNames entries := by
      obtain ⟨n, hn, rfl⟩ := List.mem_map.mp ht
      exact hn
    have hown : ∃ s, Schema.build (ownEntries entries t.name) = .ok s :=
      exists_build_iff.mpr (build_iff_forall_subject.mp (exists_build_iff.mp ⟨_, hs⟩) _ hname)
    obtain ⟨s, hs⟩ := hown
    rw [hs, eq_schemaOf_of_build hs, schemaOf_ownEntries ht]

theorem build_by_subject_interleaved :
    Schema.build interleavedEntries = .ok (schemaOf interleavedEntries) ∧
      ∀ t ∈ (schemaOf interleavedEntries).subjects,
        Schema.build (ownEntries interleavedEntries t.name) = .ok ⟨[t]⟩ := by
  have hb : Schema.build interleavedEntries = .ok (schemaOf interleavedEntries) := by rfl
  exact ⟨hb, (build_by_subject interleavedEntries).2.2 _ hb⟩

end DeclaredEnv
