import DeclaredEnv.Proofs.DistinctKeys
import DeclaredEnv.Proofs.Parted
import DeclaredEnv.Proofs.Steps
import DeclaredEnv.Proofs.WellFormed
import DeclaredEnv.SchemaDocument

/-!
# The entries of a document, and what they build

* `EntryAt` — the entry of one variable in the table of its subject; `memberEntry` reads it.
* `GroupAt` — the entries of one subject in a document, one for each of its variables.

Principal results: `entriesOf_eq_ok_iff` — the entries of a document are those of its subjects, one
after the other.  `parted_of_groupAt` — if the tables hold each key once, the groups are parted.
`Parted.forall₂_declares` — a schema then has its variables in the order of the entries.
`build_of_load` — so the build repeats, drops and reorders nothing of a document that can be read.
-/

namespace DeclaredEnv

open Toml

variable {entries : List Entry} {subject name : String} {fields members table : Table}
  {groups : List Group} {s : Schema}

/-! ## The entry of one variable -/

theorem optionalField_eq_ok_of_lookup {α : Type} {read : Toml.Value → Except EntryFault α}
    {key : String} {v : Toml.Value} {a? : Option α} (hv : fields.lookup key = some v)
    (h : optionalField read fields key = .ok a?) : ∃ a, read v = .ok a ∧ a? = some a := by
  simp only [optionalField, hv] at h
  obtain ⟨a, ha, rfl⟩ := map_eq_ok_iff.mp h
  exact ⟨a, ha, rfl⟩

/-- An entry has the subject and the name of its table, and the type and the default in it. -/
theorem fields_of_entryOf {e : Entry} (h : entryOf subject name fields = .ok e) :
    e.key = (subject, name) ∧
      optionalField (stringOf "type") fields "type" = .ok (some e.type) ∧
        optionalField defaultText fields "default" = .ok e.default? := by
  unfold entryOf at h
  split at h
  · cases h
  · obtain ⟨type?, htype, h⟩ := exists_of_bind_eq_ok h
    split at h
    · cases h
    · obtain ⟨default?, hdefault, h⟩ := exists_of_bind_eq_ok h
      obtain ⟨applications, _, h⟩ := exists_of_bind_eq_ok h
      obtain ⟨description, _, h⟩ := exists_of_bind_eq_ok h
      obtain ⟨requiredWhen, _, h⟩ := exists_of_bind_eq_ok h
      cases h
      exact ⟨rfl, htype, hdefault⟩

/-- An entry declares the variable under whose name its table stands. -/
theorem key_of_entryOf {e : Entry} (h : entryOf subject name fields = .ok e) :
    e.key = (subject, name) :=
  (fields_of_entryOf h).1

/-- The entry of a variable, which is a table in the table of its subject. -/
def EntryAt (subject : String) (member : String × Toml.Value) (e : Entry) : Prop :=
  ∃ fields, member.2 = .table fields ∧ entryOf subject member.1 fields = .ok e

theorem EntryAt.key {member : String × Toml.Value} {e : Entry} (h : EntryAt subject member e) :
    e.key = (subject, member.1) := by
  obtain ⟨fields, _, he⟩ := h
  exact key_of_entryOf he

/-- The entry of a member of the table of a subject. -/
def memberEntry (subject : String) (member : String × Toml.Value) : Except LoadError Entry :=
  match member.2 with
  | .table fields =>
    match entryOf subject member.1 fields with
    | .error f => .error (.invalidEntry (subject ++ "." ++ member.1) f)
    | .ok entry => .ok entry
  | other => .error (.invalidEntry (subject ++ "." ++ member.1) (.notVariable other.typeName))

theorem memberEntry_eq_ok_iff {member : String × Toml.Value} {e : Entry} :
    memberEntry subject member = .ok e ↔ EntryAt subject member e := by
  constructor
  · intro h
    unfold memberEntry at h
    split at h
    · rename_i fields hfields
      split at h <;> cases h
      rename_i hentry
      exact ⟨fields, hfields, hentry⟩
    · cases h
  · rintro ⟨fields, hfields, hentry⟩
    simp only [memberEntry, hfields, hentry]

/-! ## The entries of one subject -/

theorem subjectEntries_eq_mapM (subject : String) (members : Table) :
    subjectEntries subject members = members.mapM (memberEntry subject) := by
  induction members with
  | nil => rfl
  | cons member members ih =>
    obtain ⟨name, v⟩ := member
    rw [List.mapM_cons, ← ih]
    cases v with
    | table fields =>
      simp only [subjectEntries, memberEntry]
      cases entryOf subject name fields <;> rfl
    | scalar | array => rfl

theorem subjectEntries_eq_ok_iff : subjectEntries subject members = .ok entries ↔
    List.Forall₂ (EntryAt subject) members entries := by
  rw [subjectEntries_eq_mapM, mapM_eq_ok_iff]
  simp only [memberEntry_eq_ok_iff]

/-- The entries of a subject, which is a table in a document. -/
structure GroupAt (member : String × Toml.Value) (g : Group) : Prop where
  subject : g.subject = member.1
  entries : ∃ members, member.2 = .table members ∧
    List.Forall₂ (EntryAt member.1) members g.entries

theorem GroupAt.own {member : String × Toml.Value} {g : Group} (h : GroupAt member g) :
    ∀ e ∈ g.entries, e.subject = g.subject := by
  intro e he
  obtain ⟨members, _, hentries⟩ := h.entries
  obtain ⟨_, _, hentry⟩ := exists_left_of_forall₂ hentries he
  exact (congrArg Prod.fst hentry.key).trans h.subject.symm

/-- The names of a subject's entries are the keys of its table. -/
theorem GroupAt.names {member : String × Toml.Value} {g : Group} (h : GroupAt member g)
    (hd : member.2.Distinct) : (g.entries.map (·.name)).Nodup := by
  obtain ⟨members, hmembers, hentries⟩ := h.entries
  rw [hmembers] at hd
  cases hd with
  | table keys _ =>
    have hnames : g.entries.map (·.name) = members.map (·.1) :=
      map_eq_of_forall₂ (fun _ _ hentry => congrArg Prod.snd hentry.key) hentries
    rw [hnames]
    exact keys

/-! ## The entries of a document -/

/-- **The entries of a document are those of its subjects, one after the other.** -/
theorem entriesOf_eq_ok_iff : entriesOf table = .ok entries ↔
    ∃ groups, List.Forall₂ GroupAt table groups ∧ groups.flatMap (·.entries) = entries := by
  constructor
  · intro h
    induction table generalizing entries with
    | nil =>
      cases h
      exact ⟨[], .nil, rfl⟩
    | cons member table ih =>
      unfold entriesOf at h
      split at h
      · rename_i heq
        cases heq
      · rename_i subject members rest heq
        cases heq
        obtain ⟨own, hown, h⟩ := exists_of_bind_eq_ok h
        obtain ⟨more, hmore, h⟩ := exists_of_bind_eq_ok h
        cases h
        obtain ⟨groups, hgroups, rfl⟩ := ih hmore
        have hgroup : GroupAt (subject, .table members) ⟨subject, own⟩ :=
          ⟨rfl, members, rfl, subjectEntries_eq_ok_iff.mp hown⟩
        exact ⟨⟨subject, own⟩ :: groups, .cons hgroup hgroups, rfl⟩
      · cases h
  · rintro ⟨groups, h, rfl⟩
    induction h with
    | nil => rfl
    | @cons member g table groups hmember _ ih =>
      obtain ⟨subject, v⟩ := member
      obtain ⟨rfl, members, rfl, hentries⟩ := hmember
      simp only [entriesOf, subjectEntries_eq_ok_iff.mpr hentries, ih]
      rfl

/-- **If the tables hold each key once, the groups of the subjects are parted.** -/
theorem parted_of_groupAt (h : List.Forall₂ GroupAt table groups)
    (hd : (Value.table table).Distinct) : Parted groups := by
  cases hd with
  | table keys values =>
    refine ⟨?_, fun g hg => ?_, fun g hg => ?_⟩
    · rw [map_eq_of_forall₂ (fun _ _ hgroup => hgroup.subject) h]
      exact keys
    · obtain ⟨member, _, hgroup⟩ := exists_left_of_forall₂ h hg
      exact hgroup.own
    · obtain ⟨member, hmember, hgroup⟩ := exists_left_of_forall₂ h hg
      exact hgroup.names (values member hmember)

/-- The entries of a document that can be read come in parted groups. -/
theorem exists_parted_of_load {text : String} (h : SchemaDocument.load text = .ok entries) :
    ∃ groups, Parted groups ∧ groups.flatMap (·.entries) = entries := by
  unfold SchemaDocument.load at h
  split at h
  · cases h
  · rename_i table htable
    obtain ⟨groups, hgroups, hentries⟩ := entriesOf_eq_ok_iff.mp h
    exact ⟨groups, parted_of_groupAt hgroups (Document.distinct_of_ofText? htable), hentries⟩

/-! ## The build -/

theorem variableCount_eq (s : Schema) : s.variableCount = (s.subjects.flatMap (·.vars)).length := by
  rw [Schema.variableCount, List.length_flatMap, List.sum_eq_foldl, List.foldl_map]

/-- **The variables of a schema correspond to entries in parted groups, in the same order.** -/
theorem Parted.forall₂_declares (hp : Parted groups)
    (hb : Schema.build (groups.flatMap (·.entries)) = .ok s) :
    List.Forall₂ (Entry.Declares (groups.flatMap (·.entries))) (groups.flatMap (·.entries))
      (s.subjects.flatMap (·.vars)) := by
  conv => lhs; rw [← hp.flatMap_filter]
  exact List.rel_flatMap (represents_of_build hb) fun _ _ hsubject => hsubject.vars

/-- **The entries of a document that can be read are of different variables, and those of a subject
stand together.  So the build of them reports no repeated declaration, and a schema that it gives
has one variable for each entry, in the order of the entries.** -/
theorem build_of_load {text : String} (h : SchemaDocument.load text = .ok entries) :
    (entries.map Entry.key).Nodup ∧ Together entries ∧
      (∀ faults, Schema.build entries = .error faults →
        ∀ subject name, Fault.declaredTwice subject name ∉ faults) ∧
      ∀ s, Schema.build entries = .ok s →
        List.Forall₂ (Entry.Declares entries) entries (s.subjects.flatMap (·.vars)) ∧
          s.variableCount = entries.length := by
  obtain ⟨groups, hp, rfl⟩ := exists_parted_of_load h
  refine ⟨hp.nodup_map_key, hp.together, fun faults hb subject name hmem => ?_, fun s hb => ?_⟩
  · obtain ⟨hreport, _⟩ := build_eq_error_iff.mp hb
    rw [hreport.declaredTwice_mem_iff, repetitions_eq_nil_iff.mpr hp.nodup_map_key] at hmem
    cases hmem
  · have hvars := hp.forall₂_declares hb
    refine ⟨hvars, ?_⟩
    rw [variableCount_eq]
    exact hvars.length_eq.symm

/-- A document that takes its subjects up again, with a dotted key and an inline table. -/
def reopenedDocument : String :=
  "[cache.SIZE]\ntype='int'\n[store.URL]\ntype='str'\n[cache.TTL]\ntype='int'\n" ++
    "[store]\nMODE=\x7btype='str'\x7d\nDEBUG.type='bool'\n"

/-- Its entries. -/
def reopenedEntries : List Entry :=
  [⟨"cache", "SIZE", "int", "", none, none, []⟩, ⟨"cache", "TTL", "int", "", none, none, []⟩,
    ⟨"store", "URL", "str", "", none, none, []⟩, ⟨"store", "MODE", "str", "", none, none, []⟩,
    ⟨"store", "DEBUG", "bool", "", none, none, []⟩]

theorem build_of_load_reopened : SchemaDocument.load reopenedDocument = .ok reopenedEntries ∧
    (reopenedEntries.map Entry.key).Nodup ∧ Together reopenedEntries ∧
      (∀ faults, Schema.build reopenedEntries = .error faults →
        ∀ subject name, Fault.declaredTwice subject name ∉ faults) ∧
      ∀ s, Schema.build reopenedEntries = .ok s →
        List.Forall₂ (Entry.Declares reopenedEntries) reopenedEntries
            (s.subjects.flatMap (·.vars)) ∧
          s.variableCount = reopenedEntries.length := by
  have hload : SchemaDocument.load reopenedDocument = .ok reopenedEntries := by decide +kernel
  exact ⟨hload, build_of_load hload⟩

end DeclaredEnv
