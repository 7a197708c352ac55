import DeclaredEnv.Proofs.VariableTable

/-!
# The shape of a document, and the first thing that is wrong with it

* `IsDocument` — the tables that give entries.
* `variableTables` — the tables of the variables of a document, in order.
* `VariableFault`, `SubjectFault` — what is wrong with a variable and with a subject.

Principal results: `subjectEntries_eq_error_iff`, `entriesOf_eq_error_iff` — the entries of a subject
and of a document fail with the first fault.  `entriesOf_by_shape` — a document of the right shape
gives one entry for each table of a variable, in order, and any other its first fault.
-/

namespace DeclaredEnv

open Toml

/-! ## The document -/

/-- The document consists of tables of subjects, and these of tables of variables. -/
def IsDocument (table : Table) : Prop :=
  ∀ subject ∈ table, ∃ members, subject.2 = .table members ∧
    ∀ member ∈ members, ∃ fields, member.2 = .table fields ∧ IsVariable fields

/-- The table that a value is. -/
def Toml.Value.table? : Toml.Value → Option Table
  | .table fields => some fields
  | _ => none

theorem table?_table (fields : Table) : (Toml.Value.table fields).table? = some fields := rfl

/-- The tables in the table of a subject. -/
def variableTablesOf (subject : String × Toml.Value) : List VariableTable :=
  (subject.2.table?.getD []).filterMap fun member =>
    member.2.table?.map (VariableTable.mk subject.1 member.1)

/-- The tables of a document that stand where those of variables do, in order. -/
def variableTables (table : Table) : List VariableTable := table.flatMap variableTablesOf

/-- What is wrong with a member of the table of a subject: it is no table, or the table of a
variable has a fault. -/
inductive VariableFault (subject : String) (member : String × Toml.Value) : LoadError → Prop where
  | notVariable (h : ∀ fields, member.2 ≠ .table fields) :
      VariableFault subject member
        (.invalidEntry (subject ++ "." ++ member.1) (.notVariable member.2.typeName))
  | fields {fields : Table} {f : EntryFault} (h : member.2 = .table fields)
      (first : FirstFault (Check.Finds fields) Check.inOrder f) :
      VariableFault subject member (.invalidEntry (subject ++ "." ++ member.1) f)

/-- What is wrong with a member of a document: it is no table, or a variable in it has a fault. -/
inductive SubjectFault (subject : String × Toml.Value) : LoadError → Prop where
  | notVariables (h : ∀ members, subject.2 ≠ .table members) :
      SubjectFault subject (.invalidEntry subject.1 (.notVariables subject.2.typeName))
  | members {members : Table} {e : LoadError} (h : subject.2 = .table members)
      (first : FirstFault (VariableFault subject.1) members e) : SubjectFault subject e

section Document

variable {subject : String} {member : String × Toml.Value} {members table : Table}
  {entries : List Entry} {e : LoadError} {g : Group}

/-- The entries of a member of a document. -/
def memberEntries (member : String × Toml.Value) : Except LoadError (List Entry) :=
  match member.2 with
  | .table members => subjectEntries member.1 members
  | other => .error (.invalidEntry member.1 (.notVariables other.typeName))

theorem entriesOf_eq_mapM (table : Table) :
    entriesOf table = List.flatten <$> table.mapM memberEntries := by
  induction table with
  | nil => rfl
  | cons member table ih =>
    obtain ⟨subject, v⟩ := member
    rw [List.mapM_cons]
    cases v with
    | table members =>
      simp only [entriesOf, ih, memberEntries]
      cases subjectEntries subject members with
      | error e => rfl
      | ok own => cases table.mapM memberEntries <;> rfl
    | scalar | array => rfl

theorem memberEntry_eq_error_iff :
    memberEntry subject member = .error e ↔ VariableFault subject member e := by
  constructor
  · intro h
    unfold memberEntry at h
    split at h
    · rename_i fields hfields
      split at h <;> cases h
      rename_i hentry
      exact .fields hfields (entryOf_eq_error_iff.mp hentry)
    · rename_i hother
      cases h
      exact .notVariable hother
  · rintro (hother | ⟨hfields, first⟩)
    · unfold memberEntry
      split
      · rename_i hfields
        exact absurd hfields (hother _)
      · rfl
    · simp only [memberEntry, hfields, entryOf_eq_error_iff.mpr first]

/-- **The entries of a subject fail with the fault of the first member that has one.** -/
theorem subjectEntries_eq_error_iff : subjectEntries subject members = .error e ↔
    FirstFault (VariableFault subject) members e := by
  rw [subjectEntries_eq_mapM, mapM_eq_error_iff]
  exact firstFault_congr fun _ _ => memberEntry_eq_error_iff

theorem memberEntries_eq_error_iff : memberEntries member = .error e ↔ SubjectFault member e := by
  constructor
  · intro h
    unfold memberEntries at h
    split at h
    · rename_i members hmembers
      exact .members hmembers (subjectEntries_eq_error_iff.mp h)
    · rename_i hother
      cases h
      exact .notVariables hother
  · rintro (hother | ⟨hmembers, first⟩)
    · unfold memberEntries
      split
      · rename_i hmembers
        exact absurd hmembers (hother _)
      · rfl
    · simp only [memberEntries, hmembers, subjectEntries_eq_error_iff.mpr first]

/-- **The entries of a document fail with the fault of the first subject that has one.** -/
theorem entriesOf_eq_error_iff : entriesOf table = .error e ↔ FirstFault SubjectFault table e := by
  rw [entriesOf_eq_mapM, map_eq_error_iff, mapM_eq_error_iff]
  exact firstFault_congr fun _ _ => memberEntries_eq_error_iff

/-- The entry of a member is the transcription of its table. -/
theorem entryAt_iff {e : Entry} : EntryAt subject member e ↔
    ∃ fields, member.2 = .table fields ∧ IsVariable fields ∧
      Transcribes ⟨subject, member.1, fields⟩ e := by
  constructor
  · rintro ⟨fields, hfields, he⟩
    exact ⟨fields, hfields, (isVariable_iff _ _).mpr ⟨e, he⟩, (entryOf_eq_ok_iff.mp he).2⟩
  · rintro ⟨fields, hfields, shape, transcribes⟩
    exact ⟨fields, hfields, entryOf_eq_ok_iff.mpr ⟨shape.keys, transcribes⟩⟩

theorem transcribes_of_groupAt (h : GroupAt member g) :
    List.Forall₂ Transcribes (variableTablesOf member) g.entries := by
  obtain ⟨members, hmembers, hentries⟩ := h.entries
  simp only [variableTablesOf, hmembers, table?_table, Option.getD_some]
  generalize g.entries = entries at hentries ⊢
  clear hmembers
  induction hentries with
  | nil => exact .nil
  | cons hentry _ ih =>
    obtain ⟨fields, hfields, _, transcribes⟩ := entryAt_iff.mp hentry
    rw [List.filterMap_cons]
    simp only [hfields, table?_table, Option.map_some]
    exact .cons transcribes ih

/-- The entries of a document are the transcriptions of the tables of its variables. -/
theorem transcribes_of_entriesOf (h : entriesOf table = .ok entries) :
    List.Forall₂ Transcribes (variableTables table) entries := by
  obtain ⟨groups, hgroups, rfl⟩ := entriesOf_eq_ok_iff.mp h
  exact List.rel_flatMap hgroups fun _ _ => transcribes_of_groupAt

theorem isDocument_of_entriesOf (h : entriesOf table = .ok entries) : IsDocument table := by
  obtain ⟨groups, hgroups, rfl⟩ := entriesOf_eq_ok_iff.mp h
  intro subject hsubject
  obtain ⟨g, _, hgroup⟩ := exists_right_of_forall₂ hgroups hsubject
  obtain ⟨members, hmembers, hentries⟩ := hgroup.entries
  refine ⟨members, hmembers, fun member hmember => ?_⟩
  obtain ⟨e, _, hentry⟩ := exists_right_of_forall₂ hentries hmember
  obtain ⟨fields, hfields, shape, _⟩ := entryAt_iff.mp hentry
  exact ⟨fields, hfields, shape⟩

theorem IsDocument.exists_entries (h : IsDocument table) :
    ∃ entries, entriesOf table = .ok entries := by
  cases hentries : entriesOf table with
  | ok entries => exact ⟨entries, rfl⟩
  | error e =>
    -- the place of the fault would not have the shape that it has to have
    exfalso
    obtain ⟨_, subject, _, rfl, _, fault⟩ := entriesOf_eq_error_iff.mp hentries
    obtain ⟨members, hmembers, hshape⟩ := h subject (by simp)
    cases fault with
    | notVariables hother => exact hother members hmembers
    | members hmembers' first =>
      obtain ⟨_, member, _, rfl, _, fault⟩ := first
      rw [hmembers] at hmembers'
      cases hmembers'
      obtain ⟨fields, hfields, shape⟩ := hshape member (by simp)
      cases fault with
      | notVariable hother => exact hother fields hfields
      | fields hfields' first =>
        rw [hfields] at hfields'
        cases hfields'
        obtain ⟨e, he⟩ := (isVariable_iff subject.1 member.1).mp shape
        rw [entryOf_eq_error_iff.mpr first] at he
        cases he

theorem exists_table_of_load {text : String}
    (h : SchemaDocument.load text ≠ .error .invalidToml) :
    ∃ table, Document.ofText? text = some table := by
  cases htable : Document.ofText? text with
  | none =>
    refine absurd ?_ h
    simp only [SchemaDocument.load, htable]
  | some table => exact ⟨table, rfl⟩

/-- **A document gives entries exactly if it has the shape of one: one entry for each table of a
variable, in order, with the fields of the table.  Otherwise it gives the fault of the first place
that has one.** -/
theorem entriesOf_by_shape (table : Table) :
    ((∃ entries, entriesOf table = .ok entries) ↔ IsDocument table) ∧
      (∀ entries, entriesOf table = .ok entries ↔
        IsDocument table ∧ List.Forall₂ Transcribes (variableTables table) entries) ∧
      (∀ e, entriesOf table = .error e ↔ FirstFault SubjectFault table e) ∧
      ∀ text, Document.ofText? text = some table → SchemaDocument.load text = entriesOf table := by
  refine ⟨⟨fun ⟨_, h⟩ => isDocument_of_entriesOf h, IsDocument.exists_entries⟩,
    fun entries => ⟨fun h => ⟨isDocument_of_entriesOf h, transcribes_of_entriesOf h⟩, ?_⟩,
    fun _ => entriesOf_eq_error_iff, fun text h => ?_⟩
  · rintro ⟨shape, transcribes⟩
    obtain ⟨entries', hentries⟩ := shape.exists_entries
    rw [hentries, Transcribes.unique.forall₂ transcribes (transcribes_of_entriesOf hentries)]
  · simp only [SchemaDocument.load, h]

/-- A document with several faults: the second variable has a key that is not known and a type that
is no text, and the second subject a variable that is no table. -/
def misplacedDocument : String :=
  "[http.API_URL]\ntype='str'\n[http.API_PORT]\ntype=8000\nkind='int'\n[vault]\nTOKEN=true\n"

theorem entriesOf_by_shape_misplaced :
    (∃ table, Document.ofText? reopenedDocument = some table ∧ IsDocument table ∧
      List.Forall₂ Transcribes (variableTables table) reopenedEntries) ∧
    ∃ table, Document.ofText? misplacedDocument = some table ∧ ¬IsDocument table ∧
      SchemaDocument.load misplacedDocument = entriesOf table ∧
      FirstFault SubjectFault table (.invalidEntry "http.API_PORT" (.unknownKey "kind")) := by
  constructor
  · have hload : SchemaDocument.load reopenedDocument = .ok reopenedEntries := by decide +kernel
    obtain ⟨table, htable⟩ : ∃ table, Document.ofText? reopenedDocument = some table :=
      exists_table_of_load (by rw [hload]; nofun)
    obtain ⟨_, hentries, _, htext⟩ := entriesOf_by_shape table
    exact ⟨table, htable, (hentries _).mp ((htext _ htable).symm.trans hload)⟩
  · have hload : SchemaDocument.load misplacedDocument =
        .error (.invalidEntry "http.API_PORT" (.unknownKey "kind")) := by decide +kernel
    obtain ⟨table, htable⟩ : ∃ table, Document.ofText? misplacedDocument = some table :=
      exists_table_of_load (by rw [hload]; nofun)
    obtain ⟨hshape, _, hfault, htext⟩ := entriesOf_by_shape table
    have heq : SchemaDocument.load misplacedDocument = entriesOf table := htext _ htable
    refine ⟨table, htable, fun h => ?_, heq, (hfault _).mp (heq ▸ hload)⟩
    obtain ⟨entries, hentries⟩ := hshape.mpr h
    rw [← heq, hload] at hentries
    cases hentries

end Document

end DeclaredEnv
