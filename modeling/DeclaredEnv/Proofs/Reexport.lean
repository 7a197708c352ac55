import DeclaredEnv.Proofs.Built
import DeclaredEnv.Proofs.Parted
import DeclaredEnv.Proofs.ReadBack

/-!
# Schemas written as entries again

* `Variable.toEntry`, `Schema.entries` — a variable, and a schema, as entries: kinds, defaults and
  conditions by their texts.
* `Schema.groups` — these entries, subject by subject.
* `Schema.printed` — the schema with every condition written as its own text.
* `Variable.Readable` — what the build leaves of a variable for its entry to be read again.

Principal results: `declares_toEntry` — a variable says what its entry says.
`wellFormed_entries`, `represents_entries` — nothing is wrong with the entries of a schema that was
built, and the schema has their subjects and variables.  `build_entries` — so they build it again.
-/

namespace DeclaredEnv

open Relation

/-- The variable as it would be written. -/
def Variable.toEntry (v : Variable) : Entry where
  subject := v.subject
  name := v.name
  type := v.kind.token
  description := v.description
  default? := v.default?.map Value.text
  requiredWhen := v.condition.map Condition.text
  applications := v.applications

/-- The variables of a schema as they would be written, in order. -/
def Schema.entries (s : Schema) : List Entry :=
  s.subjects.flatMap fun t => t.vars.map Variable.toEntry

/-- The variable with its condition written as the condition's text. -/
def Variable.printed (v : Variable) : Variable :=
  { v with requiredWhen := v.condition.map Condition.text }

/-- The subject with every condition written as its text. -/
def Subject.printed (t : Subject) : Subject := { t with vars := t.vars.map Variable.printed }

/-- The schema with every condition written as its text. -/
def Schema.printed (s : Schema) : Schema := ⟨s.subjects.map Subject.printed⟩

variable {entries : List Entry} {s : Schema} {t : Subject} {v : Variable} {e : Entry}

/-! ## The entries of a coherent schema -/

theorem mem_entries : e ∈ s.entries ↔ ∃ t ∈ s.subjects, ∃ v ∈ t.vars, v.toEntry = e := by
  simp [Schema.entries]

/-- The entries of a schema, subject by subject. -/
def Schema.groups (s : Schema) : List Group :=
  s.subjects.map fun t => ⟨t.name, t.vars.map Variable.toEntry⟩

theorem flatMap_groups (s : Schema) : s.groups.flatMap (·.entries) = s.entries := by
  rw [Schema.groups, List.flatMap_map, Schema.entries]

theorem parted_groups (hs : s.Coherent) : Parted s.groups := by
  refine ⟨?_, fun g hg e he => ?_, fun g hg => ?_⟩
  · rw [Schema.groups, List.map_map]
    exact hs.names
  · obtain ⟨t, ht, rfl⟩ := List.mem_map.mp hg
    obtain ⟨v, hv, rfl⟩ := List.mem_map.mp he
    exact ((hs.subjects t ht).vars v hv).subject
  · obtain ⟨t, ht, rfl⟩ := List.mem_map.mp hg
    rw [List.map_map]
    exact (hs.subjects t ht).names

theorem nodup_map_key_entries (hs : s.Coherent) : (s.entries.map Entry.key).Nodup := by
  rw [← flatMap_groups]
  exact (parted_groups hs).nodup_map_key

/-- The entries of a subject are those of its variables. -/
theorem filter_entries (hs : s.Coherent) (ht : t ∈ s.subjects) :
    s.entries.filter (·.subject == t.name) = t.vars.map Variable.toEntry := by
  have hgroup : ⟨t.name, t.vars.map Variable.toEntry⟩ ∈ s.groups := List.mem_map_of_mem ht
  rw [← flatMap_groups]
  exact (parted_groups hs).filter_subject hgroup

theorem declarationsOf_entries (hs : s.Coherent) (ht : t ∈ s.subjects) :
    declarationsOf s.entries t.name = t.vars.map Variable.toEntry := by
  rw [declarationsOf_of_nodup (nodup_map_key_entries hs), filter_entries hs ht]

theorem subjectNames_entries (hs : s.Coherent) (hvars : ∀ t ∈ s.subjects, t.vars ≠ []) :
    subjectNames s.entries = s.subjects.map (·.name) := by
  have hall : s.groups.filter (fun g => !g.entries.isEmpty) = s.groups := by
    refine List.filter_eq_self.mpr fun g hg => ?_
    obtain ⟨t, ht, rfl⟩ := List.mem_map.mp hg
    simp [hvars t ht]
  rw [← flatMap_groups, (parted_groups hs).subjectNames_eq, hall, Schema.groups, List.map_map]
  rfl

/-! ## The entry of a variable -/

theorem hasType_toEntry (hv : v.Coherent t) : v.toEntry.HasType v.kind v.default? := by
  cases hd : v.default? with
  | none => exact .plain rfl (by simp [Variable.toEntry, hd])
  | some d =>
    obtain ⟨raw, hread⟩ := hv.default d hd
    exact .default rfl (by simp [Variable.toEntry, hd]) (Base.read?_text_of_read? hread)

/-- A condition that was read from a text is written as one that spells it. -/
theorem spells_text_of_conditionIs {c : Condition} (h : e.ConditionIs entries c) :
    Spells c.text ⟨c.reference, c.expected.toValue.text⟩ := by
  obtain ⟨_, spells, _, _, _, compares⟩ := h
  obtain ⟨_, _, _, hid, hword⟩ := spells
  exact Condition.spells_text hid (compares.literalOf.word_text hword)

/-- What the build of a schema leaves of each variable beside its coherence: the text of its
condition spells the condition, and its applications are named once. -/
structure Variable.Readable (v : Variable) : Prop where
  spells : ∀ c, v.condition = some c → Spells c.text ⟨c.reference, c.expected.toValue.text⟩
  applications : v.applications.Nodup

theorem readable_of_build (h : Schema.build entries = .ok s) (ht : t ∈ s.subjects)
    (hv : v ∈ t.vars) : v.Readable := by
  obtain ⟨e, _, _, hdecl⟩ := exists_entry_of_mem h ht hv
  refine ⟨fun c hc => spells_text_of_conditionIs ((hdecl.condition c).mp hc), ?_⟩
  rw [hdecl.applications]
  exact nodup_eraseDups _

/-- The condition of a variable is the one that its entry denotes. -/
theorem conditionIs_toEntry (hs : s.Coherent) (ht : t ∈ s.subjects) (hv : v ∈ t.vars)
    (hr : v.Readable) {c : Condition} (hc : v.condition = some c) :
    v.toEntry.ConditionIs s.entries c := by
  have hcoherent := (hs.subjects t ht).vars v hv
  obtain ⟨w, hw, hname, word, compares⟩ := hcoherent.condition c hc
  have hsubject : v.toEntry.subject = t.name := hcoherent.subject
  have hdeclared : w.toEntry ∈ declarationsOf s.entries v.toEntry.subject := by
    rw [hsubject, declarationsOf_entries hs ht]
    exact List.mem_map_of_mem hw
  exact .mk (by simp [Variable.toEntry, hc]) (hr.spells c hc) hdeclared hname
    (hasType_toEntry ((hs.subjects t ht).vars w hw)) ⟨compares.present, compares.literalOf.text⟩

/-- **A variable says what its entry says.** -/
theorem declares_toEntry (hs : s.Coherent) (ht : t ∈ s.subjects) (hv : v ∈ t.vars)
    (hr : v.Readable) : v.toEntry.Declares s.entries v.printed := by
  refine ⟨rfl, rfl, hasType_toEntry ((hs.subjects t ht).vars v hv), rfl, rfl,
    (eraseDups_of_nodup hr.applications).symm, fun c => ?_, ?_⟩
  · refine ⟨conditionIs_toEntry hs ht hv hr, fun h => ?_⟩
    cases hc : v.condition with
    | none =>
      obtain ⟨written, _⟩ := h
      simp [Variable.toEntry, hc] at written
    | some d =>
      rw [(conditionIs_toEntry hs ht hv hr hc).unique h] at hc
      exact hc
  · simp [Variable.printed, Variable.toEntry]

/-! ## Building the entries -/

/-- Conditions refer along the same names as the texts that they were read from. -/
theorem refers_of_refers_entries (h : Schema.build entries = .ok s) {subject a b : String}
    (href : Refers s.entries subject a b) : Refers entries subject a b := by
  obtain ⟨e, he, rfl, rfl, text, c, written, spells, rfl⟩ := href
  obtain ⟨t, ht, v, hv, rfl⟩ := mem_entries.mp he
  obtain ⟨condition, hc, rfl⟩ := Option.map_eq_some_iff.mp written
  obtain rfl := ((readable_of_build h ht hv).spells condition hc).unique spells
  obtain ⟨e, he, _, hdecl⟩ := exists_entry_of_mem h ht hv
  obtain ⟨written', spells', _⟩ := (hdecl.condition condition).mp hc
  exact ⟨e, he, hdecl.subject.symm, hdecl.name.symm, _, _, written', spells', rfl⟩

/-- **Nothing is wrong with the entries of a schema that was built.** -/
theorem wellFormed_entries (h : Schema.build entries = .ok s) : WellFormed s.entries := by
  have hs := coherent_of_build h
  refine ⟨nodup_map_key_entries hs, fun e he => ?_, fun e he hsome => ?_, fun subject a ha => ?_⟩
  · obtain ⟨t, ht, v, hv, rfl⟩ := mem_entries.mp he
    exact ⟨_, _, hasType_toEntry ((hs.subjects t ht).vars v hv)⟩
  · obtain ⟨t, ht, v, hv, rfl⟩ := mem_entries.mp he
    have hcondition : v.condition.isSome = true := by simpa [Variable.toEntry] using hsome
    obtain ⟨c, hc⟩ := Option.isSome_iff_exists.mp hcondition
    exact ⟨c, conditionIs_toEntry hs ht hv (readable_of_build h ht hv) hc⟩
  · exact (wellFormed_of_build h).acyclic subject a
      (TransGen.mono (fun _ _ => refers_of_refers_entries h) a a ha)

/-- Each subject of a schema that was built has a variable. -/
theorem vars_ne_nil_of_build (h : Schema.build entries = .ok s) (ht : t ∈ s.subjects) :
    t.vars ≠ [] := by
  have hname : t.name ∈ subjectNames entries :=
    names_of_build h ▸ List.mem_map_of_mem (f := (·.name)) ht
  obtain ⟨e, he, hsubject⟩ := mem_subjectNames.mp hname
  obtain ⟨u, hu, hu_name, v, hv, _⟩ := exists_mem_of_entry h he
  obtain rfl := List.inj_on_of_nodup_map (coherent_of_build h).names hu ht (hu_name.trans hsubject)
  exact List.ne_nil_of_mem hv

/-- **The schema has the subjects and the variables of its entries.** -/
theorem represents_entries (h : Schema.build entries = .ok s) :
    Represents s.entries s.printed := by
  have hs := coherent_of_build h
  rw [Represents, subjectNames_entries hs fun t => vars_ne_nil_of_build h, Schema.printed,
    List.forall₂_map_left_iff, List.forall₂_map_right_iff, List.forall₂_same]
  refine fun t ht => ⟨rfl, ?_⟩
  rw [filter_entries hs ht, Subject.printed, List.forall₂_map_left_iff, List.forall₂_map_right_iff,
    List.forall₂_same]
  exact fun v hv => declares_toEntry hs ht hv (readable_of_build h ht hv)

theorem scopes_printed (s : Schema) : s.printed.scopes = s.scopes := by
  have hneeds : needs s.printed.subjects = needs s.subjects := by
    simp only [needs, Schema.printed, Subject.printed, Variable.printed, List.flatMap_map]
  rw [Schema.scopes, scopesOf_eq, hneeds, ← scopesOf_eq, Schema.scopes]

/-- **A schema that was built is built again by its own entries, with the same scopes; only its
conditions are then written as their own texts.** -/
theorem build_entries (h : Schema.build entries = .ok s) :
    Schema.build s.entries = .ok s.printed ∧ s.printed.scopes = s.scopes := by
  have hw := wellFormed_entries h
  refine ⟨?_, scopes_printed s⟩
  rw [build_of_wellFormed hw, (represents_schemaOf hw).unique (represents_entries h)]

/-- Entries with defaults and a condition that are not written as their own texts. -/
def looseEntries : List Entry :=
  [⟨"store", "CACHED", "bool", "", some " Yes ", none, ["api", "api"]⟩,
    ⟨"store", "RATIO", "float", "", some "1e-1", none, []⟩,
    ⟨"store", "LIMIT", "Optional[int]", "", some "-09223372036854775808", some " CACHED = TRUE",
      ["web", "api"]⟩]

/-- The subject of these. -/
def looseSubject : Subject :=
  ⟨"store", [⟨"store", "CACHED", ⟨.bool, false⟩, some (.bool true), "", none, none, ["api"]⟩,
    ⟨"store", "RATIO", ⟨.float, false⟩,
      some (.float (.finite false 4591870180066957722 (by decide))), "", none, none, []⟩,
    ⟨"store", "LIMIT", ⟨.int, true⟩, some (.int (-9223372036854775808)), "",
      some " CACHED = TRUE", some ⟨"CACHED", .bool true⟩, ["web", "api"]⟩]⟩

theorem build_entries_loose : Schema.build looseEntries = .ok ⟨[looseSubject]⟩ ∧
    Schema.build (Schema.entries ⟨[looseSubject]⟩) = .ok (Schema.printed ⟨[looseSubject]⟩) ∧
      Schema.scopes (Schema.printed ⟨[looseSubject]⟩) = Schema.scopes ⟨[looseSubject]⟩ := by
  have hb : Schema.build looseEntries = .ok ⟨[looseSubject]⟩ := by decide +kernel
  exact ⟨hb, build_entries hb⟩

example : (Schema.entries ⟨[looseSubject]⟩).map (fun e => (e.default?, e.requiredWhen)) =
    [(some "true", none), (some "0.1", none),
      (some "-9223372036854775808", some "CACHED=true")] := by decide +kernel

end DeclaredEnv
