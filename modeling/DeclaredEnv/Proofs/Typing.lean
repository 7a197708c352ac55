import DeclaredEnv.Proofs.Comparison
import DeclaredEnv.Proofs.Declaration

/-!
# What an entry means beside the other entries

* `Entry.HasType`, `Entry.TypeFault` — the kind and the default of an entry, or why it has none.
* `Declared`, `FirstDeclaring` — a subject has a variable of a name; the first one that does.
* `Entry.ConditionIs`, `Entry.ConditionFault` — the condition that the text of an entry denotes, or
  what is wrong with it.

Principal results: `toVariable_eq_ok_iff`, `toVariable_eq_error_iff` — typing an entry by itself
gives exactly its type or its fault.  `condition_eq_ok_some_iff`, `condition_eq_error_iff` — so does
tying its condition to a variable of its subject.  `reads_comparison_iff_spells` — a text that
spells no comparison is malformed, and nothing else is.
-/

namespace DeclaredEnv

/-! ## Types -/

theorem Kind.ofToken?_eq_some_iff {token : String} {k : Kind} :
    Kind.ofToken? token = some k ↔ k.token = token :=
  ⟨Kind.token_of_ofToken?, fun h => h ▸ Kind.ofToken?_token k⟩

theorem Kind.ofToken?_eq_none_iff {token : String} :
    Kind.ofToken? token = none ↔ ∀ k : Kind, k.token ≠ token := by
  rw [Option.eq_none_iff_forall_ne_some]
  exact forall_congr' fun k => not_congr Kind.ofToken?_eq_some_iff

theorem Kind.token_injective {k l : Kind} (h : k.token = l.token) : k = l := by
  have hk := Kind.ofToken?_token k
  rw [h, Kind.ofToken?_token] at hk
  exact (Option.some.inj hk).symm

/-- The kind that the type of an entry writes, and the value of its default, if it has one. -/
inductive Entry.HasType (e : Entry) : Kind → Option Value → Prop where
  | plain {k : Kind} (token : k.token = e.type) (absent : e.default? = none) : HasType e k none
  | default {k : Kind} {raw : String} {value : Value} (token : k.token = e.type)
      (given : e.default? = some raw) (read : k.read? raw = some value) : HasType e k (some value)

/-- Why an entry has no type: it names no kind, or its default is no value of the kind. -/
inductive Entry.TypeFault (e : Entry) : Fault → Prop where
  | unknownType (h : ∀ k : Kind, k.token ≠ e.type) :
      TypeFault e (.unknownType e.subject e.name e.type)
  | defaultMismatch {k : Kind} {raw : String} (token : k.token = e.type)
      (given : e.default? = some raw) (unread : k.read? raw = none) :
      TypeFault e (.defaultMismatch e.subject e.name raw k)

/-- The variable of an entry of the kind and with the default, without its condition. -/
def Entry.variableOf (e : Entry) (k : Kind) (d : Option Value) : Variable :=
  { subject := e.subject, name := e.name, kind := k, default? := d, description := e.description,
    requiredWhen := e.requiredWhen, condition := none,
    applications := firstOccurrences e.applications }

variable {e : Entry}

theorem Entry.HasType.unique {k k' : Kind} {d d' : Option Value} (h : e.HasType k d)
    (h' : e.HasType k' d') : k = k' ∧ d = d' := by
  cases h with
  | plain token absent =>
    cases h' with
    | plain token' => exact ⟨Kind.token_injective (token.trans token'.symm), rfl⟩
    | default _ given' => simp [absent] at given'
  | default token given read =>
    cases h' with
    | plain _ absent' => simp [given] at absent'
    | default token' given' read' =>
      obtain rfl := Kind.token_injective (token.trans token'.symm)
      rw [given] at given'
      cases given'
      exact ⟨rfl, read ▸ read' ▸ rfl⟩

theorem toVariable_of_hasType {k : Kind} {d : Option Value} (h : e.HasType k d) :
    e.toVariable = .ok (e.variableOf k d) := by
  cases h with
  | plain token absent =>
    simp only [Entry.toVariable, Kind.ofToken?_eq_some_iff.mpr token, absent, Entry.variableOf]
  | default token given read =>
    simp only [Entry.toVariable, Kind.ofToken?_eq_some_iff.mpr token, given, read,
      Entry.variableOf]

theorem toVariable_of_typeFault {f : Fault} (h : e.TypeFault f) : e.toVariable = .error f := by
  cases h with
  | unknownType h => simp only [Entry.toVariable, Kind.ofToken?_eq_none_iff.mpr h]
  | defaultMismatch token given unread =>
    simp only [Entry.toVariable, Kind.ofToken?_eq_some_iff.mpr token, given, unread]

theorem hasType_or_typeFault (e : Entry) : (∃ k d, e.HasType k d) ∨ ∃ f, e.TypeFault f := by
  cases hk : Kind.ofToken? e.type with
  | none => exact .inr ⟨_, .unknownType (Kind.ofToken?_eq_none_iff.mp hk)⟩
  | some k =>
    have token := Kind.ofToken?_eq_some_iff.mp hk
    cases given : e.default? with
    | none => exact .inl ⟨k, none, .plain token given⟩
    | some raw =>
      cases hr : k.read? raw with
      | none => exact .inr ⟨_, .defaultMismatch token given hr⟩
      | some value => exact .inl ⟨k, some value, .default token given hr⟩

/-- **An entry gives a variable exactly if it has a type.** -/
theorem toVariable_eq_ok_iff {v : Variable} :
    e.toVariable = .ok v ↔ ∃ k d, e.HasType k d ∧ v = e.variableOf k d := by
  constructor
  · intro h
    rcases hasType_or_typeFault e with ⟨k, d, ht⟩ | ⟨f, hf⟩
    · rw [toVariable_of_hasType ht] at h
      cases h
      exact ⟨k, d, ht, rfl⟩
    · rw [toVariable_of_typeFault hf] at h
      cases h
  · rintro ⟨k, d, ht, rfl⟩
    exact toVariable_of_hasType ht

/-- **An entry has a fault of its own exactly if it has no type.** -/
theorem toVariable_eq_error_iff {f : Fault} : e.toVariable = .error f ↔ e.TypeFault f := by
  constructor
  · intro h
    rcases hasType_or_typeFault e with ⟨k, d, ht⟩ | ⟨f', hf⟩
    · rw [toVariable_of_hasType ht] at h
      cases h
    · rw [toVariable_of_typeFault hf] at h
      cases h
      exact hf
  · exact toVariable_of_typeFault

theorem Entry.TypeFault.unique {f f' : Fault} (h : e.TypeFault f) (h' : e.TypeFault f') :
    f = f' :=
  Except.error.inj ((toVariable_of_typeFault h).symm.trans (toVariable_of_typeFault h'))

theorem Entry.TypeFault.not_hasType {f : Fault} (h : e.TypeFault f) {k : Kind} {d : Option Value} :
    ¬e.HasType k d := by
  intro ht
  have hok := toVariable_of_hasType ht
  rw [toVariable_of_typeFault h] at hok
  cases hok

/-! ## Declared variables -/

/-- An entry declares a variable of the name for the subject. -/
def Declared (entries : List Entry) (subject name : String) : Prop :=
  ∃ d ∈ entries, d.subject = subject ∧ d.name = name

/-- The first of the subjects, in the order in which they first appear, that has a variable of the
name. -/
def FirstDeclaring (entries : List Entry) (name subject : String) : Prop :=
  ∃ before after, subjectNames entries = before ++ subject :: after ∧
    Declared entries subject name ∧ ∀ s ∈ before, ¬Declared entries s name

variable {entries : List Entry}

/-- The group of a subject. -/
def groupOf (entries : List Entry) (subject : String) : Group :=
  ⟨subject, declarationsOf entries subject⟩

theorem groupsOf_eq_map (entries : List Entry) :
    groupsOf entries = (subjectNames entries).map (groupOf entries) := rfl

theorem declared_iff {subject name : String} :
    Declared entries subject name ↔ ∃ d ∈ declarationsOf entries subject, d.name = name := by
  constructor
  · rintro ⟨e, he, rfl, rfl⟩
    obtain ⟨d, hd, hkey⟩ := exists_mem_declarations he
    obtain ⟨hs, hname⟩ := Prod.mk.injEq .. ▸ hkey
    exact ⟨d, mem_declarationsOf.mpr ⟨hd, hs⟩, hname⟩
  · rintro ⟨d, hd, rfl⟩
    obtain ⟨hd, hs⟩ := mem_declarationsOf.mp hd
    exact ⟨d, mem_of_mem_declarations hd, hs, rfl⟩

theorem declares_groupOf {subject name : String} :
    (groupOf entries subject).declares name = true ↔ Declared entries subject name := by
  rw [declared_iff]
  simp [Group.declares, groupOf]

theorem entry?_groupOf_eq_some_iff {subject name : String} {d : Entry} :
    Group.entry? (groupOf entries subject) name = some d ↔
      d ∈ declarationsOf entries subject ∧ d.name = name :=
  find?_key_eq_some_iff (nodup_map_name_declarationsOf entries subject)

theorem entry?_groupOf_eq_none_iff {subject name : String} :
    Group.entry? (groupOf entries subject) name = none ↔ ¬Declared entries subject name := by
  rw [declared_iff, Group.entry?, groupOf, find?_key_eq_none_iff]
  simp

theorem mem_subjectNames_of_declared {subject name : String} (h : Declared entries subject name) :
    subject ∈ subjectNames entries := by
  obtain ⟨d, hd, rfl, _⟩ := h
  exact mem_subjectNames.mpr ⟨d, hd, rfl⟩

/-- The search for another subject that has a variable of the name. -/
theorem find?_groupsOf (entries : List Entry) (subject name : String) :
    (groupsOf entries).find? (fun g => g.subject != subject && g.declares name) =
      ((subjectNames entries).find? fun s => s != subject && (groupOf entries s).declares name).map
        (groupOf entries) := by
  rw [groupsOf_eq_map, List.find?_map]
  rfl

theorem strayReference_of_firstDeclaring {name other : String}
    (h : ¬Declared entries e.subject name) (ho : FirstDeclaring entries name other) :
    strayReference (groupsOf entries) e name = .otherSubject e.subject e.name name other := by
  obtain ⟨before, after, hsplit, hdecl, hbefore⟩ := ho
  have hne : other ≠ e.subject := fun heq => h (heq ▸ hdecl)
  have hfind : (subjectNames entries).find? (fun s => s != e.subject &&
      (groupOf entries s).declares name) = some other := by
    rw [List.find?_eq_some_iff_append]
    refine ⟨by simp [hne, declares_groupOf.mpr hdecl], before, after, hsplit, fun s hs => ?_⟩
    have hs' : (groupOf entries s).declares name = false := by
      rw [← Bool.not_eq_true, declares_groupOf]
      exact hbefore s hs
    simp [hs']
  rw [strayReference, find?_groupsOf, hfind]
  rfl

theorem strayReference_of_not_declared {name : String} (h : ∀ s, ¬Declared entries s name) :
    strayReference (groupsOf entries) e name = .unknownReference e.subject e.name name := by
  have hfind : (subjectNames entries).find? (fun s => s != e.subject &&
      (groupOf entries s).declares name) = none := by
    rw [List.find?_eq_none]
    intro s _
    simp [Bool.eq_false_iff.mpr fun hs => h s (declares_groupOf.mp hs)]
  rw [strayReference, find?_groupsOf, hfind]
  rfl

/-- Of the subjects that have a variable of a name one comes first. -/
theorem exists_firstDeclaring {name : String} (h : ∃ s, Declared entries s name) :
    ∃ subject, FirstDeclaring entries name subject := by
  obtain ⟨s, hs⟩ := h
  have hsome :
      ((subjectNames entries).find? fun s => (groupOf entries s).declares name).isSome := by
    rw [List.find?_isSome]
    exact ⟨s, mem_subjectNames_of_declared hs, declares_groupOf.mpr hs⟩
  obtain ⟨first, hfirst⟩ := Option.isSome_iff_exists.mp hsome
  obtain ⟨hdecl, before, after, hsplit, hbefore⟩ := List.find?_eq_some_iff_append.mp hfirst
  refine ⟨first, before, after, hsplit, declares_groupOf.mp hdecl, fun s hs hd => ?_⟩
  have hno := hbefore s hs
  rw [declares_groupOf.mpr hd] at hno
  cases hno

/-! ## Conditions -/

/-- The condition that the text of an entry denotes: a comparison with a variable of the same
subject that has a type, and can be compared with the word. -/
inductive Entry.ConditionIs (entries : List Entry) (e : Entry) : Condition → Prop where
  | mk {text : String} {c : Comparison} {d : Entry} {k : Kind} {default? : Option Value}
      {l : Literal} (written : e.requiredWhen = some text) (spells : Spells text c)
      (declared : d ∈ declarationsOf entries e.subject) (name : d.name = c.reference)
      (type : d.HasType k default?) (compares : k.Compares default? c.literal l) :
      ConditionIs entries e ⟨c.reference, l⟩

/-- What is wrong with the text of an entry's condition. -/
inductive Entry.ConditionFault (entries : List Entry) (e : Entry) : Fault → Prop where
  | malformed {text : String} (written : e.requiredWhen = some text) (h : ∀ c, ¬Spells text c) :
      ConditionFault entries e (.malformedCondition e.subject e.name text)
  | otherSubject {text : String} {c : Comparison} {other : String}
      (written : e.requiredWhen = some text) (spells : Spells text c)
      (undeclared : ¬Declared entries e.subject c.reference)
      (first : FirstDeclaring entries c.reference other) :
      ConditionFault entries e (.otherSubject e.subject e.name c.reference other)
  | unknownReference {text : String} {c : Comparison} (written : e.requiredWhen = some text)
      (spells : Spells text c) (undeclared : ∀ s, ¬Declared entries s c.reference) :
      ConditionFault entries e (.unknownReference e.subject e.name c.reference)
  | notComparable {text : String} {c : Comparison} {d : Entry} {k : Kind}
      {default? : Option Value} {reason : NotComparable} (written : e.requiredWhen = some text)
      (spells : Spells text c) (declared : d ∈ declarationsOf entries e.subject)
      (name : d.name = c.reference) (type : d.HasType k default?)
      (refuses : k.Refuses default? c.literal reason) :
      ConditionFault entries e (.notComparable e.subject e.name c.reference reason)

/-- The text of an entry's condition names a variable of its subject that has no type. -/
def Entry.RefersToUntyped (entries : List Entry) (e : Entry) : Prop :=
  ∃ text c d f, e.requiredWhen = some text ∧ Spells text c ∧
    d ∈ declarationsOf entries e.subject ∧ d.name = c.reference ∧ d.TypeFault f

section Condition

variable {groups : List Group}

theorem condition_of_requiredWhen_none (h : e.requiredWhen = none) {g : Group} :
    g.condition groups e = .ok none := by
  simp only [Group.condition, h]

theorem condition_of_conditionIs {c : Condition} (h : e.ConditionIs entries c) :
    (groupOf entries e.subject).condition groups e = .ok (some c) := by
  obtain ⟨written, spells, declared, name, type, compares⟩ := h
  simp only [Group.condition, written, ofText?_eq_some_iff.mpr spells,
    entry?_groupOf_eq_some_iff.mpr ⟨declared, name⟩, toVariable_of_hasType type, Entry.variableOf,
    bind_eq_ok_iff.mpr ⟨_, compares, rfl⟩]

theorem Entry.ConditionIs.unique {c c' : Condition} (hc : e.ConditionIs entries c)
    (hc' : e.ConditionIs entries c') : c = c' := by
  have h : (groupOf entries e.subject).condition [] e = .ok (some c) := condition_of_conditionIs hc
  rw [condition_of_conditionIs hc'] at h
  exact (Option.some.inj (Except.ok.inj h)).symm

theorem condition_of_conditionFault {f : Fault} (h : e.ConditionFault entries f) :
    (groupOf entries e.subject).condition (groupsOf entries) e = .error f := by
  cases h with
  | malformed written h => simp only [Group.condition, written, ofText?_eq_none_iff.mpr h]
  | otherSubject written spells undeclared first =>
    simp only [Group.condition, written, ofText?_eq_some_iff.mpr spells,
      entry?_groupOf_eq_none_iff.mpr undeclared, strayReference_of_firstDeclaring undeclared first]
  | unknownReference written spells undeclared =>
    simp only [Group.condition, written, ofText?_eq_some_iff.mpr spells,
      entry?_groupOf_eq_none_iff.mpr (undeclared e.subject),
      strayReference_of_not_declared undeclared]
  | notComparable written spells declared name type refuses =>
    simp only [Group.condition, written, ofText?_eq_some_iff.mpr spells,
      entry?_groupOf_eq_some_iff.mpr ⟨declared, name⟩, toVariable_of_hasType type,
      Entry.variableOf, bind_eq_error_iff.mpr refuses]

theorem condition_of_refersToUntyped (h : e.RefersToUntyped entries) :
    (groupOf entries e.subject).condition groups e = .ok none := by
  obtain ⟨text, c, d, f, written, spells, declared, name, fault⟩ := h
  simp only [Group.condition, written, ofText?_eq_some_iff.mpr spells,
    entry?_groupOf_eq_some_iff.mpr ⟨declared, name⟩, toVariable_of_typeFault fault]

/-- A text that is written denotes a condition, has a fault, or names a variable without a type. -/
theorem condition_cases (entries : List Entry) {text : String}
    (written : e.requiredWhen = some text) :
    (∃ c, e.ConditionIs entries c) ∨ (∃ f, e.ConditionFault entries f) ∨
      e.RefersToUntyped entries := by
  cases hc : Comparison.ofText? text with
  | none => exact .inr (.inl ⟨_, .malformed written (ofText?_eq_none_iff.mp hc)⟩)
  | some c =>
    have spells := ofText?_eq_some_iff.mp hc
    by_cases hd : Declared entries e.subject c.reference
    · obtain ⟨d, declared, name⟩ := declared_iff.mp hd
      rcases hasType_or_typeFault d with ⟨k, default?, type⟩ | ⟨f, fault⟩
      · cases hb : c.bind k default?.isSome with
        | ok condition =>
          obtain ⟨l, compares, _⟩ := bind_eq_ok_iff.mp hb
          exact .inl ⟨_, .mk written spells declared name type compares⟩
        | error reason =>
          have refuses := bind_eq_error_iff.mp hb
          exact .inr (.inl ⟨_, .notComparable written spells declared name type refuses⟩)
      · exact .inr (.inr ⟨text, c, d, f, written, spells, declared, name, fault⟩)
    · by_cases hs : ∃ s, Declared entries s c.reference
      · obtain ⟨other, first⟩ := exists_firstDeclaring hs
        exact .inr (.inl ⟨_, .otherSubject written spells hd first⟩)
      · exact .inr (.inl ⟨_, .unknownReference written spells (not_exists.mp hs)⟩)

/-- What becomes of the text of an entry's condition. -/
theorem condition_outcome (entries : List Entry) (e : Entry) :
    (∃ c, e.ConditionIs entries c ∧
      (groupOf entries e.subject).condition (groupsOf entries) e = .ok (some c)) ∨
    (∃ f, e.ConditionFault entries f ∧
      (groupOf entries e.subject).condition (groupsOf entries) e = .error f) ∨
    (groupOf entries e.subject).condition (groupsOf entries) e = .ok none := by
  cases written : e.requiredWhen with
  | none => exact .inr (.inr (condition_of_requiredWhen_none written))
  | some text =>
    rcases condition_cases entries written with ⟨c, hc⟩ | ⟨f, hf⟩ | hu
    · exact .inl ⟨c, hc, condition_of_conditionIs hc⟩
    · exact .inr (.inl ⟨f, hf, condition_of_conditionFault hf⟩)
    · exact .inr (.inr (condition_of_refersToUntyped hu))

/-- **An entry has a condition exactly if its text denotes one.** -/
theorem condition_eq_ok_some_iff {c : Condition} :
    (groupOf entries e.subject).condition (groupsOf entries) e = .ok (some c) ↔
      e.ConditionIs entries c := by
  constructor
  · intro h
    rcases condition_outcome entries e with ⟨c', hc, hok⟩ | ⟨f, _, herror⟩ | hnone
    · rw [hok] at h
      cases h
      exact hc
    · rw [herror] at h
      cases h
    · rw [hnone] at h
      cases h
  · exact condition_of_conditionIs

/-- **The condition of an entry has exactly the fault that its text has.** -/
theorem condition_eq_error_iff {f : Fault} :
    (groupOf entries e.subject).condition (groupsOf entries) e = .error f ↔
      e.ConditionFault entries f := by
  constructor
  · intro h
    rcases condition_outcome entries e with ⟨c, _, hok⟩ | ⟨f', hf, herror⟩ | hnone
    · rw [hok] at h
      cases h
    · rw [herror] at h
      cases h
      exact hf
    · rw [hnone] at h
      cases h
  · exact condition_of_conditionFault

theorem strayReference_ne_malformedCondition {name s n x : String} :
    strayReference groups e name ≠ .malformedCondition s n x := by
  unfold strayReference
  split <;> simp

/-- A condition is malformed exactly if its text spells no comparison, whatever else its group and
the other groups hold. -/
theorem condition_eq_malformedCondition_iff {text s n x : String} {g : Group}
    (written : e.requiredWhen = some text) :
    g.condition groups e = .error (.malformedCondition s n x) ↔
      (∀ c, ¬Spells text c) ∧ s = e.subject ∧ n = e.name ∧ x = text := by
  cases hread : Comparison.ofText? text with
  | none =>
    simp only [Group.condition, written, hread, Except.error.injEq, Fault.malformedCondition.injEq]
    constructor
    · rintro ⟨rfl, rfl, rfl⟩
      exact ⟨ofText?_eq_none_iff.mp hread, rfl, rfl, rfl⟩
    · rintro ⟨_, rfl, rfl, rfl⟩
      exact ⟨rfl, rfl, rfl⟩
  | some c =>
    have hspells : Spells text c := ofText?_eq_some_iff.mp hread
    constructor
    · -- what can be wrong with a comparison that was read is something else
      intro h
      simp only [Group.condition, written, hread] at h
      split at h
      · exact absurd (Except.error.inj h) strayReference_ne_malformedCondition
      · split at h
        · cases h
        · split at h <;> cases h
    · exact fun h => absurd hspells (h.1 c)

/-- **A text reads as a comparison exactly if it spells it, and it spells one at most.  For any other
text, and for no other reason, an entry is reported with a malformed condition: this very text.** -/
theorem reads_comparison_iff_spells (text : String) :
    (∀ c, Comparison.ofText? text = some c ↔ Spells text c) ∧
      (∀ c d, Spells text c → Spells text d → c = d) ∧
      ∀ (g : Group) (groups : List Group) (e : Entry), e.requiredWhen = some text →
        ∀ s n x, g.condition groups e = .error (.malformedCondition s n x) ↔
          (∀ c, ¬Spells text c) ∧ s = e.subject ∧ n = e.name ∧ x = text :=
  ⟨fun _ => ofText?_eq_some_iff, fun _ _ => Spells.unique, fun _ _ _ written _ _ _ =>
    condition_eq_malformedCondition_iff written⟩

/-- An entry with a chain of comparisons as its condition. -/
def chainedEntry : Entry := ⟨"http", "API_URL", "str", "", none, some "API_MODE = live=test", []⟩

theorem reads_comparison_iff_spells_chained :
    Spells "\u00a0API_MODE\t=\u3000live!\n" ⟨"API_MODE", "live!"⟩ ∧
      (∀ d, Spells "\u00a0API_MODE\t=\u3000live!\n" d → d = ⟨"API_MODE", "live!"⟩) ∧
      chainedEntry.requiredWhen = some "API_MODE = live=test" ∧
      (∀ c, ¬Spells "API_MODE = live=test" c) ∧
      Group.condition ⟨"http", [chainedEntry]⟩ [] chainedEntry =
        .error (.malformedCondition "http" "API_URL" "API_MODE = live=test") := by
  obtain ⟨hreads, hunique, _⟩ := reads_comparison_iff_spells "\u00a0API_MODE\t=\u3000live!\n"
  have hspells : Spells "\u00a0API_MODE\t=\u3000live!\n" ⟨"API_MODE", "live!"⟩ :=
    (hreads _).mp (by decide +kernel)
  have hmalformed : Group.condition ⟨"http", [chainedEntry]⟩ [] chainedEntry =
      .error (.malformedCondition "http" "API_URL" "API_MODE = live=test") := by decide +kernel
  refine ⟨hspells, fun d hd => hunique d _ hd hspells, rfl, ?_, hmalformed⟩
  exact (((reads_comparison_iff_spells "API_MODE = live=test").2.2 _ _ _ rfl _ _ _).mp
    hmalformed).1

end Condition

/-! ## The variable of an entry -/

theorem typed?_of_typeFault {f : Fault} {g : Group} {groups : List Group} (h : e.TypeFault f) :
    g.typed? groups e = none := by
  simp only [Group.typed?, toVariable_of_typeFault h]

theorem typed?_of_hasType (entries : List Entry) {k : Kind} {d : Option Value}
    (h : e.HasType k d) : ∃ condition, (∀ c, condition = some c ↔ e.ConditionIs entries c) ∧
      (groupOf entries e.subject).typed? (groupsOf entries) e =
        some { e.variableOf k d with condition } := by
  have hiff {c : Condition} : (groupOf entries e.subject).condition (groupsOf entries) e =
      .ok (some c) ↔ e.ConditionIs entries c := condition_eq_ok_some_iff
  cases hc : (groupOf entries e.subject).condition (groupsOf entries) e with
  | ok condition =>
    refine ⟨condition, fun c => ?_, by simp only [Group.typed?, toVariable_of_hasType h, hc]⟩
    rw [← hiff, hc, Except.ok.injEq]
  | error f =>
    refine ⟨none, fun c => ?_, by simp only [Group.typed?, toVariable_of_hasType h, hc,
      Entry.variableOf]⟩
    rw [← hiff, hc]
    simp

/-- **An entry stands for a variable of its subject exactly if it has a type.** -/
theorem typed?_eq_some_iff {v : Variable} :
    (groupOf entries e.subject).typed? (groupsOf entries) e = some v ↔
      ∃ k d condition, e.HasType k d ∧ (∀ c, condition = some c ↔ e.ConditionIs entries c) ∧
        v = { e.variableOf k d with condition } := by
  constructor
  · intro h
    rcases hasType_or_typeFault e with ⟨k, d, ht⟩ | ⟨f, hf⟩
    · obtain ⟨condition, hc, htyped⟩ := typed?_of_hasType entries ht
      rw [htyped] at h
      exact ⟨k, d, condition, ht, hc, (Option.some.inj h).symm⟩
    · rw [typed?_of_typeFault hf] at h
      cases h
  · rintro ⟨k, d, condition, ht, hc, rfl⟩
    obtain ⟨condition', hc', htyped⟩ := typed?_of_hasType entries ht
    have heq : condition' = condition := Option.ext fun c => (hc' c).trans (hc c).symm
    rw [htyped, heq]

end DeclaredEnv
