import DeclaredEnv.Proofs.CrossReading
import DeclaredEnv.Proofs.DocumentEntries

/-!
# The table of a variable, and the first thing that is wrong with it

* `TextOf`, `DefaultOf`, `NamesOf` — what a value of a document says where a text, a default or
  names are expected.
* `Refused`, `NamesFault` — the fault of a value that says nothing there; `FaultAt` — it has it under
  a key.
* `IsVariable` — the tables that give an entry.
* `VariableTable`, `Transcribes` — a table of a variable where it stands, and the entry that has its
  fields.
* `Check`, `Check.Finds` — what is checked in a table of a variable, in order, and what is found.

Principal results: `entryOf_eq_ok_iff`, `entryOf_eq_error_iff` — a table of a variable gives its
transcription, or what the first check that finds anything does.  `isVariable_iff` — which of the
two, its shape alone decides.
-/

namespace DeclaredEnv

open Number Toml

/-! ## What a value says -/

/-- The text that a value is. -/
inductive TextOf : Toml.Value → String → Prop where
  | string (s : String) : TextOf (.scalar (.string s)) s

/-- The text of a value as a default: a scalar as it is written, if it is no date. -/
inductive DefaultOf : Toml.Value → String → Prop where
  | string (s : String) : DefaultOf (.scalar (.string s)) s
  | integer (n : Int) : DefaultOf (.scalar (.integer n)) (toString n)
  | float (x : Binary64) :
      DefaultOf (.scalar (.float x)) (String.ofList (defaultFloatLayout.text x))
  | boolean (b : Bool) : DefaultOf (.scalar (.boolean b)) (if b then "true" else "false")

/-- The names that an array of texts lists. -/
inductive NamesOf : Toml.Value → List String → Prop where
  | array {items : List Toml.Value} {names : List String} (h : List.Forall₂ TextOf items names) :
      NamesOf (.array items) names

/-- The value says nothing where it stands; the fault names its sort. -/
structure Refused {α : Type} (Says : Toml.Value → α → Prop) (fault : String → EntryFault)
    (v : Toml.Value) (f : EntryFault) : Prop where
  silent : ∀ a, ¬Says v a
  eq : f = fault v.typeName

/-- What is wrong with a value where names are expected: it is no array, or an item is no text. -/
inductive NamesFault : Toml.Value → EntryFault → Prop where
  | notArray {v : Toml.Value} (h : ∀ items, v ≠ .array items) :
      NamesFault v (.applicationsNotArray v.typeName)
  | notString {items : List Toml.Value} {f : EntryFault}
      (first : FirstFault (Refused TextOf .applicationNotString) items f) :
      NamesFault (.array items) f

/-- The value under a key has the fault. -/
def FaultAt (fields : Table) (key : String) (Bad : Toml.Value → EntryFault → Prop)
    (f : EntryFault) : Prop :=
  ∃ v, fields.lookup key = some v ∧ Bad v f

section Readers

variable {α : Type} {read : Toml.Value → Except EntryFault α} {Says : Toml.Value → α → Prop}
  {Bad : Toml.Value → EntryFault → Prop} {fault : String → EntryFault} {key : String}
  {fields : Table} {v : Toml.Value} {f : EntryFault}

/-- A reader that fails in one way fails where the value says nothing. -/
theorem refused_iff (hok : ∀ a, read v = .ok a ↔ Says v a)
    (herror : ∀ f, read v = .error f → f = fault v.typeName) :
    read v = .error f ↔ Refused Says fault v f := by
  constructor
  · intro h
    refine ⟨fun a ha => ?_, herror f h⟩
    rw [(hok a).mpr ha] at h
    cases h
  · rintro ⟨silent, rfl⟩
    cases hread : read v with
    | ok a => exact absurd ((hok a).mp hread) (silent a)
    | error f => rw [herror f hread]

/-- The text that a value is, or the fault of one that is none. -/
def textOr (fault : String → EntryFault) : Toml.Value → Except EntryFault String
  | .scalar (.string s) => .ok s
  | other => .error (fault other.typeName)

theorem textOr_eq_ok_iff {s : String} : textOr fault v = .ok s ↔ TextOf v s := by
  constructor
  · intro h
    unfold textOr at h
    split at h <;> cases h
    exact .string _
  · rintro ⟨⟩
    rfl

theorem textOr_eq_error_iff : textOr fault v = .error f ↔ Refused TextOf fault v f := by
  refine refused_iff (fun _ => textOr_eq_ok_iff) fun f h => ?_
  unfold textOr at h
  split at h <;> cases h
  rfl

theorem stringOf_eq_textOr (key : String) : stringOf key = textOr (.notString key) := rfl

theorem stringOf_eq_ok_iff {s : String} : stringOf key v = .ok s ↔ TextOf v s := by
  rw [stringOf_eq_textOr, textOr_eq_ok_iff]

theorem stringOf_eq_error_iff :
    stringOf key v = .error f ↔ Refused TextOf (.notString key) v f := by
  rw [stringOf_eq_textOr, textOr_eq_error_iff]

theorem defaultText_eq_ok_iff {raw : String} : defaultText v = .ok raw ↔ DefaultOf v raw := by
  constructor
  · intro h
    unfold defaultText at h
    split at h <;> cases h
    · exact .string _
    · exact ofList_integerText _ ▸ .integer _
    · exact .float _
    · exact .boolean _
  · rintro (_ | n | _ | _)
    case integer => rw [defaultText, ofList_integerText]
    all_goals rfl

theorem defaultText_eq_error_iff :
    defaultText v = .error f ↔ Refused DefaultOf .defaultNotScalar v f := by
  refine refused_iff (fun _ => defaultText_eq_ok_iff) fun f h => ?_
  unfold defaultText at h
  split at h <;> cases h
  rfl

theorem applicationNames_eq_mapM (items : List Toml.Value) :
    applicationNames items = items.mapM (textOr .applicationNotString) := by
  induction items with
  | nil => rfl
  | cons item items ih =>
    rw [List.mapM_cons, ← ih]
    unfold textOr
    split
    · rfl
    · rename_i hother
      rw [applicationNames]
      · rfl
      · exact hother

theorem applicationsOf_eq_ok_iff {names : List String} :
    applicationsOf v = .ok names ↔ NamesOf v names := by
  have harray (items : List Toml.Value) : applicationNames items = .ok names ↔
      List.Forall₂ TextOf items names := by
    rw [applicationNames_eq_mapM, mapM_eq_ok_iff]
    simp only [textOr_eq_ok_iff]
  constructor
  · intro h
    unfold applicationsOf at h
    split at h
    · exact .array ((harray _).mp h)
    · cases h
  · rintro ⟨h⟩
    exact (harray _).mpr h

theorem applicationsOf_eq_error_iff : applicationsOf v = .error f ↔ NamesFault v f := by
  have harray (items : List Toml.Value) : applicationNames items = .error f ↔
      FirstFault (Refused TextOf .applicationNotString) items f := by
    rw [applicationNames_eq_mapM, mapM_eq_error_iff]
    exact firstFault_congr fun _ _ => textOr_eq_error_iff
  constructor
  · intro h
    unfold applicationsOf at h
    split at h
    · exact .notString ((harray _).mp h)
    · rename_i hother
      cases h
      exact .notArray hother
  · rintro (h | h)
    · unfold applicationsOf
      split
      · exact absurd rfl (h _)
      · rfl
    · exact (harray _).mpr h

theorem optionalField_eq_ok_iff {a? : Option α} (h : ∀ v a, read v = .ok a ↔ Says v a) :
    optionalField read fields key = .ok a? ↔ Option.Rel Says (fields.lookup key) a? := by
  unfold optionalField
  split
  · rename_i habsent
    rw [habsent]
    constructor
    · rintro ⟨⟩
      exact .none
    · rintro ⟨⟩
      rfl
  · rename_i v hgiven
    rw [hgiven, map_eq_ok_iff]
    constructor
    · rintro ⟨a, ha, rfl⟩
      exact .some ((h v a).mp ha)
    · rintro ⟨ha⟩
      exact ⟨_, (h _ _).mpr ha, rfl⟩

theorem optionalField_eq_error_iff (h : ∀ v f, read v = .error f ↔ Bad v f) :
    optionalField read fields key = .error f ↔ FaultAt fields key Bad f := by
  unfold optionalField
  split
  · rename_i habsent
    simp [FaultAt, habsent]
  · rename_i v hgiven
    simp [FaultAt, hgiven, map_eq_error_iff, h]

end Readers

/-! ## The table of a variable -/

/-- The keys that the table of a variable can have. -/
def KnownKey (key : String) : Prop :=
  key ∈ ["type", "description", "default", "required_when", "applications"]

/-- The tables that give an entry. -/
structure IsVariable (fields : Table) : Prop where
  keys : ∀ field ∈ fields, KnownKey field.1
  type : ∃ v s, fields.lookup "type" = some v ∧ TextOf v s
  description : ∀ v, fields.lookup "description" = some v → ∃ s, TextOf v s
  default : ∀ v, fields.lookup "default" = some v → ∃ raw, DefaultOf v raw
  requiredWhen : ∀ v, fields.lookup "required_when" = some v → ∃ s, TextOf v s
  applications : ∀ v, fields.lookup "applications" = some v → ∃ names, NamesOf v names

/-- The table of a variable, and where it stands. -/
structure VariableTable where
  subject : String
  name : String
  fields : Table

/-- The entry has the fields of the table.  Without a description it has the empty text, and without
applications none. -/
structure Transcribes (t : VariableTable) (e : Entry) : Prop where
  subject : e.subject = t.subject
  name : e.name = t.name
  type : ∃ v, t.fields.lookup "type" = some v ∧ TextOf v e.type
  description : ∃ d?, Option.Rel TextOf (t.fields.lookup "description") d? ∧
    e.description = d?.getD ""
  default : Option.Rel DefaultOf (t.fields.lookup "default") e.default?
  requiredWhen : Option.Rel TextOf (t.fields.lookup "required_when") e.requiredWhen
  applications : ∃ names?, Option.Rel NamesOf (t.fields.lookup "applications") names? ∧
    e.applications = names?.getD []

/-- What is checked in the table of a variable. -/
inductive Check where
  | keys
  | type
  | default
  | applications
  | description
  | requiredWhen

/-- The checks, the first one first. -/
def Check.inOrder : List Check :=
  [.keys, .type, .default, .applications, .description, .requiredWhen]

/-- What a check finds in the table of a variable. -/
def Check.Finds (fields : Table) : Check → EntryFault → Prop
  | .keys => FirstFault (fun field f => ¬KnownKey field.1 ∧ f = .unknownKey field.1) fields
  | .type => fun f => fields.lookup "type" = none ∧ f = .missingType ∨
      FaultAt fields "type" (Refused TextOf (.notString "type")) f
  | .default => FaultAt fields "default" (Refused DefaultOf .defaultNotScalar)
  | .applications => FaultAt fields "applications" NamesFault
  | .description => FaultAt fields "description" (Refused TextOf (.notString "description"))
  | .requiredWhen => FaultAt fields "required_when" (Refused TextOf (.notString "required_when"))

section Entry

variable {subject name : String} {fields : Table} {e : Entry} {f : EntryFault}

/-- The first check. -/
def knownKeys (fields : Table) : Except EntryFault Unit :=
  match fields.find? fun field => !entryKeys.contains field.1 with
  | some field => .error (.unknownKey field.1)
  | none => .ok ()

/-- The second check. -/
def typeOf (fields : Table) : Except EntryFault String :=
  match fields.lookup "type" with
  | none => .error .missingType
  | some v => stringOf "type" v

/-- An entry is read in steps, one for each check. -/
theorem entryOf_eq (subject name : String) (fields : Table) : entryOf subject name fields = (do
    knownKeys fields
    let type ← typeOf fields
    let default? ← optionalField defaultText fields "default"
    let applications ← optionalField applicationsOf fields "applications"
    let description ← optionalField (stringOf "description") fields "description"
    let requiredWhen ← optionalField (stringOf "required_when") fields "required_when"
    pure { subject, name, type, description := description.getD "", default?, requiredWhen,
           applications := applications.getD [] }) := by
  unfold entryOf knownKeys typeOf
  cases fields.find? fun field => !entryKeys.contains field.1 with
  | some field => rfl
  | none =>
    have htype : optionalField (stringOf "type") fields "type" =
        match fields.lookup "type" with
        | none => .ok none
        | some v => some <$> stringOf "type" v := rfl
    rw [htype]
    cases fields.lookup "type" with
    | none => rfl
    | some v =>
      cases hread : stringOf "type" v with
      | error f => simp only [hread]; rfl
      | ok type => simp only [hread]; rfl

theorem not_contains_entryKeys_iff {key : String} :
    (!entryKeys.contains key) = true ↔ ¬KnownKey key := by
  rw [Bool.not_eq_true', ← Bool.not_eq_true, List.contains_iff_mem]
  rfl

theorem knownKeys_eq_ok_iff : knownKeys fields = .ok () ↔ ∀ field ∈ fields, KnownKey field.1 := by
  have hnone : fields.find? (fun field => !entryKeys.contains field.1) = none ↔
      ∀ field ∈ fields, KnownKey field.1 := by
    simp only [List.find?_eq_none, not_contains_entryKeys_iff, not_not]
  rw [← hnone, knownKeys]
  cases fields.find? fun field => !entryKeys.contains field.1 with
  | none => simp
  | some field => simp

theorem knownKeys_eq_error_iff : knownKeys fields = .error f ↔ Check.keys.Finds fields f := by
  have hfirst : (∃ field, fields.find? (fun field => !entryKeys.contains field.1) = some field ∧
      f = .unknownKey field.1) ↔ Check.keys.Finds fields f :=
    find?_iff_firstFault fun _ => not_contains_entryKeys_iff
  rw [← hfirst, knownKeys]
  cases fields.find? fun field => !entryKeys.contains field.1 with
  | none => simp
  | some field => simp [eq_comm]

theorem typeOf_eq_ok_iff {type : String} :
    typeOf fields = .ok type ↔ ∃ v, fields.lookup "type" = some v ∧ TextOf v type := by
  unfold typeOf
  split
  · rename_i habsent
    simp [habsent]
  · rename_i v hgiven
    simp [hgiven, stringOf_eq_ok_iff]

theorem typeOf_eq_error_iff : typeOf fields = .error f ↔ Check.type.Finds fields f := by
  unfold typeOf
  split
  · rename_i habsent
    simp [Check.Finds, FaultAt, habsent, eq_comm]
  · rename_i v hgiven
    simp [Check.Finds, FaultAt, hgiven, stringOf_eq_error_iff]

/-- **An entry is read from a table exactly if every key is known and the entry has the fields of
the table.** -/
theorem entryOf_eq_ok_iff : entryOf subject name fields = .ok e ↔
    (∀ field ∈ fields, KnownKey field.1) ∧ Transcribes ⟨subject, name, fields⟩ e := by
  rw [entryOf_eq]
  constructor
  · intro h
    obtain ⟨_, hkeys, h⟩ := exists_of_bind_eq_ok h
    obtain ⟨type, htype, h⟩ := exists_of_bind_eq_ok h
    obtain ⟨default?, hdefault, h⟩ := exists_of_bind_eq_ok h
    obtain ⟨names?, hnames, h⟩ := exists_of_bind_eq_ok h
    obtain ⟨description?, hdescription, h⟩ := exists_of_bind_eq_ok h
    obtain ⟨requiredWhen, hrequired, h⟩ := exists_of_bind_eq_ok h
    cases h
    refine ⟨knownKeys_eq_ok_iff.mp hkeys, ?_⟩
    constructor
    case subject => rfl
    case name => rfl
    case type => exact typeOf_eq_ok_iff.mp htype
    case description =>
      have htext := (optionalField_eq_ok_iff fun _ _ => stringOf_eq_ok_iff).mp hdescription
      exact ⟨description?, htext, rfl⟩
    case default => exact (optionalField_eq_ok_iff fun _ _ => defaultText_eq_ok_iff).mp hdefault
    case requiredWhen => exact (optionalField_eq_ok_iff fun _ _ => stringOf_eq_ok_iff).mp hrequired
    case applications =>
      have hlist := (optionalField_eq_ok_iff fun _ _ => applicationsOf_eq_ok_iff).mp hnames
      exact ⟨names?, hlist, rfl⟩
  · rintro ⟨hkeys, rfl, rfl, htype, ⟨d?, hd, hdescription⟩, hdefault, hrequired, names?, hn, hnames⟩
    rw [knownKeys_eq_ok_iff.mpr hkeys, typeOf_eq_ok_iff.mpr htype,
      (optionalField_eq_ok_iff fun _ _ => defaultText_eq_ok_iff).mpr hdefault,
      (optionalField_eq_ok_iff fun _ _ => applicationsOf_eq_ok_iff).mpr hn,
      (optionalField_eq_ok_iff fun _ _ => stringOf_eq_ok_iff).mpr hd,
      (optionalField_eq_ok_iff fun _ _ => stringOf_eq_ok_iff).mpr hrequired]
    cases e
    cases hdescription
    cases hnames
    rfl

/-- **Otherwise the fault is that of the first check that finds one.** -/
theorem entryOf_eq_error_iff : entryOf subject name fields = .error f ↔
    FirstFault (Check.Finds fields) Check.inOrder f := by
  rw [entryOf_eq]
  refine bind_eq_error_iff_firstFault (fun _ => knownKeys_eq_error_iff) fun _ _ => ?_
  refine bind_eq_error_iff_firstFault (fun _ => typeOf_eq_error_iff) fun _ _ => ?_
  refine bind_eq_error_iff_firstFault
    (fun _ => optionalField_eq_error_iff fun _ _ => defaultText_eq_error_iff) fun _ _ => ?_
  refine bind_eq_error_iff_firstFault
    (fun _ => optionalField_eq_error_iff fun _ _ => applicationsOf_eq_error_iff) fun _ _ => ?_
  refine bind_eq_error_iff_firstFault
    (fun _ => optionalField_eq_error_iff fun _ _ => stringOf_eq_error_iff) fun _ _ => ?_
  refine bind_eq_error_iff_firstFault
    (fun _ => optionalField_eq_error_iff fun _ _ => stringOf_eq_error_iff) fun _ _ => ?_
  exact ⟨nofun, fun h => absurd h not_firstFault_nil⟩

theorem exists_optionRel_iff {α β : Type} {R : α → β → Prop} {a? : Option α} :
    (∃ b?, Option.Rel R a? b?) ↔ ∀ a, a? = some a → ∃ b, R a b := by
  constructor
  · rintro ⟨_, h⟩ a rfl
    cases h with
    | some h => exact ⟨_, h⟩
  · intro h
    cases a? with
    | none => exact ⟨none, .none⟩
    | some a =>
      obtain ⟨b, hb⟩ := h a rfl
      exact ⟨some b, .some hb⟩

theorem optionRel_unique {α β : Type} {R : α → β → Prop} (hR : Relator.RightUnique R) :
    Relator.RightUnique (Option.Rel R) := by
  rintro _ _ _ (h | _) (h' | _)
  · exact congrArg some (hR h h')
  · rfl

theorem TextOf.unique : Relator.RightUnique TextOf := by
  rintro _ _ _ ⟨⟩ ⟨⟩
  rfl

theorem DefaultOf.unique : Relator.RightUnique DefaultOf := by
  rintro _ _ _ (_ | _ | _ | _) (_ | _ | _ | _) <;> rfl

theorem NamesOf.unique : Relator.RightUnique NamesOf := by
  rintro _ _ _ ⟨h⟩ ⟨h'⟩
  exact TextOf.unique.forall₂ h h'

/-- A table has one transcription at most. -/
theorem Transcribes.unique : Relator.RightUnique Transcribes := by
  rintro t ⟨⟩ ⟨⟩ h h'
  obtain ⟨rfl, rfl, ⟨v, hv, htype⟩, ⟨d?, hd, rfl⟩, hdefault, hrequired, names?, hn, rfl⟩ := h
  obtain ⟨rfl, rfl, ⟨v', hv', htype'⟩, ⟨d?', hd', rfl⟩, hdefault', hrequired', names?', hn', rfl⟩ :=
    h'
  obtain rfl : v = v' := Option.some.inj (hv.symm.trans hv')
  obtain rfl := TextOf.unique htype htype'
  obtain rfl := optionRel_unique TextOf.unique hd hd'
  obtain rfl := optionRel_unique DefaultOf.unique hdefault hdefault'
  obtain rfl := optionRel_unique TextOf.unique hrequired hrequired'
  obtain rfl := optionRel_unique NamesOf.unique hn hn'
  rfl

/-- A table gives an entry exactly if it has the shape of a variable. -/
theorem isVariable_iff (subject name : String) :
    IsVariable fields ↔ ∃ e, entryOf subject name fields = .ok e := by
  simp only [entryOf_eq_ok_iff]
  constructor
  · rintro ⟨keys, ⟨v, type, hv, htype⟩, hdescription, hdefault, hrequired, hnames⟩
    obtain ⟨d?, hd⟩ := exists_optionRel_iff.mpr hdescription
    obtain ⟨default?, hdefault⟩ := exists_optionRel_iff.mpr hdefault
    obtain ⟨requiredWhen, hrequired⟩ := exists_optionRel_iff.mpr hrequired
    obtain ⟨names?, hnames⟩ := exists_optionRel_iff.mpr hnames
    exact ⟨⟨subject, name, type, d?.getD "", default?, requiredWhen, names?.getD []⟩, keys, rfl,
      rfl, ⟨v, hv, htype⟩, ⟨d?, hd, rfl⟩, hdefault, hrequired, names?, hnames, rfl⟩
  · rintro ⟨e, keys, transcribes⟩
    obtain ⟨d?, hd, _⟩ := transcribes.description
    obtain ⟨names?, hnames, _⟩ := transcribes.applications
    obtain ⟨v, hv, htype⟩ := transcribes.type
    exact ⟨keys, ⟨v, e.type, hv, htype⟩, exists_optionRel_iff.mp ⟨d?, hd⟩,
      exists_optionRel_iff.mp ⟨_, transcribes.default⟩,
      exists_optionRel_iff.mp ⟨_, transcribes.requiredWhen⟩,
      exists_optionRel_iff.mp ⟨names?, hnames⟩⟩

end Entry

end DeclaredEnv
