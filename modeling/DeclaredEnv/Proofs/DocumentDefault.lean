import DeclaredEnv.Proofs.Built
import DeclaredEnv.Proofs.CrossReading
import DeclaredEnv.Proofs.DocumentEntries

/-!
# Defaults of a document

Between a document and its schema a default is a text: a scalar is written, and the text is read
again for the kind of the variable.

* `Base.ofScalar?` — the value of a base kind that a scalar of a document stands for.
* `SchemaDocument.defaultAt?` — what a document gives as the type and the default of a variable.
* `DefaultBuilds`, `DefaultRejected` — what the build makes of the default of a variable.

Principal results: `read?_defaultText` — reading the text of a scalar gives the value that the
scalar stands for.  `default_of_load` — so the build neither changes the sort of a default nor
accepts one of another sort, whatever else the document has.
-/

namespace DeclaredEnv

open Number Text Toml

/-! ## Scalars as values -/

/-- The value of a base kind that a scalar stands for.  Every scalar but a date can be a text, a
whole number a double, and `0` and `1` truth values; a text stands for what it reads as. -/
def Base.ofScalar? (b : Base) : Scalar → Option Value
  | .string s => b.read? s
  | .integer n =>
    match b with
    | .str => some (.str (toString n))
    | .int => some (.int n)
    | .float => some (.float (.ofInt n))
    | .bool => if n = 0 then some (.bool false) else if n = 1 then some (.bool true) else none
  | .float x =>
    match b with
    | .str => some (.str (String.ofList (defaultFloatLayout.text x)))
    | .float => if x.isFinite then some (.float x) else none
    | .int | .bool => none
  | .boolean c =>
    match b with
    | .str => some (.str (if c then "true" else "false"))
    | .bool => some (.bool c)
    | .int | .float => none
  | .datetime => none

theorem readable_defaultFloatLayout : defaultFloatLayout.Readable := ⟨.inr rfl, .inl rfl⟩

theorem Base.read?_integerText {n : Int} (hn : InRange n) (b : Base) :
    b.read? (String.ofList (integerText n)) = b.ofScalar? (.integer n) := by
  cases b with
  | str => rw [ofScalar?, ← ofList_integerText, read?]
  | int =>
    simp only [read?, ofScalar?, String.toList_ofList, trim_integerText,
      readInteger?_integerText hn, Option.map_some]
  | float =>
    simp only [read?, ofScalar?, String.toList_ofList, trim_integerText,
      readFloat?_integerText hn, Option.filter_some, isFinite_ofInt hn, if_true, Option.map_some]
  | bool =>
    have hword (c : Bool) : readBool? (integerText n) = some c ↔ n = if c then 1 else 0 :=
      readBool?_integerText_eq_some_iff hn
    simp only [read?, ofScalar?, String.toList_ofList, trim_integerText]
    cases hread : readBool? (integerText n) with
    | some c =>
      have hvalue := (hword c).mp hread
      cases c <;> subst hvalue <;> rfl
    | none =>
      have hvalue : ∀ c : Bool, n ≠ if c then 1 else 0 := fun c h => by
        rw [(hword c).mpr h] at hread
        cases hread
      have hzero : n ≠ 0 := hvalue false
      have hone : n ≠ 1 := hvalue true
      rw [if_neg hzero, if_neg hone, Option.map_none]

theorem Base.read?_floatText (b : Base) (x : Binary64) :
    b.read? (String.ofList (defaultFloatLayout.text x)) = b.ofScalar? (.float x) := by
  have hending : defaultFloatLayout.wholeEnding = ['.', '0'] := rfl
  have htrim := trim_floatText readable_defaultFloatLayout x
  cases b with
  | str => rfl
  | int =>
    simp only [read?, ofScalar?, String.toList_ofList, htrim, readInteger?_text hending x,
      Option.map_none]
  | float =>
    simp only [read?, ofScalar?, String.toList_ofList, htrim,
      readFloat?_text readable_defaultFloatLayout, Option.filter_some]
    split <;> rfl
  | bool =>
    simp only [read?, ofScalar?, String.toList_ofList, htrim,
      readBool?_text readable_defaultFloatLayout hending x, Option.map_none]

/-- **Reading the text of a scalar gives the value that the scalar stands for.** -/
theorem Base.read?_defaultText {x : Scalar} {raw : String} (h : defaultText (.scalar x) = .ok raw)
    (hx : ∀ n, x = .integer n → InRange n) (b : Base) : b.read? raw = b.ofScalar? x := by
  cases x with
  | string s =>
    cases h
    rfl
  | integer n =>
    cases h
    exact b.read?_integerText (hx n rfl)
  | float x =>
    cases h
    exact b.read?_floatText x
  | boolean c =>
    cases h
    cases b <;> cases c <;> decide
  | datetime => cases h

/-! ## The default in the entry of a variable -/

/-- The table at a key. -/
def within? (table : Table) (key : String) : Option Table :=
  match table.lookup key with
  | some (.table fields) => some fields
  | _ => none

/-- The type and the default in the table of a variable. -/
def typedDefault? (fields : Table) : Option (String × Scalar) :=
  match fields.lookup "type", fields.lookup "default" with
  | some (.scalar (.string type)), some (.scalar x) => some (type, x)
  | _, _ => none

/-- What a text gives as the type and the default of a variable. -/
def SchemaDocument.defaultAt? (text subject name : String) : Option (String × Scalar) := do
  let table ← Document.ofText? text
  let members ← within? table subject
  let fields ← within? members name
  typedDefault? fields

variable {subject name type text : String} {fields members table : Table} {x : Scalar}
  {entries : List Entry} {k : Kind}

theorem mem_of_within? {key : String} (h : within? table key = some fields) :
    (key, .table fields) ∈ table := by
  unfold within? at h
  split at h
  · rename_i fields' hlookup
    cases h
    obtain ⟨before, after, hsplit, _⟩ := List.lookup_eq_some_iff.mp hlookup
    exact hsplit ▸ List.mem_append_right before List.mem_cons_self
  · cases h

theorem typedDefault?_eq_some_iff : typedDefault? fields = some (type, x) ↔
    fields.lookup "type" = some (.scalar (.string type)) ∧
      fields.lookup "default" = some (.scalar x) := by
  unfold typedDefault?
  split
  · rename_i htype hdefault
    simp [htype, hdefault]
  · rename_i hnone
    exact ⟨nofun, fun ⟨htype, hdefault⟩ => absurd hdefault (hnone _ _ htype)⟩

/-- The entry of a table takes the type as it is and the default as a text. -/
theorem entryOf_of_typedDefault? {e : Entry} (he : entryOf subject name fields = .ok e)
    (hd : typedDefault? fields = some (type, x)) :
    e.type = type ∧ ∃ raw, defaultText (.scalar x) = .ok raw ∧ e.default? = some raw := by
  obtain ⟨htype, hdefault⟩ := typedDefault?_eq_some_iff.mp hd
  obtain ⟨_, htype', hdefault'⟩ := fields_of_entryOf he
  obtain ⟨_, hread, htoken⟩ := optionalField_eq_ok_of_lookup htype htype'
  cases hread
  obtain ⟨raw, hraw, hgiven⟩ := optionalField_eq_ok_of_lookup hdefault hdefault'
  exact ⟨Option.some.inj htoken, raw, hraw, hgiven⟩

theorem exists_entry_of_defaultAt? (hl : SchemaDocument.load text = .ok entries)
    (hd : SchemaDocument.defaultAt? text subject name = some (type, x)) :
    ∃ e ∈ entries, e.key = (subject, name) ∧ e.type = type ∧
      ∃ raw, defaultText (.scalar x) = .ok raw ∧ e.default? = some raw := by
  simp only [SchemaDocument.defaultAt?, Option.bind_eq_bind, Option.bind_eq_some_iff] at hd
  obtain ⟨table, htable, members, hmembers, fields, hfields, hd⟩ := hd
  simp only [SchemaDocument.load, htable] at hl
  obtain ⟨groups, hgroups, rfl⟩ := entriesOf_eq_ok_iff.mp hl
  obtain ⟨g, hg, _, _, heq, hentries⟩ := exists_right_of_forall₂ hgroups (mem_of_within? hmembers)
  cases heq
  obtain ⟨e, he, _, heq, hentry⟩ := exists_right_of_forall₂ hentries (mem_of_within? hfields)
  cases heq
  exact ⟨e, List.mem_flatMap.mpr ⟨g, hg, he⟩, key_of_entryOf hentry,
    entryOf_of_typedDefault? hentry hd⟩

/-! ## What the build makes of a default -/

/-- The variable has the kind and the default.  Where the build fails, it is for another reason:
it does not if the other entries have types and no entry has a condition. -/
structure DefaultBuilds (entries : List Entry) (subject name : String) (k : Kind) (v : Value) :
    Prop where
  built : ∀ s, Schema.build entries = .ok s →
    ∃ w, s.lookup? subject name = some w ∧ w.kind = k ∧ w.default? = some v
  notReported : ∀ faults, Schema.build entries = .error faults →
    ∀ raw k', Fault.defaultMismatch subject name raw k' ∉ faults
  builds : (∀ e ∈ entries, e.requiredWhen = none) →
    (∀ e ∈ entries, e.key ≠ (subject, name) → ∃ k' d, e.HasType k' d) →
      ∃ s, Schema.build entries = .ok s

/-- The build fails and reports the default as no value of the kind. -/
def DefaultRejected (entries : List Entry) (subject name raw : String) (k : Kind) : Prop :=
  ∃ faults, Schema.build entries = .error faults ∧ .defaultMismatch subject name raw k ∈ faults

variable {e : Entry} {raw : String} {v : Value}

theorem Entry.TypeFault.key (h : e.TypeFault (.defaultMismatch subject name raw k)) :
    e.key = (subject, name) := by
  cases h
  rfl

theorem defaultBuilds_of_hasType (hn : (entries.map Entry.key).Nodup) (he : e ∈ entries)
    (hkey : e.key = (subject, name)) (ht : e.HasType k (some v)) :
    DefaultBuilds entries subject name k v := by
  have hown : ∀ e' ∈ entries, e'.key = (subject, name) → e' = e := fun e' he' hkey' =>
    List.inj_on_of_nodup_map hn he' he (hkey'.trans hkey.symm)
  constructor
  case built =>
    intro s hs
    cases hkey
    obtain ⟨t, ht', hsubject, w, hw, hdecl⟩ := exists_mem_of_entry hs he
    obtain ⟨hkind, hdefault⟩ := hdecl.type.unique ht
    exact ⟨w, (coherent_of_build hs).lookup?_eq_some_iff.mpr
      ⟨t, ht', w, hw, hsubject, hdecl.name, rfl⟩, hkind, hdefault⟩
  case notReported =>
    intro faults hfaults raw k' hmem
    obtain ⟨hreport, _⟩ := build_eq_error_iff.mp hfaults
    obtain ⟨e', he', hfault⟩ := hreport.defaultMismatch_mem_iff.mp hmem
    obtain rfl := hown e' (mem_of_mem_declarations he') hfault.key
    exact hfault.not_hasType ht
  case builds =>
    intro hplain htyped
    refine ⟨_, build_of_wellFormed ⟨hn, fun e' he' => ?_, fun e' he' hgiven => ?_, ?_⟩⟩
    · by_cases hkey' : e'.key = (subject, name)
      · obtain rfl := hown e' he' hkey'
        exact ⟨k, some v, ht⟩
      · exact htyped e' he' hkey'
    · rw [hplain e' he'] at hgiven
      cases hgiven
    · -- a cycle would begin with a condition
      intro _ a hcycle
      obtain ⟨b, ⟨e', he', _, _, text, _, hgiven, _⟩, _⟩ := Relation.TransGen.head'_iff.mp hcycle
      rw [hplain e' he'] at hgiven
      cases hgiven

theorem defaultRejected_of_typeFault (hn : (entries.map Entry.key).Nodup) (he : e ∈ entries)
    (hf : e.TypeFault (.defaultMismatch subject name raw k)) :
    DefaultRejected entries subject name raw k := by
  have hdecl : e ∈ declarations entries := by rwa [declarations_of_nodup hn]
  cases hbuild : Schema.build entries with
  | ok s =>
    obtain ⟨k', d, ht⟩ := (wellFormed_of_build hbuild).typed e he
    exact absurd ht hf.not_hasType
  | error faults =>
    obtain ⟨hreport, _⟩ := build_eq_error_iff.mp hbuild
    exact ⟨faults, hbuild, hreport.defaultMismatch_mem_iff.mpr ⟨e, hdecl, hf⟩⟩

/-- **A default keeps its sort on the way from a document to its schema.**  The variable gets the
value that the scalar stands for, and a scalar that stands for none is reported. -/
theorem default_of_load (hl : SchemaDocument.load text = .ok entries)
    (hd : SchemaDocument.defaultAt? text subject name = some (k.token, x))
    (hx : ∀ n, x = .integer n → InRange n) :
    (∀ v, k.base.ofScalar? x = some v → DefaultBuilds entries subject name k v) ∧
      (k.base.ofScalar? x = none → ∃ raw, defaultText (.scalar x) = .ok raw ∧
        DefaultRejected entries subject name raw k) := by
  obtain ⟨groups, hp, hentries⟩ := exists_parted_of_load hl
  have hn : (entries.map Entry.key).Nodup := hentries ▸ hp.nodup_map_key
  obtain ⟨e, he, hkey, htype, raw, hraw, hgiven⟩ := exists_entry_of_defaultAt? hl hd
  have hread : k.read? raw = k.base.ofScalar? x := k.base.read?_defaultText hraw hx
  constructor
  · intro v hv
    exact defaultBuilds_of_hasType hn he hkey (.default htype.symm hgiven (hread.trans hv))
  · intro hnone
    have hfault : e.TypeFault (.defaultMismatch e.subject e.name raw k) :=
      .defaultMismatch htype.symm hgiven (hread.trans hnone)
    cases hkey
    exact ⟨raw, hraw, defaultRejected_of_typeFault hn he hfault⟩

/-- Doubles without a fraction as the defaults of a whole number and of a double. -/
def fractionDocument : String :=
  "[http.API_PORT]\ntype='int'\ndefault=8000.0\n[http.API_RATIO]\ntype='Optional[float]'\n" ++
    "default=1e16\n"

/-- Its entries. -/
def fractionEntries : List Entry :=
  [⟨"http", "API_PORT", "int", "", some "8000.0", none, []⟩,
    ⟨"http", "API_RATIO", "Optional[float]", "", some "1e16", none, []⟩]

theorem default_of_load_fraction :
    SchemaDocument.load fractionDocument = .ok fractionEntries ∧
      DefaultRejected fractionEntries "http" "API_PORT" "8000.0" ⟨.int, false⟩ ∧
        DefaultBuilds fractionEntries "http" "API_RATIO" ⟨.float, true⟩
          (.float (.ofInt 10000000000000000)) := by
  have hload : SchemaDocument.load fractionDocument = .ok fractionEntries := by decide +kernel
  have hport : SchemaDocument.defaultAt? fractionDocument "http" "API_PORT" =
      some ("int", .float (.ofInt 8000)) := by decide +kernel
  have hratio : SchemaDocument.defaultAt? fractionDocument "http" "API_RATIO" =
      some ("Optional[float]", .float (.ofInt 10000000000000000)) := by decide +kernel
  have htext : defaultText (.scalar (.float (.ofInt 8000))) = .ok "8000.0" := by decide +kernel
  refine ⟨hload, ?_, ?_⟩
  · obtain ⟨raw, hraw, hrejected⟩ :=
      (@default_of_load _ _ _ _ _ ⟨.int, false⟩ hload hport nofun).2 rfl
    rw [htext] at hraw
    cases hraw
    exact hrejected
  · refine (@default_of_load _ _ _ _ _ ⟨.float, true⟩ hload hratio nofun).1 _ ?_
    decide +kernel

end DeclaredEnv
