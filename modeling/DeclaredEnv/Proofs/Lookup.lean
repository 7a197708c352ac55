import DeclaredEnv.Proofs.Resolved

/-!
# Look-ups by name

A look-up gives the first thing of a name, or nothing, and whoever makes it goes on in either case.

* `Json.Distinct` — every object in a value has each name once.
* `Subject.Locates` — a subject has a variable under a name at one place, and finds this one.
* `Schema.FindsAll` — what is looked up in a schema, and in what it evaluates to, is there, and is
  what was declared.

Principal results: `Subject.Coherent.locates` — a subject whose names differ locates its variables.
`get?_valuesOf_of_mem` — the values of a part of a schema are found exactly for its variables.
`findsAll_of_build` — so no look-up in a schema that was built comes to nothing.
-/

namespace DeclaredEnv

variable {entries : List Entry} {s : Schema} {t : Subject} {v w : Variable} {env : Environment}
  {subjects : List Subject}

/-- Every object in the value has each name once. -/
inductive Json.Distinct : Json → Prop where
  | null : Json.Distinct .null
  | bool (b : Bool) : Json.Distinct (.bool b)
  | int (n : Int) : Json.Distinct (.int n)
  | float (x : Number.Binary64) : Json.Distinct (.float x)
  | str (s : String) : Json.Distinct (.str s)
  | arr {items : List Json} (values : ∀ v ∈ items, v.Distinct) : Json.Distinct (.arr items)
  | obj {fields : List (String × Json)} (names : (fields.map (·.1)).Nodup)
      (values : ∀ field ∈ fields, field.2.Distinct) : Json.Distinct (.obj fields)

/-- The subject has the variable at one place, no other place has one of the name, and a look-up of
the name finds it. -/
structure Subject.Locates (t : Subject) (name : String) (v : Variable) : Prop where
  place : ∃ i, t.vars[i]? = some v ∧
    ∀ (j : Nat) (w : Variable), t.vars[j]? = some w → (w.name = name ↔ j = i)
  found : t.find? name = some v

/-- What is looked up in a schema of the entries, or in what it evaluates to, is there. -/
structure Schema.FindsAll (entries : List Entry) (s : Schema) : Prop where
  /-- A variable that need not be set has a value where it is not. -/
  fallback : ∀ t ∈ s.subjects, ∀ v ∈ t.vars, v.requirement = .never →
    ∃ x, v.fallback = some x ∧ ∀ env, env v.name = none → v.slot env = .value x
  /-- A condition finds the variable that it refers to. -/
  sibling : ∀ t ∈ s.subjects, ∀ v ∈ t.vars, ∀ c, v.condition = some c →
    ∃ w, t.Locates c.reference w ∧ ∀ env, t.slot? env c.reference = some (w.slot env)
  /-- The names in a scope are all names of subjects, and the application stands for these. -/
  scope : ∀ scope ∈ s.scopes, ∃ subjects, scope.subjects.filterMap s.subject? = subjects ∧
    List.Forall₂ (fun name t => s.subject? name = some t) scope.subjects subjects ∧
      s.targetSubjects (.application scope.application) = .ok subjects
  /-- The names of a declaration find its variable. -/
  declaration : ∀ e ∈ entries, ∃ t v, s.subject? e.subject = some t ∧ t.Locates e.name v ∧
    e.Declares entries v
  /-- The names of a variable find its value, if its subject is one of the target. -/
  value : ∀ target env r, s.evaluate target env = .ok r → ∃ subjects,
    target.Selects s subjects ∧ ∀ t ∈ s.subjects, ∀ v ∈ t.vars,
      r.get? t.name v.name = if t ∈ subjects then some (v.valueIn env) else none
  /-- What is written of the values repeats no name. -/
  distinct : ∀ target env r, s.evaluate target env = .ok r → r.toJson.Distinct

/-! ## Variables -/

/-- A variable that need not be set has a value for when it is not. -/
theorem exists_fallback_of_never (h : v.requirement = .never) : ∃ x, v.fallback = some x := by
  unfold Variable.requirement at h
  unfold Variable.fallback
  cases hd : v.default? with
  | some d => exact ⟨d, rfl⟩
  | none =>
    cases hc : v.condition.isSome with
    | true => simp [hd, hc] at h
    | false =>
      cases ho : v.kind.optional with
      | true => exact ⟨.null, rfl⟩
      | false => simp [hd, hc, ho] at h

theorem slot_of_never (h : v.requirement = .never) {x : Value} (hx : v.fallback = some x)
    (unset : env v.name = none) : v.slot env = .value x := by
  simp only [Variable.slot, unset, h, hx, Option.getD_some]

/-- **A subject whose names differ locates its variables.** -/
theorem Subject.Coherent.locates (ht : t.Coherent) (hv : v ∈ t.vars) : t.Locates v.name v := by
  refine ⟨?_, ht.find?_eq_some_iff.mpr ⟨hv, rfl⟩⟩
  obtain ⟨i, hi⟩ := List.getElem?_of_mem hv
  refine ⟨i, hi, fun j w hw => ⟨fun hname => ?_, ?_⟩⟩
  · have hnames : (t.vars.map (·.name))[i]? = (t.vars.map (·.name))[j]? := by
      rw [List.getElem?_map, List.getElem?_map, hi, hw, Option.map_some, Option.map_some, hname]
    have hlt : i < (t.vars.map (·.name)).length := by
      rw [List.length_map]
      exact (List.getElem?_eq_some_iff.mp hi).1
    exact ((List.getElem?_inj hlt ht.names).mp hnames).symm
  · rintro rfl
    rw [hi] at hw
    cases hw
    rfl

theorem exists_sibling (ht : t.Coherent) (hv : v ∈ t.vars) {c : Condition}
    (hc : v.condition = some c) :
    ∃ w, t.Locates c.reference w ∧ ∀ env, t.slot? env c.reference = some (w.slot env) := by
  obtain ⟨w, hw, hname, _⟩ := (ht.vars v hv).condition c hc
  have hlocates : t.Locates c.reference w := hname ▸ ht.locates hw
  refine ⟨w, hlocates, fun env => ?_⟩
  rw [Subject.slot?, hlocates.found, Option.map_some]

/-! ## Scopes -/

/-- The names in a scope are those of the subjects that the application uses. -/
theorem subjects_of_mem_scopes (hs : s.Coherent) {scope : Scope} (h : scope ∈ s.scopes) :
    ∃ subjects, Target.Selects s (.application scope.application) subjects ∧
      scope.subjects = subjects.map (·.name) := by
  obtain ⟨known, hsubjects⟩ := mem_scopesOf_iff.mp h
  refine ⟨_, .application known, ?_⟩
  rw [hsubjects]
  exact eraseDups_of_nodup ((List.filter_sublist.map _).nodup hs.names)

theorem exists_subjects_of_scope (hs : s.Coherent) {scope : Scope} (h : scope ∈ s.scopes) :
    ∃ subjects, scope.subjects.filterMap s.subject? = subjects ∧
      List.Forall₂ (fun name t => s.subject? name = some t) scope.subjects subjects ∧
        s.targetSubjects (.application scope.application) = .ok subjects := by
  obtain ⟨subjects, hselects, hnames⟩ := subjects_of_mem_scopes hs h
  refine ⟨subjects, ?_, ?_, (targetSubjects_eq_ok_iff hs).mpr hselects⟩
  · rw [hnames, hs.filterMap_subject? hselects.sublist.subset]
  · rw [hnames, List.forall₂_map_left_iff, List.forall₂_same]
    exact fun t ht => hs.subject?_eq_some_iff.mpr ⟨hselects.sublist.subset ht, rfl⟩

/-! ## Values -/

/-- **The values of a part of a schema are found exactly for the variables of that part.** -/
theorem get?_valuesOf_of_mem (hs : s.Coherent) (hsub : subjects.Sublist s.subjects)
    (ht : t ∈ s.subjects) (hv : v ∈ t.vars) : (valuesOf subjects env).get? t.name v.name =
      if t ∈ subjects then some (v.valueIn env) else none := by
  have hpart : Schema.Coherent ⟨subjects⟩ := hs.of_sublist hsub
  split
  · rename_i hmem
    exact get?_valuesOf hpart.names hmem (hs.subjects t ht).names hv
  · rename_i hmem
    have hnone : (⟨subjects⟩ : Schema).subject? t.name = none := by
      rw [Option.eq_none_iff_forall_ne_some]
      intro u hu
      obtain ⟨hu, hname⟩ := hpart.subject?_eq_some_iff.mp hu
      -- a subject of the same name would be the same subject
      exact hmem (List.inj_on_of_nodup_map hs.names (hsub.subset hu) ht hname ▸ hu)
    rw [get?_valuesOf_eq, Schema.lookup?, hnone]
    rfl

theorem Value.distinct_toJson (x : Value) : x.toJson.Distinct := by
  cases x with
  | null => exact .null
  | str s => exact .str s
  | int n => exact .int n
  | float d =>
    rw [Value.toJson]
    split
    · exact .float d
    · exact .null
  | bool b => exact .bool b

/-- Subjects that differ in their names, and values that do, are written without repeating one. -/
theorem Resolved.distinct_toJson {r : Resolved} (subjects : (r.subjects.map (·.name)).Nodup)
    (values : ∀ u ∈ r.subjects, (u.values.map (·.1)).Nodup) : r.toJson.Distinct := by
  refine .obj ?_ (List.forall_mem_map.mpr fun u hu => .obj ?_ (List.forall_mem_map.mpr ?_))
  · rw [List.map_map]
    exact subjects
  · rw [List.map_map]
    exact values u hu
  · exact fun p _ => p.2.distinct_toJson

theorem distinct_toJson_valuesOf (hs : (⟨subjects⟩ : Schema).Coherent) (env : Environment) :
    (valuesOf subjects env).toJson.Distinct := by
  refine Resolved.distinct_toJson ?_ (List.forall_mem_map.mpr fun t ht => ?_)
  · rw [valuesOf, List.map_map]
    exact hs.names
  · rw [List.map_map]
    exact (hs.subjects t ht).names

theorem valuesOf_of_evaluate (hs : s.Coherent) {target : Target} {r : Resolved}
    (h : s.evaluate target env = .ok r) :
    ∃ subjects, target.Selects s subjects ∧ r = valuesOf subjects env := by
  obtain ⟨subjects, hselects⟩ := selects_of_evaluate_eq_ok hs h
  rw [evaluate_eq hs hselects] at h
  split at h
  · exact ⟨subjects, hselects, (Except.ok.inj h).symm⟩
  · cases h

/-- **No look-up in a schema that was built comes to nothing, and none finds anything but what was
declared.** -/
theorem findsAll_of_build (hb : Schema.build entries = .ok s) : s.FindsAll entries := by
  have hs : s.Coherent := coherent_of_build hb
  constructor
  case fallback =>
    intro t _ v _ hnever
    obtain ⟨x, hx⟩ := exists_fallback_of_never hnever
    exact ⟨x, hx, fun env unset => slot_of_never hnever hx unset⟩
  case sibling => exact fun t ht v hv c hc => exists_sibling (hs.subjects t ht) hv hc
  case scope => exact fun scope h => exists_subjects_of_scope hs h
  case declaration =>
    intro e he
    obtain ⟨t, ht, hname, v, hv, hdecl⟩ := exists_mem_of_entry hb he
    exact ⟨t, v, hs.subject?_eq_some_iff.mpr ⟨ht, hname⟩,
      hdecl.name ▸ (hs.subjects t ht).locates hv, hdecl⟩
  case value =>
    intro target env r h
    obtain ⟨subjects, hselects, rfl⟩ := valuesOf_of_evaluate hs h
    exact ⟨subjects, hselects, fun t ht v hv => get?_valuesOf_of_mem hs hselects.sublist ht hv⟩
  case distinct =>
    intro target env r h
    obtain ⟨subjects, hselects, rfl⟩ := valuesOf_of_evaluate hs h
    exact distinct_toJson_valuesOf (hs.of_sublist hselects.sublist) env

theorem findsAll_of_build_shared :
    Schema.build sharedEntries = .ok (schemaOf sharedEntries) ∧
      (schemaOf sharedEntries).FindsAll sharedEntries ∧
      (schemaOf sharedEntries).evaluate (.subject "cache") (.ofPairs [("CACHED", "no")]) =
        .ok ⟨[⟨"cache", [("CACHED", .bool false)]⟩]⟩ := by
  have hb : Schema.build sharedEntries = .ok (schemaOf sharedEntries) := by decide +kernel
  exact ⟨hb, findsAll_of_build hb, by decide +kernel⟩

end DeclaredEnv
