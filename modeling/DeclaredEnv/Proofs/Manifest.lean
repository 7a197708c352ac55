import DeclaredEnv.Manifest
import DeclaredEnv.Proofs.Agreement

/-!
# What a manifest says of a schema

* `Json.field?`, `Json.item?` — looking up in a JSON value.
* `Json.defaultAt?` — the default that a manifest shows for a variable.

Principal results: `same_schema_manifest_iff` — two coherent schemas have the same manifest exactly
if they agree.  `defaultAt?_eq_null_iff` — a manifest shows `null` for a default exactly if there is
none.  `same_manifest_iff` — so the manifest of what was built keeps all that an evaluation uses.
-/

namespace DeclaredEnv

open Number

/-! ## Equality of JSON values -/

namespace Json

/-- Neither a double nor made of other values. -/
def isPlain : Json → Bool
  | .null | .bool _ | .int _ | .str _ => true
  | .float _ | .arr _ | .obj _ => false

/-- A plain value is the same as itself only. -/
theorem same_iff_eq {j k : Json} (h : j.isPlain = true) : j.same k = true ↔ j = k := by
  cases j with
  | float | arr | obj => cases h
  | null =>
    cases k with
    | null => exact ⟨fun _ => rfl, fun _ => rfl⟩
    | bool | int | float | str | arr | obj => exact ⟨nofun, nofun⟩
  | bool a =>
    cases k with
    | bool b => exact beq_iff_eq.trans (by rw [bool.injEq])
    | null | int | float | str | arr | obj => exact ⟨nofun, nofun⟩
  | int m =>
    cases k with
    | int n => exact beq_iff_eq.trans (by rw [int.injEq])
    | null | bool | float | str | arr | obj => exact ⟨nofun, nofun⟩
  | str a =>
    cases k with
    | str b => exact beq_iff_eq.trans (by rw [str.injEq])
    | null | bool | int | float | arr | obj => exact ⟨nofun, nofun⟩

theorem sameItems_map_iff {α β : Type} {f : α → Json} {g : β → Json} :
    ∀ {xs : List α} {ys : List β}, sameItems (xs.map f) (ys.map g) = true ↔
      List.Forall₂ (fun x y => (f x).same (g y) = true) xs ys
  | [], [] => ⟨fun _ => .nil, fun _ => rfl⟩
  | [], _ :: _ => ⟨nofun, nofun⟩
  | _ :: _, [] => ⟨nofun, nofun⟩
  | x :: xs, y :: ys => by
    show ((f x).same (g y) && sameItems (xs.map f) (ys.map g)) = true ↔ _
    rw [Bool.and_eq_true, sameItems_map_iff, List.forall₂_cons]

/-- Arrays are the same if they correspond element by element. -/
@[simp] theorem same_arr_map_iff {α β : Type} {f : α → Json} {g : β → Json} {xs : List α}
    {ys : List β} : (arr (xs.map f)).same (arr (ys.map g)) = true ↔
      List.Forall₂ (fun x y => (f x).same (g y) = true) xs ys :=
  sameItems_map_iff

@[simp] theorem same_str_iff {a b : String} : (str a).same (str b) = true ↔ a = b := by
  rw [same_iff_eq rfl, str.injEq]

@[simp] theorem same_bool_iff {a b : Bool} : (bool a).same (bool b) = true ↔ a = b := by
  rw [same_iff_eq rfl, bool.injEq]

@[simp] theorem same_strings_iff {xs ys : List String} :
    (arr (xs.map str)).same (arr (ys.map str)) = true ↔ xs = ys := by
  simp only [same_arr_map_iff, same_str_iff, List.forall₂_eq_eq_eq]

/-- Objects are the same field by field. -/
@[simp] theorem same_obj_cons_iff {key key' : String} {x y : Json} {xs ys : List (String × Json)} :
    (obj ((key, x) :: xs)).same (obj ((key', y) :: ys)) = true ↔
      (key = key' ∧ x.same y = true) ∧ (obj xs).same (obj ys) = true := by
  show (key == key' && x.same y && (obj xs).same (obj ys)) = true ↔ _
  rw [Bool.and_eq_true, Bool.and_eq_true, beq_iff_eq]

@[simp] theorem same_obj_nil : (obj []).same (obj []) = true := rfl

@[simp] theorem same_null_iff {j : Json} : j.same .null = true ↔ j = .null := by
  cases j with
  | null => exact ⟨fun _ => rfl, fun _ => rfl⟩
  | bool | int | float | str | arr | obj => exact ⟨nofun, nofun⟩

@[simp] theorem null_same_iff {j : Json} : Json.null.same j = true ↔ j = .null := by
  rw [same_iff_eq rfl, eq_comm]

/-- A field of an object. -/
def field? : Json → String → Option Json
  | .obj fields, key => fields.lookup key
  | _, _ => none

/-- An item of an array. -/
def item? : Json → Nat → Option Json
  | .arr items, place => items[place]?
  | _, _ => none

end Json

/-! ## Values, conditions and variables -/

/-- Optional values that are not themselves `null` are the same in JSON as they are. -/
theorem same_optionalJson_iff {α : Type} {f : α → Json} {R : α → α → Prop} {a? b? : Option α}
    (ha : ∀ a, a? = some a → f a ≠ .null) (hb : ∀ b, b? = some b → f b ≠ .null)
    (hR : ∀ a b, a? = some a → b? = some b → ((f a).same (f b) = true ↔ R a b)) :
    (optionalJson f a?).same (optionalJson f b?) = true ↔ Option.Rel R a? b? := by
  cases a? with
  | none =>
    rw [optionalJson, Json.null_same_iff]
    cases b? with
    | none => exact ⟨fun _ => .none, fun _ => rfl⟩
    | some b => exact ⟨fun h => absurd h (hb b rfl), nofun⟩
  | some a =>
    cases b? with
    | none =>
      rw [optionalJson, optionalJson, Json.same_null_iff]
      exact ⟨fun h => absurd h (ha a rfl), nofun⟩
    | some b =>
      rw [optionalJson, optionalJson, hR a b rfl rfl]
      exact ⟨.some, fun | .some h => h⟩

theorem toJson_ne_null {b : Base} {x : Value} (h : b.Admits x) : x.toJson ≠ .null := by
  cases x with
  | null => exact absurd rfl h.ne_null
  | float d =>
    rw [Value.toJson, if_pos (h.finite d rfl)]
    nofun
  | str | int | bool => nofun

/-- Values of base kinds are the same in JSON exactly if they are the same. -/
theorem same_toJson_iff {b b' : Base} {x y : Value} (hx : b.Admits x) (hy : b'.Admits y) :
    x.toJson.same y.toJson = true ↔ x.same y = true := by
  have hfloat (d : Binary64) (hd : d.isFinite = true) : (Value.float d).toJson = .float d :=
    if_pos hd
  cases x with
  | null => exact absurd rfl hx.ne_null
  | float d =>
    rw [hfloat d (hx.finite d rfl)]
    cases y with
    | null => exact absurd rfl hy.ne_null
    | float e =>
      rw [hfloat e (hy.finite e rfl)]
      exact Iff.rfl
    | str | int | bool => exact ⟨nofun, nofun⟩
  | str | int | bool =>
    refine (Json.same_iff_eq rfl).trans (Iff.trans ?_ (Value.same_iff_eq (by nofun)).symm)
    cases y with
    | null => exact absurd rfl hy.ne_null
    | float e =>
      rw [hfloat e (hy.finite e rfl)]
      exact ⟨nofun, nofun⟩
    | str | int | bool => simp [Value.toJson]

theorem same_literal_toJson_iff {l m : Literal} :
    l.toValue.toJson.same m.toValue.toJson = true ↔ l = m := by
  rw [Json.same_iff_eq (by cases l <;> rfl)]
  cases l <;> cases m <;> simp [Literal.toValue, Value.toJson]

theorem same_condition_toJson_iff {c d : Condition} : c.toJson.same d.toJson = true ↔ c = d := by
  obtain ⟨reference, expected⟩ := c
  obtain ⟨reference', expected'⟩ := d
  simp [Condition.toJson, same_literal_toJson_iff]

theorem optionRel_eq_iff {α : Type} {a? b? : Option α} : Option.Rel (· = ·) a? b? ↔ a? = b? := by
  cases a? <;> cases b? <;> simp

theorem kind_eq_iff {k l : Kind} :
    k.base.token = l.base.token ∧ k.optional = l.optional ↔ k = l := by
  obtain ⟨base, optional⟩ := k
  obtain ⟨base', optional'⟩ := l
  cases base <;> cases base' <;> simp [Base.token]

variable {s s' : Schema} {t u : Subject} {v w : Variable}

theorem same_default_iff (hv : v.Coherent t) (hw : w.Coherent u) :
    (optionalJson Value.toJson v.default?).same (optionalJson Value.toJson w.default?) = true ↔
      SameOption v.default? w.default? :=
  same_optionalJson_iff (fun _ hd => toJson_ne_null (admits_default hv hd))
    (fun _ he => toJson_ne_null (admits_default hw he))
    (fun _ _ hd he => same_toJson_iff (admits_default hv hd) (admits_default hw he))

theorem condition_toJson_ne_null (c : Condition) : c.toJson ≠ .null := nofun

theorem same_condition_iff {c? d? : Option Condition} :
    (optionalJson Condition.toJson c?).same (optionalJson Condition.toJson d?) = true ↔
      c? = d? := by
  rw [← optionRel_eq_iff]
  exact same_optionalJson_iff (fun c _ => condition_toJson_ne_null c)
    (fun d _ => condition_toJson_ne_null d) (fun _ _ _ _ => same_condition_toJson_iff)

/-- **Variables look the same in a manifest exactly if they agree.** -/
theorem same_variable_manifest_iff (hv : v.Coherent t) (hw : w.Coherent u)
    (hsubject : t.name = u.name) : v.manifest.same w.manifest = true ↔ v.Agrees w := by
  simp only [Variable.manifest, Json.same_obj_cons_iff, Json.same_obj_nil, Json.same_str_iff,
    Json.same_bool_iff, Json.same_strings_iff, same_default_iff hv hw, same_condition_iff,
    true_and, and_true]
  constructor
  · rintro ⟨name, _, token, optional, _, default, description, condition, applications⟩
    exact ⟨hv.subject.trans (hsubject.trans hw.subject.symm), name,
      kind_eq_iff.mp ⟨token, optional⟩, default, description, condition, applications⟩
  · intro h
    -- the field name, the two parts of the kind and the requirement follow from the declaration
    exact ⟨h.name, h.name ▸ rfl, h.kind ▸ rfl, h.kind ▸ rfl, h.requirement ▸ rfl, h.default,
      h.description, h.condition, h.applications⟩

/-- **So do subjects.** -/
theorem same_subject_manifest_iff (ht : t.Coherent) (hu : u.Coherent) :
    t.manifest.same u.manifest = true ↔ t.Agrees u := by
  have hvars (hname : t.name = u.name) :
      List.Forall₂ (fun v w => v.manifest.same w.manifest = true) t.vars u.vars ↔
        List.Forall₂ Variable.Agrees t.vars u.vars :=
    forall₂_congr fun v hv w hw => same_variable_manifest_iff (ht.vars v hv) (hu.vars w hw) hname
  simp only [Subject.manifest, Json.same_obj_cons_iff, Json.same_obj_nil, Json.same_str_iff,
    Json.same_arr_map_iff, true_and, and_true]
  constructor
  · rintro ⟨name, _, _, vars⟩
    exact ⟨name, (hvars name).mp vars⟩
  · intro h
    exact ⟨h.name, h.name ▸ rfl, h.name ▸ rfl, (hvars h.name).mpr h.vars⟩

theorem same_scope_manifest_self (a : Scope) : a.manifest.same a.manifest = true := by
  simp [Scope.manifest]

/-- **And so do schemas: the applications follow from the subjects.** -/
theorem same_schema_manifest_iff (hs : s.Coherent) (hs' : s'.Coherent) :
    s.manifest.same s'.manifest = true ↔ s.Agrees s' := by
  have hsubjects : List.Forall₂ (fun t u => t.manifest.same u.manifest = true) s.subjects
      s'.subjects ↔ s.Agrees s' :=
    forall₂_congr fun t ht u hu => same_subject_manifest_iff (hs.subjects t ht) (hs'.subjects u hu)
  simp only [Schema.manifest, Json.same_obj_cons_iff, Json.same_obj_nil, Json.same_arr_map_iff,
    hsubjects, true_and, and_true]
  constructor
  · exact fun h => h.1
  · intro h
    refine ⟨h, ?_⟩
    rw [h.scopes, List.forall₂_same]
    exact fun a _ => same_scope_manifest_self a

/-! ## Defaults in a manifest -/

/-- The default that a manifest shows for the variable at a place of the subject at a place. -/
def Json.defaultAt? (manifest : Json) (i j : Nat) : Option Json := do
  let subjects ← manifest.field? "subjects"
  let subject ← subjects.item? i
  let declared ← subject.field? "variables"
  let declaration ← declared.item? j
  declaration.field? "default"

/-- The variable at a place of the subject at a place. -/
def Schema.variableAt? (s : Schema) (i j : Nat) : Option Variable := do
  let t ← s.subjects[i]?
  t.vars[j]?

theorem defaultAt?_manifest (s : Schema) (i j : Nat) : s.manifest.defaultAt? i j =
    (s.variableAt? i j).map fun v => optionalJson Value.toJson v.default? := by
  have hsubjects : s.manifest.field? "subjects" = some (.arr (s.subjects.map Subject.manifest)) :=
    rfl
  have hvars (t : Subject) : t.manifest.field? "variables" =
      some (.arr (t.vars.map Variable.manifest)) := rfl
  have hdefault (v : Variable) : v.manifest.field? "default" =
      some (optionalJson Value.toJson v.default?) := rfl
  simp only [Json.defaultAt?, Schema.variableAt?, hsubjects, Option.bind_eq_bind, Option.bind_some,
    Json.item?, List.getElem?_map]
  cases s.subjects[i]? with
  | none => rfl
  | some t =>
    simp only [Option.map_some, Option.bind_some, hvars, List.getElem?_map]
    cases t.vars[j]? with
    | none => rfl
    | some v => exact hdefault v

theorem optionalJson_default_eq_null_iff (hv : v.Coherent t) :
    optionalJson Value.toJson v.default? = .null ↔ v.default? = none := by
  cases hd : v.default? with
  | none => exact ⟨fun _ => rfl, fun _ => rfl⟩
  | some d => exact ⟨fun h => absurd h (toJson_ne_null (admits_default hv hd)), nofun⟩

theorem Schema.Coherent.exists_coherent (hs : s.Coherent) {i j : Nat}
    (h : s.variableAt? i j = some v) : ∃ t, v.Coherent t := by
  obtain ⟨t, ht, hv⟩ := Option.bind_eq_some_iff.mp h
  exact ⟨t, (hs.subjects t (List.mem_of_getElem? ht)).vars v (List.mem_of_getElem? hv)⟩

/-- **A manifest shows `null` for the default of a variable exactly if it has none.** -/
theorem defaultAt?_eq_null_iff (hs : s.Coherent) (i j : Nat) :
    s.manifest.defaultAt? i j = some .null ↔
      ∃ v, s.variableAt? i j = some v ∧ v.default? = none := by
  rw [defaultAt?_manifest, Option.map_eq_some_iff]
  refine exists_congr fun v => and_congr_right fun h => ?_
  obtain ⟨t, hv⟩ := hs.exists_coherent h
  exact optionalJson_default_eq_null_iff hv

/-! ## Manifests of what was built -/

/-- **The manifest of a schema that was built loses nothing that an evaluation uses: it is the same
exactly for schemas that agree, and these have the same scopes and evaluate every environment to the
same result.  Its default is `null` exactly if there is none.** -/
theorem same_manifest_iff {entries entries' : List Entry} (h : Schema.build entries = .ok s)
    (h' : Schema.build entries' = .ok s') :
    (s.manifest.same s'.manifest = true ↔ s.Agrees s') ∧
      (s.Agrees s' → s.scopes = s'.scopes ∧
        ∀ target env, SameResult (s.evaluate target env) (s'.evaluate target env)) ∧
      ∀ i j, s.manifest.defaultAt? i j = some .null ↔
        ∃ v, s.variableAt? i j = some v ∧ v.default? = none := by
  have hs := coherent_of_build h
  have hs' := coherent_of_build h'
  exact ⟨same_schema_manifest_iff hs hs', fun ha => ⟨ha.scopes, ha.evaluate hs hs'⟩,
    defaultAt?_eq_null_iff hs⟩

/-- A variable with the default and the condition as they are given, and one that it refers to. -/
def ratioEntries (default condition : String) : List Entry :=
  [⟨"store", "MODE", "str", "", some "local", none, ["api"]⟩,
    ⟨"store", "RATIO", "float", "", some default, some condition, ["api"]⟩]

/-- Neither the sign of a zero nor blanks in a condition make a difference. -/
theorem same_manifest_iff_ratio :
    Schema.build (ratioEntries "0" "MODE=local") =
        .ok (schemaOf (ratioEntries "0" "MODE=local")) ∧
      Schema.build (ratioEntries "-0.0" " MODE = local") =
        .ok (schemaOf (ratioEntries "-0.0" " MODE = local")) ∧
      (schemaOf (ratioEntries "0" "MODE=local")).Agrees
        (schemaOf (ratioEntries "-0.0" " MODE = local")) ∧
      ∀ target env, SameResult ((schemaOf (ratioEntries "0" "MODE=local")).evaluate target env)
        ((schemaOf (ratioEntries "-0.0" " MODE = local")).evaluate target env) := by
  have hb : Schema.build (ratioEntries "0" "MODE=local") =
      .ok (schemaOf (ratioEntries "0" "MODE=local")) := by decide +kernel
  have hb' : Schema.build (ratioEntries "-0.0" " MODE = local") =
      .ok (schemaOf (ratioEntries "-0.0" " MODE = local")) := by decide +kernel
  obtain ⟨hsame, hresults, _⟩ := same_manifest_iff hb hb'
  have hagree := hsame.mp (by decide +kernel)
  exact ⟨hb, hb', hagree, (hresults hagree).2⟩

end DeclaredEnv
