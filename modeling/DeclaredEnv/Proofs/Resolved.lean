import DeclaredEnv.Proofs.Evaluation

/-!
# What holds of resolved values

* `Base.Admits` — a value is one of a base kind, a double being finite.
* `Variable.Satisfied` — what a variable asks of its value, and of the value of the variable that
  its condition refers to.
* `Resolved.Satisfies` — the values are those of the variables of a target, and satisfy all of them.

Principal results: `get?_valuesOf` — a value is found under the names of its subject and variable.
`satisfied_of_not_offends` — the value of a variable without a problem satisfies it.
`satisfies_of_evaluate` — what an evaluation gives satisfies the schema.
-/

namespace DeclaredEnv

open Number

variable {s : Schema} {t : Subject} {v w : Variable} {env : Environment} {subjects : List Subject}

/-- A value of the base kind; a double is finite. -/
structure Base.Admits (b : Base) (x : Value) : Prop where
  base : x.base? = some b
  finite : ∀ d : Binary64, x = .float d → d.isFinite = true

/-- What a variable asks of its value `x`, where `valueOf` gives those of its subject. -/
structure Variable.Satisfied (v : Variable) (valueOf : String → Option Value) (x : Value) :
    Prop where
  kind : x = .null ∨ v.kind.base.Admits x
  default : v.default?.isSome = true → x ≠ .null
  required : v.kind.optional = false → v.requiredWhen = none → x ≠ .null
  conditional : ∀ c, v.condition = some c →
    ∃ y, valueOf c.reference = some y ∧ (c.holdsFor y = true → x ≠ .null)

/-- What a configuration holds for a variable: a value under its name, which satisfies it. -/
structure Resolved.Holds (r : Resolved) (t : Subject) (v : Variable) (p : String × Value) :
    Prop where
  name : p.1 = v.name
  found : r.get? t.name v.name = some p.2
  satisfied : v.Satisfied (r.get? t.name) p.2

/-- The values are those of the variables of the target, in order, and satisfy these. -/
structure Resolved.Satisfies (r : Resolved) (s : Schema) (target : Target)
    (subjects : List Subject) : Prop where
  selects : target.Selects s subjects
  holds : List.Forall₂ (fun t u => u.name = t.name ∧ List.Forall₂ (r.Holds t) t.vars u.values)
    subjects r.subjects

/-! ## Values of a kind -/

theorem Base.admits_of_read? {b : Base} {raw : String} {x : Value} (h : b.read? raw = some x) :
    b.Admits x := by
  refine ⟨Base.base?_of_read? h, ?_⟩
  rintro d rfl
  have hb : some Base.float = some b := Base.base?_of_read? h
  cases hb
  simp only [Base.read?, Option.map_eq_some_iff, Option.filter_eq_some_iff] at h
  obtain ⟨_, ⟨_, hfinite⟩, hx⟩ := h
  cases hx
  exact hfinite

theorem Base.Admits.ne_null {b : Base} {x : Value} (h : b.Admits x) : x ≠ .null := by
  rintro rfl
  cases h.base

/-- The default of a variable is a value of its kind. -/
theorem admits_default (hv : v.Coherent t) {d : Value} (h : v.default? = some d) :
    v.kind.base.Admits d := by
  obtain ⟨raw, hread⟩ := hv.default d h
  exact Base.admits_of_read? hread

/-- What is known of a variable was read from some text. -/
theorem exists_read?_of_known? (hv : v.Coherent t) {x : Value} (h : v.known? env = some x) :
    ∃ raw, v.kind.read? raw = some x := by
  cases hset : env v.name with
  | some raw =>
    rw [known?_of_set hset] at h
    exact ⟨raw, h⟩
  | none =>
    rw [known?_of_unset hset] at h
    exact hv.default x h

/-- What is known of a variable is a value of its kind. -/
theorem admits_of_known? (hv : v.Coherent t) {x : Value} (h : v.known? env = some x) :
    v.kind.base.Admits x := by
  obtain ⟨raw, hread⟩ := exists_read?_of_known? hv h
  exact Base.admits_of_read? hread

theorem valueIn_of_known? {x : Value} (h : v.known? env = some x) : v.valueIn env = x := by
  rw [Variable.valueIn, h, Option.getD_some]

theorem valueIn_ne_null (hv : v.Coherent t) (h : (v.known? env).isSome = true) :
    v.valueIn env ≠ .null := by
  obtain ⟨x, hx⟩ := Option.isSome_iff_exists.mp h
  rw [valueIn_of_known? hx]
  exact (admits_of_known? hv hx).ne_null

theorem known?_of_valueIn_eq {l : Literal} (h : v.valueIn env = l.toValue) :
    v.known? env = some l.toValue := by
  unfold Variable.valueIn at h
  cases hk : v.known? env with
  | none =>
    rw [hk, Option.getD_none] at h
    exact absurd h.symm l.toValue_ne_null
  | some x =>
    rw [hk, Option.getD_some] at h
    rw [h]

/-! ## A variable without a problem -/

/-- A variable without a problem is unknown only if it is not set and has no default. -/
theorem unset_of_known?_eq_none (h : ∀ p, ¬Offends t env v p) (hk : v.known? env = none) :
    env v.name = none ∧ v.default? = none := by
  cases hset : env v.name with
  | some raw =>
    rw [known?_of_set hset] at hk
    exact absurd (.mismatch hset hk) (h _)
  | none =>
    rw [known?_of_unset hset] at hk
    exact ⟨rfl, hk⟩

/-- **The value of a variable without a problem satisfies it.** -/
theorem satisfied_of_not_offends (ht : t.Coherent) (hv : v ∈ t.vars)
    (h : ∀ p, ¬Offends t env v p) {valueOf : String → Option Value}
    (hvalues : ∀ w ∈ t.vars, valueOf w.name = some (w.valueIn env)) :
    v.Satisfied valueOf (v.valueIn env) := by
  have hcoherent := ht.vars v hv
  have hnull : v.valueIn env = .null → env v.name = none ∧ v.default? = none := by
    intro hnull
    refine unset_of_known?_eq_none h ?_
    cases hk : v.known? env with
    | none => rfl
    | some x => exact absurd hnull (valueIn_ne_null hcoherent (by rw [hk]; rfl))
  constructor
  · cases hk : v.known? env with
    | none =>
      left
      rw [Variable.valueIn, hk, Option.getD_none]
    | some x =>
      right
      rw [valueIn_of_known? hk]
      exact admits_of_known? hcoherent hk
  · intro hdefault hx
    rw [(hnull hx).2] at hdefault
    cases hdefault
  · intro hrequired hwhen hx
    have hcondition : v.condition = none := by
      rw [← Option.isNone_iff_eq_none, ← Option.isSome_eq_false_iff, hcoherent.conditioned, hwhen]
      rfl
    exact h _ (.missing (hnull hx).1 (hnull hx).2 hcondition hrequired)
  · intro c hc
    obtain ⟨w, hw, hname, _⟩ := hcoherent.condition c hc
    refine ⟨w.valueIn env, hname ▸ hvalues w hw, fun hholds hx => ?_⟩
    have hknown : w.known? env = some c.expected.toValue :=
      known?_of_valueIn_eq (beq_iff_eq.mp hholds)
    exact h _ (.missingWhen (hnull hx).1 (hnull hx).2 hc hw hname hknown)

/-! ## Whole configurations -/

theorem get?_valuesOf (hnames : (subjects.map (·.name)).Nodup) (ht : t ∈ subjects)
    (hvars : (t.vars.map (·.name)).Nodup) (hv : v ∈ t.vars) :
    (valuesOf subjects env).get? t.name v.name = some (v.valueIn env) := by
  have hsubject : (⟨subjects⟩ : Schema).subject? t.name = some t :=
    (find?_key_eq_some_iff hnames).mpr ⟨ht, rfl⟩
  have hvariable : t.find? v.name = some v := (find?_key_eq_some_iff hvars).mpr ⟨hv, rfl⟩
  rw [get?_valuesOf_eq, Schema.lookup?, hsubject, Option.bind_some, hvariable, Option.map_some]

/-- **Without violations the values satisfy the variables of the target.** -/
theorem satisfies_valuesOf (hs : s.Coherent) {target : Target}
    (hselects : target.Selects s subjects) (h : Schema.violationsOf subjects env = []) :
    (valuesOf subjects env).Satisfies s target subjects := by
  have hcoherent : ∀ t ∈ subjects, t.Coherent := fun t ht =>
    hs.subjects t (hselects.sublist.subset ht)
  have hnames : (subjects.map (·.name)).Nodup := (hselects.sublist.map _).nodup hs.names
  refine ⟨hselects, List.forall₂_map_right_iff.mpr (List.forall₂_same.mpr fun t ht => ?_)⟩
  refine ⟨rfl, List.forall₂_map_right_iff.mpr (List.forall₂_same.mpr fun v hv => ?_)⟩
  have hfound : ∀ w ∈ t.vars, (valuesOf subjects env).get? t.name w.name = some (w.valueIn env) :=
    fun w hw => get?_valuesOf hnames ht (hcoherent t ht).names hw
  refine ⟨rfl, hfound v hv, satisfied_of_not_offends (hcoherent t ht) hv ?_ hfound⟩
  exact (violationsOf_eq_nil_iff_not_offends hcoherent).mp h t ht v hv

theorem selects_of_evaluate_eq_ok (hs : s.Coherent) {target : Target} {r : Resolved}
    (h : s.evaluate target env = .ok r) : ∃ subjects, target.Selects s subjects := by
  unfold Schema.evaluate at h
  split at h
  · cases h
  · rename_i subjects htarget
    exact ⟨subjects, (targetSubjects_eq_ok_iff hs).mp htarget⟩

/-- **What an evaluation gives satisfies the schema.** -/
theorem satisfies_of_evaluate {entries : List Entry} (hb : Schema.build entries = .ok s)
    {target : Target} {r : Resolved} (h : s.evaluate target env = .ok r) :
    ∃ subjects, r.Satisfies s target subjects := by
  have hs := coherent_of_build hb
  obtain ⟨subjects, hselects⟩ := selects_of_evaluate_eq_ok hs h
  rw [evaluate_eq hs hselects] at h
  split at h
  · rename_i hnil
    cases h
    exact ⟨subjects, satisfies_valuesOf hs hselects hnil⟩
  · cases h

theorem satisfies_of_evaluate_sample :
    Schema.build sampleEntries = .ok ⟨[sampleSubject]⟩ ∧
      ∃ subjects, Resolved.Satisfies ⟨[⟨"store", [("MODE", .str "local"), ("URL", .null)]⟩]⟩
        ⟨[sampleSubject]⟩ (.subject "store") subjects := by
  have hb : Schema.build sampleEntries = .ok ⟨[sampleSubject]⟩ := by rfl
  have he : Schema.evaluate ⟨[sampleSubject]⟩ (.subject "store") (fun _ => none) =
      .ok ⟨[⟨"store", [("MODE", .str "local"), ("URL", .null)]⟩]⟩ := by rfl
  exact ⟨hb, satisfies_of_evaluate hb he⟩

end DeclaredEnv
