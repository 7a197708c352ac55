import DeclaredEnv.Toml.Document
import Mathlib.Data.List.Nodup

/-!
# The tables of a document hold each key once

* `Value.Distinct` — in a value every table, however deep, holds each key once.
* `Node.Distinct`, `Fields.Distinct` — the same of a document under construction.
* `Fields.Keeps` — a change of a table that leaves its keys distinct.

Principal results: `Fields.keeps_within`, `keeps_assignIn`, `keeps_openTable`, `keeps_openElement` —
the changes that a document is made of keep keys distinct, wherever they are made.
`Document.step_distinct` — so each statement does.  `Document.distinct_of_ofText?` — and every
document that can be read has distinct keys.
-/

namespace DeclaredEnv.Toml

/-- Every table in the value holds each key once. -/
inductive Value.Distinct : Value → Prop where
  | scalar (s : Scalar) : Value.Distinct (.scalar s)
  | array {items : List Value} (values : ∀ v ∈ items, v.Distinct) : Value.Distinct (.array items)
  | table {fields : Table} (keys : (fields.map (·.1)).Nodup)
      (values : ∀ field ∈ fields, field.2.Distinct) : Value.Distinct (.table fields)

/-- Every table in the part of a document holds each key once. -/
inductive Node.Distinct : Node → Prop where
  | value {v : Value} (value : v.Distinct) : Node.Distinct (.value v)
  | table {origin : Origin} {fields : List (String × Node)} (keys : (fields.map (·.1)).Nodup)
      (nodes : ∀ field ∈ fields, field.2.Distinct) : Node.Distinct (.table origin fields)
  | tables {elements : List (List (String × Node))}
      (keys : ∀ fields ∈ elements, (fields.map (·.1)).Nodup)
      (nodes : ∀ fields ∈ elements, ∀ field ∈ fields, field.2.Distinct) :
      Node.Distinct (.tables elements)

/-- A table under construction holds each key once, and so do the tables in it. -/
structure Fields.Distinct (fields : Fields) : Prop where
  keys : (fields.map (·.1)).Nodup
  nodes : ∀ field ∈ fields, field.2.Distinct

/-- A change of a table that leaves keys distinct, if it can be made. -/
def Fields.Keeps (f : Fields → Option Fields) : Prop :=
  ∀ fields fields' : Fields, fields.Distinct → f fields = some fields' → fields'.Distinct

variable {key : String} {node : Node} {fields fields' : Fields} {v : Value} {text : String}

theorem Node.distinct_table_iff {origin : Origin} :
    (Node.table origin fields).Distinct ↔ fields.Distinct := by
  constructor
  · rintro ⟨⟩
    rename_i keys nodes
    exact ⟨keys, nodes⟩
  · exact fun h => .table h.keys h.nodes

theorem Node.distinct_tables_iff {elements : List Fields} :
    (Node.tables elements).Distinct ↔ ∀ fields ∈ elements, fields.Distinct := by
  constructor
  · rintro ⟨⟩
    rename_i keys nodes
    exact fun fields h => ⟨keys fields h, nodes fields h⟩
  · exact fun h => .tables (fun fields hf => (h fields hf).keys) fun fields hf => (h fields hf).nodes

/-! ## One key of a table -/

theorem Fields.map_fst_put (key : String) (node : Node) : ∀ fields : Fields,
    (fields.put key node).map (·.1) =
      if key ∈ fields.map (·.1) then fields.map (·.1) else fields.map (·.1) ++ [key]
  | [] => by simp [put]
  | (k, n) :: rest => by
    have ih := map_fst_put key node rest
    by_cases h : k = key
    · simp [put, h]
    · have hne : ¬key = k := fun heq => h heq.symm
      simp only [put, if_neg h, List.map_cons, ih, List.mem_cons, hne, false_or]
      split <;> simp

theorem Fields.eq_or_mem_of_mem_put {field : String × Node} :
    ∀ {fields : Fields}, field ∈ fields.put key node → field = (key, node) ∨ field ∈ fields
  | [], h => .inl (List.mem_singleton.mp h)
  | (k, n) :: rest, h => by
    unfold put at h
    split at h
    · rcases List.mem_cons.mp h with rfl | h
      · rename_i hk
        exact .inl (by rw [hk])
      · exact .inr (List.mem_cons_of_mem _ h)
    · rcases List.mem_cons.mp h with rfl | h
      · exact .inr List.mem_cons_self
      · exact (eq_or_mem_of_mem_put h).imp_right (List.mem_cons_of_mem _)

theorem Fields.distinct_nil : Fields.Distinct [] := ⟨List.nodup_nil, nofun⟩

theorem Fields.Distinct.put (h : fields.Distinct) (hnode : node.Distinct) :
    (fields.put key node).Distinct := by
  constructor
  · rw [map_fst_put]
    split
    · exact h.keys
    · rename_i hkey
      refine List.nodup_append.mpr ⟨h.keys, List.nodup_singleton key, ?_⟩
      rintro k hk _ hlast rfl
      exact hkey (List.mem_singleton.mp hlast ▸ hk)
  · intro field hfield
    rcases eq_or_mem_of_mem_put hfield with rfl | hfield
    · exact hnode
    · exact h.nodes field hfield

/-- A key that was taken out can be added at the end. -/
theorem Fields.Distinct.remove_append (h : fields.Distinct) (hnode : node.Distinct) :
    Fields.Distinct (fields.remove key ++ [(key, node)]) := by
  have hkeys : (fields.remove key).map (·.1) = (fields.map (·.1)).filter (· != key) := by
    rw [remove, List.filter_map]
    rfl
  constructor
  · rw [List.map_append, hkeys, List.map_singleton]
    refine List.nodup_append.mpr ⟨h.keys.filter _, List.nodup_singleton key, ?_⟩
    simp
  · intro field hfield
    rcases List.mem_append.mp hfield with hfield | hfield
    · exact h.nodes field (List.mem_of_mem_filter hfield)
    · obtain rfl := List.mem_singleton.mp hfield
      exact hnode

theorem Fields.Distinct.append (h : fields.Distinct) (hkey : fields.lookup key = none)
    (hnode : node.Distinct) : Fields.Distinct (fields ++ [(key, node)]) := by
  have hremove : fields.remove key = fields := by
    refine List.filter_eq_self.mpr fun field hfield => ?_
    have hne := List.lookup_eq_none_iff.mp hkey field hfield
    simpa [bne, BEq.comm] using hne
  rw [← hremove]
  exact h.remove_append hnode

theorem Fields.Distinct.lookup (h : fields.Distinct) (hkey : fields.lookup key = some node) :
    node.Distinct := by
  obtain ⟨before, after, hsplit, _⟩ := List.lookup_eq_some_iff.mp hkey
  exact h.nodes (key, node) (by simp [hsplit])

theorem Fields.Distinct.lookup_table {origin : Origin} (h : fields.Distinct)
    (hkey : fields.lookup key = some (.table origin fields')) : fields'.Distinct :=
  Node.distinct_table_iff.mp (h.lookup hkey)

/-! ## Changes further inside -/

section Changes

variable {f : Fields → Option Fields}

theorem Fields.Keeps.inLast (hf : Keeps f) : ∀ {elements elements' : List Fields},
    (∀ fields ∈ elements, fields.Distinct) → Fields.inLast f elements = some elements' →
      ∀ fields ∈ elements', fields.Distinct
  | [], _, _, h => by cases h
  | [last], _, hall, h => by
    obtain ⟨last', hlast, rfl⟩ := Option.map_eq_some_iff.mp h
    rw [List.forall_mem_singleton] at hall ⊢
    exact hf last last' hall hlast
  | first :: second :: rest, _, hall, h => by
    obtain ⟨rest', hrest, rfl⟩ := Option.map_eq_some_iff.mp h
    obtain ⟨hfirst, hall⟩ := List.forall_mem_cons.mp hall
    exact List.forall_mem_cons.mpr ⟨hfirst, hf.inLast hall hrest⟩

theorem Fields.Keeps.put_table (hf : Keeps f) {origin : Origin} (h : fields.Distinct)
    {inner inner' : Fields} (hd : inner.Distinct) (hinner : f inner = some inner') :
    (fields.put key (.table origin inner')).Distinct :=
  h.put (Node.distinct_table_iff.mpr (hf inner inner' hd hinner))

theorem Fields.Keeps.put_tables (hf : Keeps f) {elements elements' : List Fields}
    (h : fields.Distinct) (hkey : fields.lookup key = some (.tables elements))
    (hlast : Fields.inLast f elements = some elements') :
    (fields.put key (.tables elements')).Distinct := by
  have hall := Node.distinct_tables_iff.mp (h.lookup hkey)
  exact h.put (Node.distinct_tables_iff.mpr (hf.inLast hall hlast))

/-- **A change that keeps keys distinct does so in the table that a path leads to.** -/
theorem Fields.keeps_within (hf : Keeps f) : ∀ path : List String, Keeps (within f path)
  | [] => hf
  | key :: path => by
    have ih := keeps_within hf path
    intro fields fields' h hw
    unfold within at hw
    split at hw
    · obtain ⟨inner, hinner, rfl⟩ := Option.map_eq_some_iff.mp hw
      exact ih.put_table h distinct_nil hinner
    · rename_i origin inner hkey
      obtain ⟨inner', hinner, rfl⟩ := Option.map_eq_some_iff.mp hw
      exact ih.put_table h (h.lookup_table hkey) hinner
    · rename_i elements hkey
      obtain ⟨elements', hlast, rfl⟩ := Option.map_eq_some_iff.mp hw
      exact ih.put_tables h hkey hlast
    · cases hw

end Changes

/-- **A value added under a dotted key keeps keys distinct.** -/
theorem keeps_assignIn (hv : v.Distinct) (last : String) :
    ∀ parents : List String, Fields.Keeps (assignIn last v parents)
  | [] => by
    intro fields fields' h ha
    unfold assignIn at ha
    split at ha
    · cases ha
    · cases ha
      exact h.put (.value hv)
  | key :: parents => by
    have ih := keeps_assignIn hv last parents
    intro fields fields' h ha
    unfold assignIn at ha
    split at ha
    · obtain ⟨inner, hinner, rfl⟩ := Option.map_eq_some_iff.mp ha
      exact ih.put_table h Fields.distinct_nil hinner
    · rename_i inner hkey
      obtain ⟨inner', hinner, rfl⟩ := Option.map_eq_some_iff.mp ha
      exact ih.put_table h (h.lookup_table hkey) hinner
    · rename_i inner hkey
      split at ha
      · cases ha
      · obtain ⟨inner', hinner, rfl⟩ := Option.map_eq_some_iff.mp ha
        exact ih.put_table h (h.lookup_table hkey) hinner
    · rename_i elements hkey
      split at ha
      · cases ha
      · obtain ⟨elements', hlast, rfl⟩ := Option.map_eq_some_iff.mp ha
        exact ih.put_tables h hkey hlast
    · cases ha
    · cases ha

theorem keeps_openTable (key : String) : Fields.Keeps (openTable key) := by
  intro fields fields' h ho
  unfold openTable at ho
  split at ho
  · rename_i hkey
    cases ho
    exact h.append hkey (Node.distinct_table_iff.mpr Fields.distinct_nil)
  · rename_i inner hkey
    cases ho
    exact h.remove_append (Node.distinct_table_iff.mpr (h.lookup_table hkey))
  · cases ho

theorem keeps_openElement (key : String) : Fields.Keeps (openElement key) := by
  intro fields fields' h ho
  unfold openElement at ho
  split at ho
  · cases ho
    exact h.put (Node.distinct_tables_iff.mpr (by simp [Fields.distinct_nil]))
  · rename_i elements hkey
    cases ho
    have hall := Node.distinct_tables_iff.mp (h.lookup hkey)
    refine h.put (Node.distinct_tables_iff.mpr fun fields hfields => ?_)
    rcases List.mem_append.mp hfields with hfields | hfields
    · exact hall fields hfields
    · rw [List.mem_singleton.mp hfields]
      exact Fields.distinct_nil
  · cases ho

/-- What every step of a run keeps holds at its end. -/
theorem foldlM_keeps {σ α : Type} {P : σ → Prop} {f : σ → α → Option σ} :
    ∀ {l : List α} {s s' : σ}, (∀ a ∈ l, ∀ s s', P s → f s a = some s' → P s') → P s →
      l.foldlM f s = some s' → P s'
  | [], _, _, _, hs, h => by
    cases h
    exact hs
  | a :: l, s, s', hstep, hs, h => by
    rw [List.foldlM_cons, Option.bind_eq_bind, Option.bind_eq_some_iff] at h
    obtain ⟨t, ht, h⟩ := h
    obtain ⟨ha, hl⟩ := List.forall_mem_cons.mp hstep
    exact foldlM_keeps hl (ha s t hs ht) h

/-! ## Finished values -/

theorem fieldsToTable_eq : ∀ fields : Fields,
    fieldsToTable fields = fields.map fun field => (field.1, field.2.toValue)
  | [] => rfl
  | (key, node) :: rest => by rw [fieldsToTable, fieldsToTable_eq rest, List.map_cons]

theorem elementsToValues_eq : ∀ elements : List Fields,
    elementsToValues elements = elements.map fun fields => .table (fieldsToTable fields)
  | [] => rfl
  | fields :: rest => by rw [elementsToValues, elementsToValues_eq rest, List.map_cons]

/-- A finished table holds each key once if its values hold each key once. -/
theorem distinct_fieldsToTable (keys : (fields.map (·.1)).Nodup)
    (values : ∀ field ∈ fields, field.2.toValue.Distinct) :
    (Value.table (fieldsToTable fields)).Distinct := by
  rw [fieldsToTable_eq]
  refine .table ?_ ?_
  · rw [List.map_map]
    exact keys
  · intro _ hmem
    obtain ⟨field, hfield, rfl⟩ := List.mem_map.mp hmem
    exact values field hfield

theorem Node.Distinct.toValue (h : node.Distinct) : node.toValue.Distinct := by
  induction h with
  | value hv =>
    rw [Node.toValue]
    exact hv
  | table keys _ ih =>
    rw [Node.toValue]
    exact distinct_fieldsToTable keys ih
  | tables keys _ ih =>
    rw [Node.toValue, elementsToValues_eq]
    refine .array fun v hv => ?_
    obtain ⟨fields, hfields, rfl⟩ := List.mem_map.mp hv
    exact distinct_fieldsToTable (keys fields hfields) (ih fields hfields)

theorem Fields.Distinct.toTable (h : fields.Distinct) :
    (Value.table (fieldsToTable fields)).Distinct :=
  distinct_fieldsToTable h.keys fun field hfield => (h.nodes field hfield).toValue

theorem distinct_of_assignAll {assignments : List (KeyPath × Value)}
    (hvalues : ∀ a ∈ assignments, a.2.Distinct) (h : assignAll assignments = some fields) :
    fields.Distinct :=
  foldlM_keeps (P := Fields.Distinct)
    (fun a ha => keeps_assignIn (hvalues a ha) a.1.last a.1.parents) Fields.distinct_nil h

mutual

/-- The value of a term has distinct keys. -/
theorem distinct_of_toValue? : ∀ (t : Term) {v : Value}, t.toValue? = some v → v.Distinct
  | .scalar s, _, h => by
    cases h
    exact .scalar s
  | .array items, _, h => by
    rw [Term.toValue?, Option.map_eq_some_iff] at h
    obtain ⟨values, hvalues, rfl⟩ := h
    exact .array (distinct_of_termsToValues? items hvalues)
  | .inline fields, _, h => by
    simp only [Term.toValue?, Option.bind_eq_bind, Option.bind_eq_some_iff] at h
    obtain ⟨assignments, hassignments, root, hroot, h⟩ := h
    cases h
    have hvalues := distinct_of_fieldsToAssignments? fields hassignments
    exact (distinct_of_assignAll hvalues hroot).toTable

theorem distinct_of_termsToValues? : ∀ (items : List Term) {values : List Value},
    termsToValues? items = some values → ∀ v ∈ values, v.Distinct
  | [], _, h => by
    cases h
    nofun
  | t :: rest, _, h => by
    simp only [termsToValues?, Option.bind_eq_bind, Option.bind_eq_some_iff] at h
    obtain ⟨v, hv, values, hvalues, h⟩ := h
    cases h
    exact List.forall_mem_cons.mpr
      ⟨distinct_of_toValue? t hv, distinct_of_termsToValues? rest hvalues⟩

theorem distinct_of_fieldsToAssignments? : ∀ (fields : List (KeyPath × Term))
    {assignments : List (KeyPath × Value)}, fieldsToAssignments? fields = some assignments →
      ∀ a ∈ assignments, a.2.Distinct
  | [], _, h => by
    cases h
    nofun
  | (path, t) :: rest, _, h => by
    simp only [fieldsToAssignments?, Option.bind_eq_bind, Option.bind_eq_some_iff] at h
    obtain ⟨v, hv, more, hmore, h⟩ := h
    cases h
    exact List.forall_mem_cons.mpr
      ⟨distinct_of_toValue? t hv, distinct_of_fieldsToAssignments? rest hmore⟩

end

/-! ## Moments in place of tables -/

theorem map_fst_fieldsWithMoments? : ∀ {fields fields' : Table},
    fieldsWithMoments? fields = some fields' → fields'.map (·.1) = fields.map (·.1)
  | [], _, h => by
    cases h
    rfl
  | (key, v) :: rest, _, h => by
    simp only [fieldsWithMoments?, Option.bind_eq_bind, Option.bind_eq_some_iff] at h
    obtain ⟨v', _, rest', hrest, h⟩ := h
    cases h
    rw [List.map_cons, List.map_cons, map_fst_fieldsWithMoments? hrest]

theorem distinct_of_momentOf? {w : Value} (h : momentOf? v = some w) : w.Distinct := by
  unfold momentOf? at h
  split at h
  · split at h
    · cases h
      exact .scalar .datetime
    · cases h
  · cases h

mutual

theorem Value.Distinct.withMoments? : ∀ {v w : Value}, v.Distinct → v.withMoments? = some w →
    w.Distinct
  | .scalar s, _, _, h => by
    cases h
    exact .scalar s
  | .array items, _, .array hitems, h => by
    rw [Value.withMoments?, Option.map_eq_some_iff] at h
    obtain ⟨items', hmoments, rfl⟩ := h
    exact .array (distinct_of_itemsWithMoments? hitems hmoments)
  | .table fields, _, .table keys values, h => by
    unfold Value.withMoments? at h
    split at h
    · split at h
      · exact distinct_of_momentOf? h
      · obtain ⟨fields', hmoments, rfl⟩ := Option.map_eq_some_iff.mp h
        refine .table ?_ (distinct_of_fieldsWithMoments? values hmoments)
        rw [map_fst_fieldsWithMoments? hmoments]
        exact keys
    · cases h
      exact .table List.nodup_nil nofun

theorem distinct_of_itemsWithMoments? : ∀ {items items' : List Value},
    (∀ v ∈ items, v.Distinct) → itemsWithMoments? items = some items' → ∀ v ∈ items', v.Distinct
  | [], _, _, h => by
    cases h
    nofun
  | v :: rest, _, hitems, h => by
    simp only [itemsWithMoments?, Option.bind_eq_bind, Option.bind_eq_some_iff] at h
    obtain ⟨v', hv', rest', hrest, h⟩ := h
    cases h
    obtain ⟨hv, hitems⟩ := List.forall_mem_cons.mp hitems
    exact List.forall_mem_cons.mpr ⟨hv.withMoments? hv', distinct_of_itemsWithMoments? hitems hrest⟩

theorem distinct_of_fieldsWithMoments? : ∀ {fields fields' : Table},
    (∀ field ∈ fields, field.2.Distinct) → fieldsWithMoments? fields = some fields' →
      ∀ field ∈ fields', field.2.Distinct
  | [], _, _, h => by
    cases h
    nofun
  | (key, v) :: rest, _, hfields, h => by
    simp only [fieldsWithMoments?, Option.bind_eq_bind, Option.bind_eq_some_iff] at h
    obtain ⟨v', hv', rest', hrest, h⟩ := h
    cases h
    obtain ⟨hv, hfields⟩ := List.forall_mem_cons.mp hfields
    exact List.forall_mem_cons.mpr
      ⟨hv.withMoments? hv', distinct_of_fieldsWithMoments? hfields hrest⟩

end

/-! ## Documents -/

namespace Document

/-- **Each statement keeps the keys of a document distinct.** -/
theorem step_distinct {s s' : State} {statement : Statement} (hs : s.root.Distinct)
    (h : step s statement = some s') : s'.root.Distinct := by
  cases statement with
  | table path =>
    simp only [step, Option.bind_eq_bind, Option.bind_eq_some_iff] at h
    obtain ⟨root, hroot, h⟩ := h
    cases h
    exact Fields.keeps_within (keeps_openTable path.last) path.parents s.root root hs hroot
  | element path =>
    simp only [step, Option.bind_eq_bind, Option.bind_eq_some_iff] at h
    obtain ⟨root, hroot, h⟩ := h
    cases h
    exact Fields.keeps_within (keeps_openElement path.last) path.parents s.root root hs hroot
  | assign path t =>
    simp only [step, Option.bind_eq_bind, Option.bind_eq_some_iff] at h
    obtain ⟨v, hv, root, hroot, h⟩ := h
    cases h
    have hassign := keeps_assignIn (distinct_of_toValue? t hv) path.last path.parents
    exact Fields.keeps_within hassign s.opened s.root root hs hroot

theorem distinct_of_ofStatements? {statements : List Statement} {table : Table}
    (h : ofStatements? statements = some table) : (Value.table table).Distinct := by
  obtain ⟨s, hs, rfl⟩ := Option.map_eq_some_iff.mp h
  have hroot : s.root.Distinct :=
    foldlM_keeps (P := fun s : State => s.root.Distinct) (fun _ _ _ _ hs h => step_distinct hs h)
      Fields.distinct_nil hs
  exact hroot.toTable

/-- **Every table of a document that can be read holds each key once.** -/
theorem distinct_of_ofText? {table : Table} (h : ofText? text = some table) :
    (Value.table table).Distinct := by
  simp only [ofText?, Option.bind_eq_bind, Option.bind_eq_some_iff] at h
  obtain ⟨statements, _, written, hwritten, h⟩ := h
  cases distinct_of_ofStatements? hwritten with
  | table keys values =>
    refine .table ?_ (distinct_of_fieldsWithMoments? values h)
    rw [map_fst_fieldsWithMoments? h]
    exact keys

end Document

end DeclaredEnv.Toml
