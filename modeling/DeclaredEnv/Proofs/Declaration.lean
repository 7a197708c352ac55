import DeclaredEnv.Proofs.Sequence

/-!
# First declarations

* `Entry.key` — the variable that an entry declares: its subject and its name.
* `declarations`, `repetitions` — the entries that are the first of their variable, and the others.
* `subjectNames`, `declarationsOf` — the subjects in the order in which they first appear, and the
  first declarations of one of them.

Principal result: `ofEntries_eq` — grouping puts the first declarations of each subject in its group
and sets the repetitions aside.
-/

namespace DeclaredEnv

/-- The variable that an entry declares: its subject and its name. -/
def Entry.key (e : Entry) : String × String := (e.subject, e.name)

/-- An entry before the place declares the same variable. -/
def declaredBefore (entries : List Entry) (e : Entry) (place : Nat) : Bool :=
  (entries.take place).any (·.key == e.key)

/-- The entries that an earlier one of the same variable precedes, in order. -/
def repetitions (entries : List Entry) : List Entry :=
  (entries.zipIdx.filter fun p => declaredBefore entries p.1 p.2).map (·.1)

/-- The entries that are the first of their variable, in order. -/
def declarations (entries : List Entry) : List Entry :=
  (entries.zipIdx.filter fun p => !declaredBefore entries p.1 p.2).map (·.1)

/-- The subjects in the order in which they first appear. -/
def subjectNames (entries : List Entry) : List String := (entries.map (·.subject)).eraseDups

/-- The first declarations of a subject, in order. -/
def declarationsOf (entries : List Entry) (subject : String) : List Entry :=
  (declarations entries).filter (·.subject == subject)

/-- The groups of the entries: the first declarations of each subject. -/
def groupsOf (entries : List Entry) : List Group :=
  (subjectNames entries).map fun s => ⟨s, declarationsOf entries s⟩

/-! ## One more entry -/

variable {entries : List Entry} {e : Entry}

theorem map_filter_zipIdx_concat (p : Bool → Bool) (entries : List Entry) (e : Entry) :
    ((entries ++ [e]).zipIdx.filter fun q =>
        p (declaredBefore (entries ++ [e]) q.1 q.2)).map (·.1) =
      (entries.zipIdx.filter fun q => p (declaredBefore entries q.1 q.2)).map (·.1) ++
        if p (entries.any (·.key == e.key)) then [e] else [] := by
  have hbefore : ∀ q ∈ entries.zipIdx, p (declaredBefore (entries ++ [e]) q.1 q.2) =
      p (declaredBefore entries q.1 q.2) := by
    intro q hq
    have hlt : q.2 < entries.length := by simpa using List.snd_lt_of_mem_zipIdx hq
    rw [declaredBefore, List.take_append_of_le_length (Nat.le_of_lt hlt), declaredBefore]
  have hlast : declaredBefore (entries ++ [e]) e entries.length = entries.any (·.key == e.key) := by
    rw [declaredBefore, List.take_left]
  rw [List.zipIdx_append, List.filter_append, List.filter_congr hbefore, List.map_append]
  simp only [List.zipIdx_singleton, Nat.zero_add, List.filter_cons, hlast, List.filter_nil]
  split <;> rfl

theorem repetitions_concat (entries : List Entry) (e : Entry) : repetitions (entries ++ [e]) =
    repetitions entries ++ if entries.any (·.key == e.key) then [e] else [] :=
  map_filter_zipIdx_concat id entries e

theorem declarations_concat (entries : List Entry) (e : Entry) : declarations (entries ++ [e]) =
    declarations entries ++ if !entries.any (·.key == e.key) then [e] else [] :=
  map_filter_zipIdx_concat not entries e

theorem subjectNames_concat (entries : List Entry) (e : Entry) : subjectNames (entries ++ [e]) =
    if e.subject ∈ subjectNames entries then subjectNames entries
    else subjectNames entries ++ [e.subject] := by
  simp [subjectNames, eraseDups_concat]

theorem any_key_iff : entries.any (·.key == e.key) = true ↔ e.key ∈ entries.map Entry.key := by
  simp

theorem any_key_eq_false_iff :
    entries.any (·.key == e.key) = false ↔ e.key ∉ entries.map Entry.key := by
  rw [← any_key_iff, Bool.not_eq_true]

/-! ## First declarations -/

theorem mem_of_mem_declarations (h : e ∈ declarations entries) : e ∈ entries := by
  obtain ⟨q, hq, rfl⟩ := List.mem_map.mp h
  exact List.fst_mem_of_mem_zipIdx (List.mem_of_mem_filter hq)

theorem map_key_declarations (entries : List Entry) :
    (declarations entries).map Entry.key = (entries.map Entry.key).eraseDups := by
  induction entries using List.reverseRecOn with
  | nil => rfl
  | append_singleton entries e ih =>
    rw [declarations_concat, List.map_append, ih, List.map_append, List.map_singleton,
      eraseDups_concat]
    by_cases h : e.key ∈ entries.map Entry.key
    · simp [any_key_iff.mpr h, h]
    · simp [any_key_eq_false_iff.mpr h, h]

theorem nodup_map_key_declarations (entries : List Entry) :
    ((declarations entries).map Entry.key).Nodup := by
  rw [map_key_declarations]
  exact nodup_eraseDups _

/-- The first declaration of a variable that an entry declares. -/
theorem exists_mem_declarations (h : e ∈ entries) : ∃ d ∈ declarations entries, d.key = e.key := by
  have hkey : e.key ∈ (declarations entries).map Entry.key := by
    rw [map_key_declarations, List.mem_eraseDups]
    exact List.mem_map_of_mem h
  exact List.mem_map.mp hkey

theorem repetitions_eq_nil_iff : repetitions entries = [] ↔ (entries.map Entry.key).Nodup := by
  induction entries using List.reverseRecOn with
  | nil => simp [repetitions]
  | append_singleton entries e ih =>
    rw [repetitions_concat, List.append_eq_nil_iff, ih, List.map_append, List.nodup_append]
    constructor
    · rintro ⟨hn, he⟩
      refine ⟨hn, List.nodup_singleton _, ?_⟩
      rintro k hk k' hk' rfl
      rw [List.map_singleton, List.mem_singleton] at hk'
      subst hk'
      simp [any_key_iff.mpr hk] at he
    · rintro ⟨hn, _, hne⟩
      refine ⟨hn, if_neg fun h => ?_⟩
      exact hne e.key (any_key_iff.mp h) e.key (List.mem_singleton_self e.key) rfl

theorem declarations_of_nodup (h : (entries.map Entry.key).Nodup) :
    declarations entries = entries := by
  induction entries using List.reverseRecOn with
  | nil => rfl
  | append_singleton entries e ih =>
    rw [List.map_append, List.nodup_append] at h
    obtain ⟨hn, _, hne⟩ := h
    have he : e.key ∉ entries.map Entry.key := fun h =>
      hne e.key h e.key (List.mem_singleton_self e.key) rfl
    rw [declarations_concat, ih hn, any_key_eq_false_iff.mpr he]
    rfl

/-! ## The declarations of a subject -/

theorem mem_declarationsOf {subject : String} :
    e ∈ declarationsOf entries subject ↔ e ∈ declarations entries ∧ e.subject = subject := by
  simp [declarationsOf]

theorem mem_subjectNames {subject : String} :
    subject ∈ subjectNames entries ↔ ∃ e ∈ entries, e.subject = subject := by
  simp [subjectNames]

theorem nodup_subjectNames (entries : List Entry) : (subjectNames entries).Nodup :=
  nodup_eraseDups _

/-- Within a subject the first declarations differ in their names. -/
theorem nodup_map_name_declarationsOf (entries : List Entry) (subject : String) :
    ((declarationsOf entries subject).map Entry.name).Nodup := by
  have hkeys : ((declarationsOf entries subject).map Entry.key).Nodup :=
    ((List.filter_sublist).map Entry.key).nodup (nodup_map_key_declarations entries)
  refine (List.nodup_map_iff_inj_on ?_).mpr ?_
  · exact hkeys.of_map _
  · intro d hd e he hname
    refine List.inj_on_of_nodup_map hkeys hd he ?_
    rw [Entry.key, Entry.key, hname, (mem_declarationsOf.mp hd).2, (mem_declarationsOf.mp he).2]

theorem declarationsOf_of_nodup (h : (entries.map Entry.key).Nodup) (subject : String) :
    declarationsOf entries subject = entries.filter (·.subject == subject) := by
  rw [declarationsOf, declarations_of_nodup h]

theorem declarationsOf_concat (entries : List Entry) (e : Entry) (subject : String) :
    declarationsOf (entries ++ [e]) subject = declarationsOf entries subject ++
      if !entries.any (·.key == e.key) && e.subject == subject then [e] else [] := by
  rw [declarationsOf, declarations_concat, List.filter_append, declarationsOf]
  congr 1
  cases entries.any (·.key == e.key) <;> cases hs : e.subject == subject <;> simp [hs]

theorem declarationsOf_eq_nil {subject : String} (h : subject ∉ subjectNames entries) :
    declarationsOf entries subject = [] := by
  rw [List.eq_nil_iff_forall_not_mem]
  intro e he
  obtain ⟨hmem, hs⟩ := mem_declarationsOf.mp he
  exact h (mem_subjectNames.mpr ⟨e, mem_of_mem_declarations hmem, hs⟩)

/-! ## Grouping -/

theorem placeIn_eq_upsert (e : Entry) : ∀ groups : List Group, placeIn e groups =
    upsert Group.subject e.subject (fun g => { g with entries := g.entries ++ [e] })
      ⟨e.subject, [e]⟩ groups
  | [] => rfl
  | g :: groups => by rw [placeIn, upsert, placeIn_eq_upsert e groups]

theorem declaredIn_groupsOf (entries : List Entry) (e : Entry) :
    declaredIn (groupsOf entries) e = entries.any (·.key == e.key) := by
  rw [Bool.eq_iff_iff, any_key_iff]
  simp only [declaredIn, groupsOf, Group.declares, List.any_map, List.any_eq_true,
    Function.comp_apply, Bool.and_eq_true, beq_iff_eq]
  constructor
  · rintro ⟨s, _, rfl, d, hd, hname⟩
    obtain ⟨hd, hs⟩ := mem_declarationsOf.mp hd
    exact List.mem_map.mpr ⟨d, mem_of_mem_declarations hd, by rw [Entry.key, hs, hname, Entry.key]⟩
  · intro h
    obtain ⟨e', he', hkey'⟩ := List.mem_map.mp h
    obtain ⟨d, hd, hkey⟩ := exists_mem_declarations he'
    obtain ⟨hs, hname⟩ := Prod.mk.injEq .. ▸ hkey.trans hkey'
    exact ⟨e.subject, mem_subjectNames.mpr ⟨d, mem_of_mem_declarations hd, hs⟩, rfl, d,
      mem_declarationsOf.mpr ⟨hd, hs⟩, hname⟩

theorem placeIn_groupsOf (h : ¬entries.any (·.key == e.key) = true) :
    placeIn e (groupsOf entries) = groupsOf (entries ++ [e]) := by
  rw [Bool.not_eq_true] at h
  rw [placeIn_eq_upsert, groupsOf, upsert_map (fun _ => rfl) (nodup_subjectNames entries), groupsOf,
    subjectNames_concat]
  split
  · -- the subject has a group, and the others stay as they are
    apply List.map_congr_left
    intro s _
    rw [declarationsOf_concat, h]
    by_cases hs : s = e.subject
    · subst hs
      simp
    · simp [hs, Ne.symm hs]
  · -- the entry opens the group of its subject
    rename_i hs
    rw [List.map_append, List.map_singleton, declarationsOf_concat, h, declarationsOf_eq_nil hs]
    congr 1
    · apply List.map_congr_left
      intro s hs'
      have hne : ¬e.subject = s := fun heq => hs (heq ▸ hs')
      simp [declarationsOf_concat, hne]
    · simp

theorem groupsOf_concat_of_any (h : entries.any (·.key == e.key) = true) :
    groupsOf (entries ++ [e]) = groupsOf entries := by
  obtain ⟨d, hd, hkey⟩ := List.mem_map.mp (any_key_iff.mp h)
  have hs : e.subject ∈ subjectNames entries :=
    mem_subjectNames.mpr ⟨d, hd, (Prod.mk.injEq .. ▸ hkey).1⟩
  rw [groupsOf, subjectNames_concat, if_pos hs, groupsOf]
  apply List.map_congr_left
  intro s _
  rw [declarationsOf_concat, h]
  simp

/-- **Grouping parts the entries into the first declarations of each subject and repetitions.** -/
theorem ofEntries_eq (entries : List Entry) :
    Grouping.ofEntries entries = ⟨groupsOf entries, repetitions entries⟩ := by
  induction entries using List.reverseRecOn with
  | nil => rfl
  | append_singleton entries e ih =>
    have hstep : Grouping.ofEntries (entries ++ [e]) = (Grouping.ofEntries entries).add e := by
      simp [Grouping.ofEntries, List.foldl_append]
    rw [hstep, ih, Grouping.add, declaredIn_groupsOf, repetitions_concat]
    split
    · rename_i h
      rw [groupsOf_concat_of_any h]
    · rename_i h
      rw [placeIn_groupsOf h, List.append_nil]

end DeclaredEnv
