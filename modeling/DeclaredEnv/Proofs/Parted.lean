import DeclaredEnv.Proofs.Declaration

/-!
# Entries subject by subject

* `Parted` — groups of different subjects, each with entries of different names of its own subject.
* `Together` — between two entries of a subject there are only entries of that subject.

Principal results: `Parted.nodup_map_key`, `Parted.together` — the entries of such groups, one group
after the other, declare each variable once, and those of a subject stand together.
`Parted.flatMap_filter` — so taking them up subject by subject leaves their order as it is.
-/

namespace DeclaredEnv

/-- Groups of different subjects.  Each has entries of its own subject, which differ in names. -/
structure Parted (groups : List Group) : Prop where
  subjects : (groups.map (·.subject)).Nodup
  own : ∀ g ∈ groups, ∀ e ∈ g.entries, e.subject = g.subject
  names : ∀ g ∈ groups, (g.entries.map (·.name)).Nodup

/-- Between two entries of a subject there are only entries of that subject. -/
def Together (entries : List Entry) : Prop :=
  ∀ a b c, [a, b, c].Sublist entries → a.subject = c.subject → b.subject = a.subject

variable {g : Group} {groups : List Group}

theorem Parted.tail (h : Parted (g :: groups)) : Parted groups :=
  ⟨(List.nodup_cons.mp h.subjects).2, (List.forall_mem_cons.mp h.own).2,
    (List.forall_mem_cons.mp h.names).2⟩

/-- The subject of the first group is that of no entry further on. -/
theorem Parted.subject_ne (h : Parted (g :: groups)) {e : Entry}
    (he : e ∈ groups.flatMap (·.entries)) : e.subject ≠ g.subject := by
  intro heq
  obtain ⟨g', hg', he⟩ := List.mem_flatMap.mp he
  have hown : e.subject = g'.subject := h.own g' (List.mem_cons_of_mem g hg') e he
  have hmem : g.subject ∈ groups.map (·.subject) := by
    rw [← heq, hown]
    exact List.mem_map_of_mem hg'
  exact (List.nodup_cons.mp h.subjects).1 hmem

/-- **Each variable is declared once.** -/
theorem Parted.nodup_map_key (h : Parted groups) :
    ((groups.flatMap (·.entries)).map Entry.key).Nodup := by
  rw [List.map_flatMap, List.nodup_flatMap]
  constructor
  · intro g hg
    refine List.Nodup.of_map Prod.snd ?_
    rw [List.map_map]
    exact h.names g hg
  · -- entries of different groups differ in their subjects
    refine (List.pairwise_map.mp h.subjects).imp_of_mem fun hg hg' hne => ?_
    intro key hkey hkey'
    obtain ⟨e, he, rfl⟩ := List.mem_map.mp hkey
    obtain ⟨e', he', heq⟩ := List.mem_map.mp hkey'
    have hsubject : e'.subject = e.subject := congrArg Prod.fst heq
    rw [h.own _ hg e he, h.own _ hg' e' he'] at hsubject
    exact hne hsubject.symm

/-- **The entries of a subject stand together.** -/
theorem Parted.together (h : Parted groups) : Together (groups.flatMap (·.entries)) := by
  induction groups with
  | nil =>
    intro a b c hsub
    cases hsub
  | cons g groups ih =>
    intro a b c hsub heq
    have hown := h.own g List.mem_cons_self
    rw [List.flatMap_cons] at hsub
    rcases triple_sublist_append hsub with hsub | ⟨ha, hc⟩ | ⟨ha, hb⟩
    · exact ih h.tail a b c hsub heq
    · -- no entry further on has the subject of the first group
      exact absurd (heq.symm.trans (hown a ha)) (h.subject_ne hc)
    · rw [hown a ha, hown b hb]

/-- The entries of the subject of a group are its own. -/
theorem Parted.filter_subject (h : Parted groups) (hg : g ∈ groups) :
    (groups.flatMap (·.entries)).filter (·.subject == g.subject) = g.entries := by
  rw [filter_flatMap_key Group.subject h.own, filter_key_of_mem h.subjects hg,
    List.flatMap_singleton]

/-- The subjects are those of the groups that are not empty. -/
theorem Parted.subjectNames_eq (h : Parted groups) :
    subjectNames (groups.flatMap (·.entries)) =
      (groups.filter fun g => !g.entries.isEmpty).map (·.subject) := by
  have hsubjects : ∀ g ∈ groups, ∀ subject ∈ g.entries.map (·.subject), subject = g.subject := by
    intro g hg subject hmem
    obtain ⟨e, he, rfl⟩ := List.mem_map.mp hmem
    exact h.own g hg e he
  rw [subjectNames, List.map_flatMap, eraseDups_flatMap_of_nodup h.subjects hsubjects]
  simp

/-- **The entries, taken up subject by subject, keep their order.** -/
theorem Parted.flatMap_filter (h : Parted groups) :
    (subjectNames (groups.flatMap (·.entries))).flatMap
        (fun subject => (groups.flatMap (·.entries)).filter (·.subject == subject)) =
      groups.flatMap (·.entries) := by
  rw [h.subjectNames_eq, List.flatMap_map]
  have hown : (groups.filter fun g => !g.entries.isEmpty).flatMap
      (fun g => (groups.flatMap (·.entries)).filter (·.subject == g.subject)) =
        (groups.filter fun g => !g.entries.isEmpty).flatMap (·.entries) :=
    List.flatMap_congr fun g hg => h.filter_subject (List.mem_of_mem_filter hg)
  -- the groups that are left out have no entries
  have hleft : (groups.map (·.entries)).filter (fun l => !l.isEmpty) =
      (groups.filter fun g => !g.entries.isEmpty).map (·.entries) := List.filter_map
  rw [hown, List.flatMap_def, ← hleft, List.flatten_filter_not_isEmpty, ← List.flatMap_def]

end DeclaredEnv
