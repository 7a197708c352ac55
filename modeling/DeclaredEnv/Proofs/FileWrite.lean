import DeclaredEnv.CommandLine.FileSystem
import Mathlib.Data.List.Basic

/-!
# Files that are written

* `FileTree.NoDirectoryAt` — there is no directory at a place, so that a file can be put there.
* `FileSystem.Step` — one name of a path leads from a directory to a place.
* `FileSystem.Holds`, `FileSystem.Leads` — a path leads to a file with a content, or to a name in a
  directory.
* `FileSystem.Written` — a path leads to a content, and the other files are as they were.

Principal results: `at?_put_self`, `at?_put_eq_file_iff` — putting a file at a place changes the
file at that place only.  `exists_directory_of_put` — no directory is lost and no name in one, so
`DirectoriesKept.follow` — names lead where they led.  `written_of_write`, `readText_of_write` — so
what is written to a path is found there and read again.
-/

namespace DeclaredEnv.CommandLine

/-! ## Parts of a directory -/

theorem partNamed?_cons (n m : String) (t : FileTree) (parts : List (String × FileTree)) :
    partNamed? n ((m, t) :: parts) = if n = m then some t else partNamed? n parts := by
  unfold partNamed?
  by_cases h : n = m
  · simp [h]
  · rw [if_neg h, List.lookup_cons, beq_false_of_ne h]

theorem partNamed?_putPart (name n : String) (tree : FileTree) (parts : List (String × FileTree)) :
    partNamed? n (putPart name tree parts) =
      if n = name then some tree else partNamed? n parts := by
  induction parts with
  | nil => exact partNamed?_cons n name tree []
  | cons part parts ih =>
    obtain ⟨m, t⟩ := part
    unfold putPart
    by_cases hm : m = name
    · subst hm
      rw [if_pos rfl, partNamed?_cons, partNamed?_cons]
      by_cases h : n = m
      · rw [if_pos h, if_pos h]
      · rw [if_neg h, if_neg h, if_neg h]
    · rw [if_neg hm, partNamed?_cons, partNamed?_cons, ih]
      by_cases h : n = m
      · rw [if_pos h, if_pos h, if_neg (h ▸ hm)]
      · rw [if_neg h, if_neg h]

namespace FileTree

variable {t u other : FileTree} {place q : List String} {name n : String}
  {parts : List (String × FileTree)} {content : ByteArray}

theorem at?_directory_cons : (FileTree.directory parts).at? (n :: q) =
    (partNamed? n parts).bind (·.at? q) := by
  rw [at?]
  cases partNamed? n parts <;> rfl

theorem at?_append : t.at? (place ++ q) = (t.at? place).bind (·.at? q) := by
  induction place generalizing t with
  | nil => rfl
  | cons n place ih =>
    cases t with
    | file content => rfl
    | directory parts =>
      rw [List.cons_append, at?_directory_cons, at?_directory_cons, Option.bind_assoc]
      exact congrArg _ (funext fun _ => ih)

/-! ## A tree with another one at a place -/

theorem put_nil : t.put [] other = other := by cases t <;> rfl

theorem put_singleton :
    (directory parts).put [name] other = .directory (putPart name other parts) := by
  rw [put]

theorem put_of_some (h : partNamed? name parts = some t) :
    (directory parts).put (name :: place) other =
      .directory (putPart name (t.put place other) parts) := by
  cases place with
  | nil => rw [put_singleton, put_nil]
  | cons n place =>
    rw [put, h]
    exact nofun

theorem put_of_none (h : partNamed? name parts = none) (hplace : place ≠ []) :
    (directory parts).put (name :: place) other = .directory parts := by
  rw [put, h]
  exact hplace

theorem at?_put_of_some (h : partNamed? name parts = some t) :
    ((directory parts).put (name :: place) other).at? (name :: q) = (t.put place other).at? q := by
  rw [put_of_some h, at?_directory_cons, partNamed?_putPart, if_pos rfl]
  rfl

theorem at?_put_of_ne (h : n ≠ name) : ((directory parts).put (name :: place) other).at? (n :: q) =
    (directory parts).at? (n :: q) := by
  cases hpart : partNamed? name parts with
  | some t =>
    rw [put_of_some hpart, at?_directory_cons, partNamed?_putPart, if_neg h, at?_directory_cons]
  | none =>
    by_cases hplace : place = []
    · rw [hplace, put_singleton, at?_directory_cons, partNamed?_putPart, if_neg h,
        at?_directory_cons]
    · rw [put_of_none hpart hplace]

/-- **A tree is where it was put, if the directory to put it in is there.** -/
theorem at?_put_self (h : t.at? place = some (.directory parts)) :
    (t.put (place ++ [name]) other).at? (place ++ [name]) = some other := by
  induction place generalizing t with
  | nil =>
    cases h
    rw [List.nil_append, put_singleton, at?_directory_cons, partNamed?_putPart, if_pos rfl]
    rfl
  | cons n place ih =>
    cases t with
    | file content => cases h
    | directory own =>
      rw [at?_directory_cons, Option.bind_eq_some_iff] at h
      obtain ⟨t, ht, h⟩ := h
      rw [List.cons_append, at?_put_of_some ht]
      exact ih h

/-- There is no directory at a place. -/
def NoDirectoryAt (t : FileTree) (place : List String) : Prop :=
  ∀ parts, t.at? place ≠ some (.directory parts)

theorem NoDirectoryAt.part (h : (directory parts).NoDirectoryAt (name :: place))
    (ht : partNamed? name parts = some t) : t.NoDirectoryAt place := by
  intro parts' heq
  refine h parts' ?_
  rw [at?_directory_cons, ht]
  exact heq

/-- There is nothing below a place without a directory. -/
theorem NoDirectoryAt.at?_cons (h : t.NoDirectoryAt []) : t.at? (n :: q) = none := by
  cases t with
  | file content => rfl
  | directory parts => exact absurd rfl (h parts)

/-- The names in a directory are names in another one too. -/
def NamesKept (parts parts' : List (String × FileTree)) : Prop :=
  ∀ n, (partNamed? n parts).isSome = true → (partNamed? n parts').isSome = true

theorem namesKept_putPart (name : String) (tree : FileTree) (parts : List (String × FileTree)) :
    NamesKept parts (putPart name tree parts) := by
  intro n hn
  rw [partNamed?_putPart]
  split
  · rfl
  · exact hn

/-- A directory in which a tree is put is a directory, with the names that it had. -/
theorem exists_put_directory_cons (parts : List (String × FileTree)) (name : String)
    (place : List String) (other : FileTree) :
    ∃ parts', (directory parts).put (name :: place) other = .directory parts' ∧
      NamesKept parts parts' := by
  cases hpart : partNamed? name parts with
  | some t => exact ⟨_, put_of_some hpart, namesKept_putPart name _ parts⟩
  | none =>
    by_cases hplace : place = []
    · exact ⟨_, hplace ▸ put_singleton, namesKept_putPart name other parts⟩
    · exact ⟨parts, put_of_none hpart hplace, fun _ => id⟩

/-- **A tree that is put where no directory is leaves every directory, with its names.** -/
theorem exists_directory_of_put (h : t.NoDirectoryAt place)
    (hq : t.at? q = some (.directory parts)) :
    ∃ parts', (t.put place other).at? q = some (.directory parts') ∧ NamesKept parts parts' := by
  induction place generalizing t q with
  | nil =>
    cases q with
    | nil => exact absurd hq (h parts)
    | cons n q =>
      rw [h.at?_cons] at hq
      cases hq
  | cons name place ih =>
    cases t with
    | file content =>
      rw [put]
      exact ⟨parts, hq, fun _ => id⟩
    | directory own =>
      cases q with
      | nil =>
        cases hq
        obtain ⟨parts', hput, hkept⟩ := exists_put_directory_cons parts name place other
        exact ⟨parts', congrArg some hput, hkept⟩
      | cons n q =>
        by_cases hn : n = name
        · subst hn
          rw [at?_directory_cons, Option.bind_eq_some_iff] at hq
          obtain ⟨t, ht, hq⟩ := hq
          rw [at?_put_of_some ht]
          exact ih (h.part ht) hq
        · rw [at?_put_of_ne hn]
          exact ⟨parts, hq, fun _ => id⟩

/-- **A file that is put where no directory is leaves the files at other places alone.** -/
theorem at?_put_eq_file_iff (h : t.NoDirectoryAt place) (hq : q ≠ place) (c : ByteArray) :
    (t.put place (.file content)).at? q = some (.file c) ↔ t.at? q = some (.file c) := by
  induction place generalizing t q with
  | nil =>
    obtain ⟨n, q, rfl⟩ := List.exists_cons_of_ne_nil hq
    rw [h.at?_cons, put_nil]
    rfl
  | cons name place ih =>
    cases t with
    | file content' => rw [put]
    | directory parts =>
      cases q with
      | nil =>
        obtain ⟨parts', hput, _⟩ := exists_put_directory_cons parts name place (.file content)
        rw [hput]
        exact ⟨nofun, nofun⟩
      | cons n q =>
        by_cases hn : n = name
        · subst hn
          have hne : q ≠ place := fun heq => hq (congrArg _ heq)
          cases hpart : partNamed? n parts with
          | some t =>
            rw [at?_put_of_some hpart, at?_directory_cons, hpart]
            exact ih (h.part hpart) hne
          | none =>
            by_cases hplace : place = []
            · subst hplace
              obtain ⟨m, q, rfl⟩ := List.exists_cons_of_ne_nil hne
              rw [put_singleton, at?_directory_cons, partNamed?_putPart, if_pos rfl,
                at?_directory_cons, hpart]
              rfl
            · rw [put_of_none hpart hplace]
        · rw [at?_put_of_ne hn]

end FileTree

namespace FileSystem

open FileTree

variable {files files' : FileSystem} {path text : String} {place target names : List String}
  {name : String} {parts : List (String × FileTree)}

/-! ## Paths -/

/-- A path leads to a file. -/
def Holds (files : FileSystem) (path : String) (content : ByteArray) : Prop :=
  ∃ place, files.locate path = .ok place ∧ files.root.at? place = some (.file content)

/-- **What is read of a path is the text in the file that it leads to.** -/
theorem readText_eq_ok_iff : files.readText path = .ok text ↔
    ∃ content, files.Holds path content ∧ String.fromUTF8? content = some text := by
  unfold readText Holds
  constructor
  · intro h
    split at h
    · cases h
    · rename_i place hplace
      split at h
      · rename_i content hcontent
        split at h
        · rename_i text' htext
          cases h
          exact ⟨content, ⟨place, hplace, hcontent⟩, htext⟩
        · cases h
      · cases h
      · cases h
  · rintro ⟨content, ⟨place, hplace, hcontent⟩, htext⟩
    simp only [hplace, hcontent, htext]

/-- One name leads from a directory to a place. -/
inductive Step (files : FileSystem) (place : List String) : String → List String → Prop where
  | here {parts : List (String × FileTree)}
      (directory : files.root.at? place = some (.directory parts)) : Step files place "." place
  | up {parts : List (String × FileTree)}
      (directory : files.root.at? place = some (.directory parts)) :
      Step files place ".." place.dropLast
  | into {parts : List (String × FileTree)} {name : String}
      (directory : files.root.at? place = some (.directory parts))
      (plain : name ≠ "." ∧ name ≠ "..") (short : name.utf8ByteSize ≤ 255)
      (known : (partNamed? name parts).isSome = true) : Step files place name (place ++ [name])

/-- **Names are followed one by one.** -/
theorem follow_cons_eq_ok_iff : files.follow place (name :: names) = .ok target ↔
    ∃ p, Step files place name p ∧ files.follow p names = .ok target := by
  constructor
  · intro h
    unfold follow at h
    split at h
    · rename_i parts hparts
      split at h
      · rename_i hdot
        exact ⟨place, hdot ▸ .here hparts, h⟩
      · rename_i hdot
        split at h
        · rename_i hdots
          exact ⟨place.dropLast, hdots ▸ .up hparts, h⟩
        · rename_i hdots
          split at h
          · cases h
          · rename_i hshort
            split at h
            · rename_i t ht
              exact ⟨place ++ [name], .into hparts ⟨hdot, hdots⟩ (Nat.le_of_not_lt hshort)
                (by rw [ht]; rfl), h⟩
            · cases h
    · cases h
    · cases h
  · rintro ⟨p, hstep, h⟩
    cases hstep with
    | here hparts => simp only [follow, hparts, if_true, h]
    | up hparts =>
      have hdots : ¬".." = "." := by decide
      simp only [follow, hparts, if_neg hdots, if_true, h]
    | into hparts plain short known =>
      obtain ⟨t, ht⟩ := Option.isSome_iff_exists.mp known
      simp only [follow, hparts, if_neg plain.1, if_neg plain.2, if_neg (Nat.not_lt.mpr short),
        ht, h]

theorem follow_concat_eq_ok_iff : files.follow place (names ++ [name]) = .ok target ↔
    ∃ p, files.follow place names = .ok p ∧ Step files p name target := by
  induction names generalizing place with
  | nil =>
    rw [List.nil_append, follow_cons_eq_ok_iff]
    simp only [follow, Except.ok.injEq, exists_eq_right, exists_eq_left']
  | cons n names ih =>
    rw [List.cons_append, follow_cons_eq_ok_iff]
    simp only [ih, follow_cons_eq_ok_iff]
    exact ⟨fun ⟨p, hstep, q, hq, hlast⟩ => ⟨q, ⟨p, hstep, hq⟩, hlast⟩,
      fun ⟨q, ⟨p, hstep, hq⟩, hlast⟩ => ⟨p, hstep, q, hq, hlast⟩⟩

/-- Every directory is still there, and has the names that it had. -/
def DirectoriesKept (files files' : FileSystem) : Prop :=
  ∀ place parts, files.root.at? place = some (.directory parts) →
    ∃ parts', files'.root.at? place = some (.directory parts') ∧ NamesKept parts parts'

theorem DirectoriesKept.step (h : DirectoriesKept files files')
    (hs : Step files place name target) : Step files' place name target := by
  cases hs with
  | here hparts =>
    obtain ⟨parts', hparts', _⟩ := h _ _ hparts
    exact .here hparts'
  | up hparts =>
    obtain ⟨parts', hparts', _⟩ := h _ _ hparts
    exact .up hparts'
  | into hparts plain short known =>
    obtain ⟨parts', hparts', hkept⟩ := h _ _ hparts
    exact .into hparts' plain short (hkept name known)

/-- **Names lead where they led, if the directories are kept.** -/
theorem DirectoriesKept.follow (h : DirectoriesKept files files')
    (hf : files.follow place names = .ok target) : files'.follow place names = .ok target := by
  induction names generalizing place with
  | nil => exact hf
  | cons n names ih =>
    obtain ⟨p, hstep, hrest⟩ := follow_cons_eq_ok_iff.mp hf
    exact follow_cons_eq_ok_iff.mpr ⟨p, h.step hstep, ih hrest⟩

/-! ## Writing -/

/-- A path leads to a name in a directory, where there is no other directory of the name. -/
structure Leads (files : FileSystem) (path : String) (place : List String) (name : String)
    (parts : List (String × FileTree)) : Prop where
  nonempty : path.isEmpty = false
  short : path.utf8ByteSize < 4096
  names : ∃ names, pathNames path = names ++ [name] ∧
    files.follow (files.start path) names = .ok place
  directory : files.root.at? place = some (.directory parts)
  plain : name ≠ "." ∧ name ≠ ".." ∧ endsInSlash path = false
  nameShort : name.utf8ByteSize ≤ 255
  noDirectory : ∀ parts', partNamed? name parts ≠ some (.directory parts')

/-- The files with one put at a place. -/
def putFile (files : FileSystem) (place : List String) (content : ByteArray) : FileSystem :=
  { files with root := files.root.put place (.file content) }

/-- **Writing puts the text at the name that the path leads to.** -/
theorem exists_leads_of_write (h : files.write path text = .ok files') :
    ∃ place name parts, files.Leads path place name parts ∧
      files' = files.putFile (place ++ [name]) text.toUTF8 := by
  unfold write at h
  split at h
  · cases h
  · rename_i hempty
    split at h
    · cases h
    · rename_i hlong
      split at h
      · cases h
      · rename_i name hlast
        split at h
        · cases h
        · rename_i place hfollow
          split at h
          · cases h
          · cases h
          · rename_i parts hparts
            split at h
            · cases h
            · rename_i hplain
              split at h
              · cases h
              · rename_i hname
                have hnames : pathNames path = (pathNames path).dropLast ++ [name] :=
                  (List.dropLast_append_getLast? name hlast).symm
                rw [not_or, not_or, Bool.not_eq_true] at hplain
                refine ⟨place, name, parts, ⟨Bool.eq_false_iff.mpr hempty,
                  Nat.lt_of_not_le hlong, ⟨_, hnames, hfollow⟩, hparts, hplain,
                  Nat.le_of_not_lt hname, ?_⟩, ?_⟩
                · intro parts' heq
                  rw [heq] at h
                  cases h
                · split at h
                  · cases h
                  · cases h
                    rfl

theorem Leads.noDirectoryAt (h : files.Leads path place name parts) :
    files.root.NoDirectoryAt (place ++ [name]) := by
  intro parts' heq
  rw [at?_append, h.directory, Option.bind_some, at?_directory_cons,
    Option.bind_eq_some_iff] at heq
  obtain ⟨t, ht, heq⟩ := heq
  cases heq
  exact h.noDirectory parts' ht

theorem Leads.directoriesKept (h : files.Leads path place name parts) (content : ByteArray) :
    DirectoriesKept files (files.putFile (place ++ [name]) content) :=
  fun _ _ => exists_directory_of_put h.noDirectoryAt

/-- The path leads to the place where the file was put. -/
theorem Leads.locate_putFile (h : files.Leads path place name parts) (content : ByteArray) :
    (files.putFile (place ++ [name]) content).locate path = .ok (place ++ [name]) := by
  obtain ⟨names, hnames, hfollow⟩ := h.names
  obtain ⟨hdot, hdots, hslash⟩ := h.plain
  have hkept := h.directoriesKept content
  obtain ⟨parts', hparts', _⟩ := hkept place parts h.directory
  -- the file that was put is one of the parts of its directory
  have hself : (files.putFile (place ++ [name]) content).root.at? (place ++ [name]) =
      some (.file content) := at?_put_self h.directory
  rw [at?_append, hparts', Option.bind_some, at?_directory_cons,
    Option.bind_eq_some_iff] at hself
  obtain ⟨t, ht, _⟩ := hself
  have hknown : (partNamed? name parts').isSome = true := by
    rw [ht]
    rfl
  rw [locate, if_neg (Bool.eq_false_iff.mp h.nonempty), if_neg (Nat.not_le.mpr h.short), hslash,
    hnames, if_neg Bool.false_ne_true, List.append_nil, follow_concat_eq_ok_iff]
  exact ⟨place, hkept.follow hfollow, .into hparts' ⟨hdot, hdots⟩ h.nameShort hknown⟩

/-- A path leads to a file with the content, and the other files are as they were. -/
structure Written (files files' : FileSystem) (path : String) (content : ByteArray) : Prop where
  holds : files'.Holds path content
  current : files'.current = files.current
  others : ∀ place c, files'.locate path ≠ .ok place →
    (files'.root.at? place = some (.file c) ↔ files.root.at? place = some (.file c))

/-- **A file that is written is found again, and the others are as they were.** -/
theorem written_of_write (h : files.write path text = .ok files') :
    Written files files' path text.toUTF8 := by
  obtain ⟨place, name, parts, hleads, rfl⟩ := exists_leads_of_write h
  have hlocate := hleads.locate_putFile text.toUTF8
  refine ⟨⟨_, hlocate, at?_put_self hleads.directory⟩, rfl, fun other c hother => ?_⟩
  refine at?_put_eq_file_iff hleads.noDirectoryAt (fun heq => hother ?_) c
  rw [heq]
  exact hlocate

/-- **A text that is written is read again.** -/
theorem readText_of_write (h : files.write path text = .ok files') :
    files'.readText path = .ok text := by
  refine readText_eq_ok_iff.mpr ⟨_, (written_of_write h).holds, ?_⟩
  unfold String.fromUTF8?
  rw [String.toUTF8_eq_toByteArray, dif_pos text.isValidUTF8]
  rfl

end FileSystem

end DeclaredEnv.CommandLine
