import GradleMigration.Proofs.File.Locate

/-
  What becomes of a file tree when files are written: some
  files are rewritten, some are added, and everything else
  stays as it is.

  Main declarations:
    * `FileTree.Changes`
    * `FileTree.Changes.trans`
    * `FileTree.Changes.sameDirectories`
    * `FileTree.changes_rewrite`
    * `FileTree.changes_make`
    * `FileTree.setUnder`
    * `FileTree.SameBut`
-/

------------------------------------------------------------
-- Entries that Are Set Again
------------------------------------------------------------

namespace GradleMigration

namespace Entries

/- Only the last entry for a location counts. -/
theorem set_set
    (location : Location)
    (old entry : Entry)
    (entries : Entries) :
    (entries.set location old).set location entry =
      entries.set location entry := by
  induction entries with
  | nil => simp [set]
  | cons pair rest ih =>
      rcases pair with ⟨other, first⟩
      by_cases hOther : other = location
      · simp [set, hOther]
      · simp only [set, if_neg hOther, ih]

/- An entry that is there already changes nothing. -/
theorem set_of_lookup
    {location : Location}
    {entry : Entry}
    {entries : Entries}
    (h : entries.lookup location = some entry) :
    entries.set location entry = entries := by
  induction entries with
  | nil => cases h
  | cons pair rest ih =>
      rcases pair with ⟨other, old⟩
      by_cases hOther : other = location
      · subst hOther
        rw [List.lookup_cons_self] at h
        cases h
        rw [set, if_pos rfl]
      · have hBeq : (location == other) = false :=
          beq_false_of_ne (Ne.symm hOther)
        rw [List.lookup_cons, hBeq] at h
        rw [set, if_neg hOther, ih h]

end Entries

end GradleMigration

------------------------------------------------------------
-- Changes
------------------------------------------------------------

namespace GradleMigration

namespace FileTree

/-
  From one tree to another no more than the given files are
  rewritten, and the given files are new.
-/
structure Changes
    (before after : FileTree)
    (changed added : List Location) : Prop where
  start : after.directory = before.directory
  kept : ∀ location, location ∉ changed → location ∉ added →
    after.get? location = before.get? location
  rewritten : ∀ location ∈ changed,
    before.get? location ≠ some .directory ∧
      ∃ bytes, after.get? location = some (.file bytes)
  made : ∀ location ∈ added,
    before.get? location = none ∧
      ∃ bytes, after.get? location = some (.file bytes)
  distinct : added.Nodup

namespace Changes

variable {before between after : FileTree}
variable {changed added rewritten made : List Location}

/- Nothing has changed. -/
theorem refl
    (tree : FileTree) :
    tree.Changes tree [] [] where
  start := rfl
  kept _ _ _ := rfl
  rewritten _ h := by cases h
  made _ h := by cases h
  distinct := List.nodup_nil

/- A file that has been added is no longer new. -/
theorem not_mem_of_made
    (hFirst : before.Changes between changed added)
    (hSecond : between.Changes after rewritten made)
    {location : Location}
    (h : location ∈ added) :
    location ∉ made := by
  intro hMade
  rcases (hFirst.made location h).2 with ⟨bytes, hFile⟩
  rw [(hSecond.made location hMade).1] at hFile
  cases hFile

/- One change after another. -/
theorem trans
    (hFirst : before.Changes between changed added)
    (hSecond : between.Changes after rewritten made) :
    before.Changes after (changed ++ rewritten)
      (added ++ made) where
  start := hSecond.start.trans hFirst.start
  kept location hChanged hAdded := by
    rw [List.mem_append, not_or] at hChanged hAdded
    rw [hSecond.kept location hChanged.2 hAdded.2,
      hFirst.kept location hChanged.1 hAdded.1]
  rewritten location h := by
    rcases List.mem_append.mp h with hEarly | hLate
    · refine ⟨(hFirst.rewritten location hEarly).1, ?_⟩
      by_cases hAgain : location ∈ rewritten
      · exact (hSecond.rewritten location hAgain).2
      · rcases (hFirst.rewritten location hEarly).2 with
          ⟨bytes, hFile⟩
        have hOld : location ∉ made := by
          intro hMade
          rw [(hSecond.made location hMade).1] at hFile
          cases hFile
        exact ⟨bytes,
          (hSecond.kept location hAgain hOld).trans hFile⟩
    · refine ⟨?_, (hSecond.rewritten location hLate).2⟩
      intro hDirectory
      have hChanged : location ∉ changed := fun hMem =>
        (hFirst.rewritten location hMem).1 hDirectory
      have hAdded : location ∉ added := by
        intro hMem
        rw [(hFirst.made location hMem).1] at hDirectory
        cases hDirectory
      exact (hSecond.rewritten location hLate).1
        ((hFirst.kept location hChanged hAdded).trans hDirectory)
  made location h := by
    rcases List.mem_append.mp h with hEarly | hLate
    · refine ⟨(hFirst.made location hEarly).1, ?_⟩
      by_cases hAgain : location ∈ rewritten
      · exact (hSecond.rewritten location hAgain).2
      · rw [hSecond.kept location hAgain
          (hFirst.not_mem_of_made hSecond hEarly)]
        exact (hFirst.made location hEarly).2
    · have hNone := (hSecond.made location hLate).1
      have hChanged : location ∉ changed := by
        intro hMem
        rcases (hFirst.rewritten location hMem).2 with
          ⟨bytes, hFile⟩
        rw [hNone] at hFile
        cases hFile
      have hAdded : location ∉ added := fun hMem =>
        hFirst.not_mem_of_made hSecond hMem hLate
      exact ⟨(hFirst.kept location hChanged hAdded).symm.trans
        hNone, (hSecond.made location hLate).2⟩
  distinct := by
    refine List.nodup_append.mpr
      ⟨hFirst.distinct, hSecond.distinct, ?_⟩
    intro location hEarly other hLate hEq
    subst hEq
    exact hFirst.not_mem_of_made hSecond hEarly hLate

/- Writing files keeps the directories. -/
theorem sameDirectories
    (h : before.Changes after changed added) :
    before.SameDirectories after where
  start := h.start
  directories location := by
    by_cases hChanged : location ∈ changed
    · rcases h.rewritten location hChanged with
        ⟨hBefore, bytes, hAfter⟩
      rw [hAfter]
      constructor
      · intro hFile
        cases hFile
      · intro hDirectory
        exact absurd hDirectory hBefore
    · by_cases hAdded : location ∈ added
      · rcases h.made location hAdded with
          ⟨hBefore, bytes, hAfter⟩
        rw [hBefore, hAfter]
        constructor
        · intro hFile
          cases hFile
        · intro hNone
          cases hNone
      · rw [h.kept location hChanged hAdded]

/- A file that is not rewritten holds what it held. -/
theorem holds
    (h : before.Changes after changed added)
    {path : Path}
    {location : Location}
    {bytes : List UInt8}
    {content : List Char}
    (hHolds : before.Holds path location bytes content)
    (hChanged : location ∉ changed) :
    after.Holds path location bytes content where
  place := locate_of_sameDirectories h.sameDirectories
    hHolds.place
  entry := by
    have hAdded : location ∉ added := by
      intro hMem
      have hNone := (h.made location hMem).1
      rw [hHolds.entry] at hNone
      cases hNone
    rw [h.kept location hChanged hAdded]
    exact hHolds.entry
  text := hHolds.text

/- What is there stays there. -/
theorem get?_ne_none
    (h : before.Changes after changed added)
    {location : Location}
    (hThere : before.get? location ≠ none) :
    after.get? location ≠ none := by
  by_cases hChanged : location ∈ changed
  · rcases (h.rewritten location hChanged).2 with
      ⟨bytes, hBytes⟩
    rw [hBytes]
    exact Option.some_ne_none _
  · have hAdded : location ∉ added :=
      fun hMem => hThere (h.made location hMem).1
    rw [h.kept location hChanged hAdded]
    exact hThere

/- The files that are new are those that have been added. -/
theorem mem_added_iff
    (h : before.Changes after changed added)
    (hOld : ∀ location ∈ changed,
      before.get? location ≠ none)
    {location : Location} :
    location ∈ added ↔
      before.get? location = none ∧
        after.get? location ≠ none := by
  constructor
  · intro hMem
    rcases h.made location hMem with ⟨hNone, bytes, hBytes⟩
    refine ⟨hNone, ?_⟩
    rw [hBytes]
    exact Option.some_ne_none _
  · rintro ⟨hNone, hSome⟩
    apply Decidable.byContradiction
    intro hMem
    have hChanged : location ∉ changed :=
      fun hIn => hOld location hIn hNone
    rw [h.kept location hChanged hMem] at hSome
    exact hSome hNone

end Changes

/- Putting a file in the place of a file rewrites it. -/
theorem changes_rewrite
    {tree : FileTree}
    {location : Location}
    (h : tree.get? location ≠ some .directory)
    (bytes : List UInt8) :
    tree.Changes (tree.set location (.file bytes))
      [location] [] where
  start := rfl
  kept other hOther _ :=
    get?_set_of_ne h (by simpa using hOther) _
  rewritten other hOther := by
    cases List.mem_singleton.mp hOther
    exact ⟨h, bytes, get?_set_self h _⟩
  made other hOther := by cases hOther
  distinct := List.nodup_nil

/- Where nothing is, there is no directory. -/
theorem not_directory_of_none
    {tree : FileTree}
    {location : Location}
    (h : tree.get? location = none) :
    tree.get? location ≠ some .directory := by
  rw [h]
  intro hDirectory
  cases hDirectory

/- Putting a file where nothing is adds it. -/
theorem changes_make
    {tree : FileTree}
    {location : Location}
    (h : tree.get? location = none)
    (bytes : List UInt8) :
    tree.Changes (tree.set location (.file bytes))
      [] [location] where
  start := rfl
  kept other _ hOther :=
    get?_set_of_ne (not_directory_of_none h)
      (by simpa using hOther) _
  rewritten other hOther := by cases hOther
  made other hOther := by
    cases List.mem_singleton.mp hOther
    exact ⟨h, bytes,
      get?_set_self (not_directory_of_none h) _⟩
  distinct := by simp

/- A tree is its entries and the directory of its paths. -/
theorem eq_of_entries
    {a b : FileTree}
    (hDirectory : a.directory = b.directory)
    (hEntries : a.entries = b.entries) :
    a = b := by
  cases a
  cases b
  cases hDirectory
  cases hEntries
  rfl

/- Only the last entry that is put in a place counts. -/
theorem set_set
    (tree : FileTree)
    (location : Location)
    (old entry : Entry) :
    (tree.set location old).set location entry =
      tree.set location entry :=
  eq_of_entries rfl (Entries.set_set location old entry _)

/- Putting a file where it is already changes nothing. -/
theorem set_of_get?
    {tree : FileTree}
    {location : Location}
    {bytes : List UInt8}
    (h : tree.get? location = some (.file bytes)) :
    tree.set location (.file bytes) = tree := by
  unfold get? at h
  split at h
  · cases h
  · exact eq_of_entries rfl (Entries.set_of_lookup h)

/- Taking away a file keeps the directories. -/
theorem sameDirectories_erase
    {tree : FileTree}
    {location : Location}
    (h : tree.get? location ≠ some .directory) :
    tree.SameDirectories (tree.erase location) where
  start := rfl
  directories other := by
    rw [get?_erase _ _ _ (ne_root h)]
    split
    · next hEq => simp [hEq, h]
    · rfl

/- A path can be written to unless a directory is there. -/
theorem write_eq_ok_iff
    {tree after : FileTree}
    {path : Path}
    {bytes : List UInt8} :
    tree.write path bytes = .ok after ↔
      ∃ location, tree.locate path = .ok location ∧
        tree.get? location ≠ some .directory ∧
          after = tree.set location (.file bytes) := by
  unfold write
  cases tree.locate path with
  | error cause => simp
  | ok location =>
      simp only [Except.ok.injEq, exists_eq_left']
      split
      · next hDirectory => simp [hDirectory]
      · next hFile =>
          have hRoom : tree.get? location ≠ some .directory :=
            hFile
          simp [hRoom, eq_comm (a := after)]

/- A file that has just been written keeps its first bytes. -/
theorem truncate_set
    {tree : FileTree}
    {path : Path}
    {location : Location}
    (hPlace : tree.locate path = .ok location)
    (hRoom : tree.get? location ≠ some .directory)
    (bytes : List UInt8)
    (count : Nat) :
    (tree.set location (.file bytes)).truncate path count =
      tree.set location (.file (bytes.take count)) := by
  have hChanges := changes_rewrite hRoom bytes
  unfold truncate
  rw [locate_of_sameDirectories hChanges.sameDirectories hPlace]
  simp only [get?_set_self hRoom, set_set]

/-
  What becomes of a tree when bytes are written to a place: all
  of them come to it, or no more than a fault lets through.
-/
def setUnder
    (tree : FileTree)
    (location : Location)
    (bytes : List UInt8) : Option WriteFault → FileTree
| none => tree.set location (.file bytes)
| some (.closed _) => tree
| some (.cut _ count) =>
    tree.set location (.file (bytes.take count))

/- What a fault leaves of a file that could be written. -/
theorem leftBy_set
    {tree : FileTree}
    {path : Path}
    {location : Location}
    (hPlace : tree.locate path = .ok location)
    (hRoom : tree.get? location ≠ some .directory)
    (bytes : List UInt8)
    (fault : WriteFault) :
    tree.leftBy (tree.set location (.file bytes)) path fault =
      tree.setUnder location bytes (some fault) := by
  cases fault with
  | closed message => rfl
  | cut message count =>
      exact truncate_set hPlace hRoom bytes count

/- Writing to the place of a file rewrites it at most. -/
theorem changes_setUnder
    {tree : FileTree}
    {location : Location}
    {old : List UInt8}
    (h : tree.get? location = some (.file old))
    (bytes : List UInt8)
    (fault : Option WriteFault) :
    tree.Changes (tree.setUnder location bytes fault)
      [location] [] := by
  have hRoom := not_directory_of_file h
  match fault with
  | none => exact changes_rewrite hRoom bytes
  | some (.cut _ count) => exact changes_rewrite hRoom _
  | some (.closed _) =>
      have hSame := changes_rewrite hRoom old
      rw [set_of_get? h] at hSame
      exact hSame

/- Writing to a place where nothing is adds a file at most. -/
theorem changes_setUnder_of_none
    {tree : FileTree}
    {location : Location}
    (h : tree.get? location = none)
    (bytes : List UInt8)
    (fault : Option WriteFault) :
    ∃ added, tree.Changes (tree.setUnder location bytes fault)
      [] added := by
  match fault with
  | none => exact ⟨_, changes_make h bytes⟩
  | some (.cut _ count) => exact ⟨_, changes_make h _⟩
  | some (.closed _) => exact ⟨[], .refl _⟩

/- Two trees differ in nothing but what some paths lead to. -/
def SameBut
    (before after : FileTree)
    (paths : List Path) : Prop :=
  ∀ location,
    (∀ path ∈ paths, before.locate path ≠ .ok location) →
      after.get? location = before.get? location

end FileTree

end GradleMigration
