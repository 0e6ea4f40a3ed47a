import GradleMigration.File.Reading
import GradleMigration.Proofs.Data.Outcome

/-
  Finding the entry of a path: which paths the file system
  can ever object to, and what a change of the tree leaves
  where it was.

  Main declarations:
    * `Name.Fits` and `Path.Fits`
    * `Path.FitsFrom`
    * `FileTree.locate_eq_ok_iff`
    * `FileTree.locate_eq_error_iff`
    * `FileTree.fits_of_locate`
    * `FileTree.isFile_of_fits`
    * `FileTree.find_eq_ok_iff`
    * `FileTree.find?_eq_ok_some_iff`
    * `FileTree.find?_eq_error_iff`
    * `FileTree.Holds`
    * `FileTree.SameDirectories`
    * `FileTree.locate_of_sameDirectories`
-/

------------------------------------------------------------
-- Paths Within the Limits
------------------------------------------------------------

namespace GradleMigration

/- A name that is short enough for the file system. -/
def Name.Fits
    (name : Name) : Prop :=
  name.isUp = true ∨
    (Utf8.encode name.text.toList).length ≤ maxNameBytes

/-
  A path from the root of the file tree without null
  characters that is short enough as a whole and in each of
  its names.
-/
structure Path.Fits
    (path : Path) : Prop where
  absolute : path.isAbsolute = true
  clean : path.hasNull = false
  size : path.byteSize ≤ maxPathBytes
  names : ∀ name ∈ path.parts, name.Fits

/-
  A path that is short enough, also in the names on the way to
  the directory where it starts.
-/
structure Path.FitsFrom
    (path base : Path) : Prop where
  size : path.byteSize ≤ maxPathBytes
  names : ∀ name ∈ (base.join path).parts, name.Fits

namespace FileTree

/- A step goes from a directory, up or along a short name. -/
theorem step_eq_ok_iff
    {tree : FileTree}
    {location next : Location}
    {part : Name} :
    tree.step location part = .ok next ↔
      tree.get? location = some .directory ∧ part.Fits ∧
        next =
          if part.isUp then location.dropLast
          else location ++ [part] := by
  unfold step Name.Fits
  cases tree.get? location with
  | none => simp
  | some entry =>
      cases entry with
      | file bytes => simp
      | directory =>
          cases part.isUp with
          | true => simp [eq_comm]
          | false =>
              by_cases hLong : maxNameBytes <
                  (Utf8.encode part.text.toList).length
              · simp [hLong, Nat.not_le.mpr hLong]
              · simp [hLong, Nat.le_of_not_lt hLong, eq_comm]

/- A step fails off the directories, or at a long name. -/
theorem of_step_eq_error
    {tree : FileTree}
    {location : Location}
    {part : Name}
    {cause : FileCause}
    (h : tree.step location part = .error cause) :
    (tree.get? location ≠ some .directory ∧
      cause.isAbsence = true) ∨
        (tree.get? location = some .directory ∧
          ¬ part.Fits ∧ cause = .nameTooLong) := by
  unfold step at h
  split at h
  · next hNone =>
      cases h
      exact Or.inl ⟨by simp [hNone], rfl⟩
  · next bytes hFile =>
      cases h
      exact Or.inl ⟨by simp [hFile], rfl⟩
  · next hDirectory =>
      split at h
      · cases h
      · next hUp =>
          split at h
          · next hLong =>
              cases h
              refine Or.inr ⟨hDirectory, ?_, rfl⟩
              rintro (hIsUp | hShort)
              · exact hUp hIsUp
              · exact Nat.not_lt.mpr hShort hLong
          · cases h

/- A step that is taken goes along a name that fits. -/
theorem fits_of_step
    {tree : FileTree}
    {location next : Location}
    {part : Name}
    (h : tree.step location part = .ok next) :
    part.Fits :=
  (step_eq_ok_iff.mp h).2.1

/- A step along a name that fits fails by absence only. -/
theorem isAbsence_of_step
    {tree : FileTree}
    {location : Location}
    {part : Name}
    {cause : FileCause}
    (hFits : part.Fits)
    (h : tree.step location part = .error cause) :
    cause.isAbsence = true := by
  rcases of_step_eq_error h with
    ⟨_, hAbsence⟩ | ⟨_, hLong, _⟩
  · exact hAbsence
  · exact absurd hFits hLong

/- A finished walk has gone along names that fit. -/
theorem fits_of_walk
    {tree : FileTree}
    {parts : List Name}
    {location last : Location}
    (h : tree.walk location parts = .ok last) :
    ∀ part ∈ parts, part.Fits := by
  induction parts generalizing location with
  | nil => simp
  | cons part rest ih =>
      unfold walk at h
      split at h
      · cases h
      · next next hStep =>
          intro other hOther
          rcases List.mem_cons.mp hOther with hHere | hRest
          · exact hHere ▸ fits_of_step hStep
          · exact ih h other hRest

/- A walk along names that fit fails by absence only. -/
theorem isAbsence_of_walk
    {tree : FileTree}
    {parts : List Name}
    {location : Location}
    {cause : FileCause}
    (hFits : ∀ part ∈ parts, part.Fits)
    (h : tree.walk location parts = .error cause) :
    cause.isAbsence = true := by
  induction parts generalizing location with
  | nil => cases h
  | cons part rest ih =>
      unfold walk at h
      split at h
      · next cause' hStep =>
          cases h
          exact isAbsence_of_step
            (hFits part List.mem_cons_self) hStep
      · exact ih
          (fun other hOther =>
            hFits other (List.mem_cons_of_mem _ hOther)) h

/- From the root of the tree a path is its own names. -/
theorem join_of_absolute
    (base : Path)
    {path : Path}
    (h : path.isAbsolute = true) :
    base.join path = path := by
  simp [Path.join, h]

/- A clean path that is short enough is walked along. -/
theorem locate_eq_ok_iff
    {tree : FileTree}
    {path : Path}
    {location : Location} :
    tree.locate path = .ok location ↔
      path.hasNull = false ∧ path.byteSize ≤ maxPathBytes ∧
        tree.walk [] (tree.directory.join path).parts =
          .ok location := by
  unfold locate
  cases hNull : path.hasNull with
  | true => simp
  | false =>
      by_cases hLong : maxPathBytes < path.byteSize
      · simp [hLong, Nat.not_le.mpr hLong]
      · simp [hLong, Nat.le_of_not_lt hLong]

/-
  A path is not found if it has a null character, if it is too
  long, or if the walk along it fails.
-/
theorem locate_eq_error_iff
    {tree : FileTree}
    {path : Path}
    {cause : FileCause} :
    tree.locate path = .error cause ↔
      path.hasNull = true ∧ cause = .nullInPath ∨
        path.hasNull = false ∧
          (maxPathBytes < path.byteSize ∧
              cause = .nameTooLong ∨
            path.byteSize ≤ maxPathBytes ∧
              tree.walk [] (tree.directory.join path).parts =
                .error cause) := by
  unfold locate
  cases hNull : path.hasNull with
  | true => simp [eq_comm]
  | false =>
      by_cases hLong : maxPathBytes < path.byteSize
      · simp [hLong, Nat.not_le.mpr hLong, eq_comm]
      · simp [hLong, Nat.le_of_not_lt hLong]

/- A path that has been found is within the limits. -/
theorem fitsFrom_of_locate
    {tree : FileTree}
    {path : Path}
    {location : Location}
    (h : tree.locate path = .ok location) :
    path.FitsFrom tree.directory := by
  rcases locate_eq_ok_iff.mp h with ⟨_, hSize, hWalk⟩
  exact ⟨hSize, fits_of_walk hWalk⟩

/- A path that has been found once is within the limits. -/
theorem fits_of_locate
    {tree : FileTree}
    {path : Path}
    {location : Location}
    (hAbsolute : path.isAbsolute = true)
    (h : tree.locate path = .ok location) :
    path.Fits := by
  have hFits := fitsFrom_of_locate h
  refine ⟨hAbsolute, (locate_eq_ok_iff.mp h).1, hFits.size, ?_⟩
  have hNames := hFits.names
  rw [join_of_absolute _ hAbsolute] at hNames
  exact hNames

/-
  It cannot be unknown whether a path within the limits leads
  to a file.
-/
theorem isFile_of_fitsFrom
    {tree : FileTree}
    {path : Path}
    (hFits : path.FitsFrom tree.directory) :
    ∃ answer, tree.isFile path = .ok answer := by
  have hFind :
      ∃ found, tree.find? path = .ok found := by
    unfold find?
    split
    · exact ⟨_, rfl⟩
    · next cause hFind =>
        have hAbsence : cause.isAbsence = true := by
          unfold find at hFind
          split at hFind
          · next cause' hLocate =>
              cases hFind
              rcases locate_eq_error_iff.mp hLocate with
                ⟨_, rfl⟩ | ⟨_, ⟨hLong, _⟩ | ⟨_, hWalk⟩⟩
              · rfl
              · exact absurd hFits.size (Nat.not_le.mpr hLong)
              · exact isAbsence_of_walk hFits.names hWalk
          · split at hFind
            · cases hFind
              rfl
            · cases hFind
        rw [if_pos hAbsence]
        exact ⟨_, rfl⟩
  rcases hFind with ⟨found, hFind⟩
  exact ⟨_, by rw [isFile, hFind]; rfl⟩

/-
  In no tree can it be unknown whether a path within the
  limits leads to a file.
-/
theorem isFile_of_fits
    {path : Path}
    (hFits : path.Fits)
    (tree : FileTree) :
    ∃ answer, tree.isFile path = .ok answer := by
  apply isFile_of_fitsFrom
  refine ⟨hFits.size, ?_⟩
  rw [join_of_absolute _ hFits.absolute]
  exact hFits.names

end FileTree

end GradleMigration

------------------------------------------------------------
-- Paths Beyond the Limits
------------------------------------------------------------

namespace GradleMigration

namespace FileTree

/- A walk fails by absence, or at a name that is too long. -/
theorem of_walk_eq_error
    {tree : FileTree}
    {parts : List Name}
    {location : Location}
    {cause : FileCause}
    (h : tree.walk location parts = .error cause) :
    cause.isAbsence = true ∨ cause = .nameTooLong := by
  induction parts generalizing location with
  | nil => cases h
  | cons part rest ih =>
      unfold walk at h
      split at h
      · next stepCause hStep =>
          cases h
          exact (of_step_eq_error hStep).imp And.right
            (·.2.2)
      · exact ih h

/- What a path leads to is at its place. -/
theorem find_eq_ok_iff
    {tree : FileTree}
    {path : Path}
    {entry : Entry} :
    tree.find path = .ok entry ↔
      ∃ location, tree.locate path = .ok location ∧
        tree.get? location = some entry := by
  unfold find
  cases hLocate : tree.locate path with
  | error cause => simp
  | ok location =>
      cases hEntry : tree.get? location with
      | none => simp [hEntry]
      | some other => simp [hEntry]

/- A path that leads nowhere is absent or too long. -/
theorem of_find_eq_error
    {tree : FileTree}
    {path : Path}
    {cause : FileCause}
    (h : tree.find path = .error cause) :
    cause.isAbsence = true ∨ cause = .nameTooLong := by
  unfold find at h
  split at h
  · next other hLocate =>
      cases h
      rcases locate_eq_error_iff.mp hLocate with
        ⟨_, rfl⟩ | ⟨_, ⟨_, rfl⟩ | ⟨_, hWalk⟩⟩
      · exact Or.inl rfl
      · exact Or.inr rfl
      · exact of_walk_eq_error hWalk
  · split at h
    · cases h
      exact Or.inl rfl
    · cases h

/- Only what a path that is too long leads to is unknown. -/
theorem find?_eq_error_iff
    {tree : FileTree}
    {path : Path}
    {fault : FileFault} :
    tree.find? path = .error fault ↔
      tree.find path = .error .nameTooLong ∧
        fault = .system .nameTooLong path := by
  unfold find?
  cases hFind : tree.find path with
  | ok entry => simp
  | error cause =>
      rcases of_find_eq_error hFind with hAbsence | hLong
      · have hOther : cause ≠ .nameTooLong := by
          rintro rfl
          cases hAbsence
        simp [hAbsence, hOther]
      · subst hLong
        simp [FileCause.isAbsence, eq_comm]

theorem isFile_eq_error_iff
    {tree : FileTree}
    {path : Path}
    {fault : FileFault} :
    tree.isFile path = .error fault ↔
      tree.find path = .error .nameTooLong ∧
        fault = .system .nameTooLong path :=
  map_eq_error_iff.trans find?_eq_error_iff

theorem isDirectory_eq_error_iff
    {tree : FileTree}
    {path : Path}
    {fault : FileFault} :
    tree.isDirectory path = .error fault ↔
      tree.find path = .error .nameTooLong ∧
        fault = .system .nameTooLong path :=
  map_eq_error_iff.trans find?_eq_error_iff

/- What is known to be there is at its place. -/
theorem find?_eq_ok_some_iff
    {tree : FileTree}
    {path : Path}
    {entry : Entry} :
    tree.find? path = .ok (some entry) ↔
      ∃ location, tree.locate path = .ok location ∧
        tree.get? location = some entry := by
  rw [← find_eq_ok_iff]
  unfold find?
  cases tree.find path with
  | ok other => simp
  | error cause =>
      cases hAbsence : cause.isAbsence with
      | false => simp [hAbsence]
      | true => simp [hAbsence]

/- A path is known to lead to a file. -/
theorem isFile_eq_true_iff
    {tree : FileTree}
    {path : Path} :
    tree.isFile path = .ok true ↔
      ∃ location bytes, tree.locate path = .ok location ∧
        tree.get? location = some (.file bytes) := by
  unfold isFile
  rw [map_eq_ok_iff]
  constructor
  · rintro ⟨found, hFound, hFile⟩
    match found, hFound, hFile with
    | some (.file bytes), hFound, _ =>
        rcases find?_eq_ok_some_iff.mp hFound with
          ⟨location, hPlace⟩
        exact ⟨location, bytes, hPlace⟩
  · rintro ⟨location, bytes, hLocate, hEntry⟩
    exact ⟨_, find?_eq_ok_some_iff.mpr
      ⟨location, hLocate, hEntry⟩, rfl⟩

/- There is no file under a path with a null character. -/
theorem isFile_of_hasNull
    {tree : FileTree}
    {path : Path}
    (h : path.hasNull = true) :
    tree.isFile path = .ok false := by
  unfold isFile find? find
  rw [locate_eq_error_iff.mpr (Or.inl ⟨h, rfl⟩)]
  rfl

/- What is under a path that is too long is not known. -/
theorem isFile_of_tooLong
    {tree : FileTree}
    {path : Path}
    (hClean : path.hasNull = false)
    (hLong : maxPathBytes < path.byteSize) :
    tree.isFile path =
      .error (.system .nameTooLong path) := by
  refine isFile_eq_error_iff.mpr ⟨?_, rfl⟩
  unfold find
  rw [locate_eq_error_iff.mpr
    (Or.inr ⟨hClean, Or.inl ⟨hLong, rfl⟩⟩)]

/- A path is known to lead to a directory. -/
theorem isDirectory_eq_true_iff
    {tree : FileTree}
    {path : Path} :
    tree.isDirectory path = .ok true ↔
      ∃ place, tree.locate path = .ok place ∧
        tree.get? place = some .directory := by
  unfold isDirectory
  rw [map_eq_ok_iff, ← find?_eq_ok_some_iff]
  simp

end FileTree

end GradleMigration

------------------------------------------------------------
-- Files that Hold Texts
------------------------------------------------------------

namespace GradleMigration

namespace FileTree

/- A path leads to a file with a text in it. -/
structure Holds
    (tree : FileTree)
    (path : Path)
    (location : Location)
    (bytes : List UInt8)
    (content : List Char) : Prop where
  place : tree.locate path = .ok location
  entry : tree.get? location = some (.file bytes)
  text : Utf8.decode bytes = .ok content

/- What a path leads to when its bytes can be read. -/
theorem read_eq_ok_iff
    {tree : FileTree}
    {path : Path}
    {bytes : List UInt8} :
    tree.read path = .ok bytes ↔
      ∃ location, tree.locate path = .ok location ∧
        tree.get? location = some (.file bytes) := by
  rw [← find_eq_ok_iff]
  unfold read
  cases tree.find path with
  | error cause => simp
  | ok entry =>
      cases entry with
      | directory => simp
      | file found => simp

/- A text can be read where a file holds it. -/
theorem readExact_eq_ok_iff
    {tree : FileTree}
    {path : Path}
    {content : List Char} :
    tree.readExact path = .ok content ↔
      ∃ location bytes,
        tree.Holds path location bytes content := by
  unfold readExact
  constructor
  · intro h
    split at h
    · cases h
    · next bytes hRead =>
        rcases read_eq_ok_iff.mp hRead with
          ⟨location, hLocate, hEntry⟩
        exact ⟨location, bytes, hLocate, hEntry,
          mapError_eq_ok_iff.mp h⟩
  · rintro ⟨location, bytes, hHolds⟩
    rw [read_eq_ok_iff.mpr
      ⟨location, hHolds.place, hHolds.entry⟩]
    exact mapError_eq_ok_iff.mpr hHolds.text

/- A path that leads to a file holds no null character. -/
theorem Holds.hasNull_eq
    {tree : FileTree}
    {path : Path}
    {location : Location}
    {bytes : List UInt8}
    {content : List Char}
    (h : tree.Holds path location bytes content) :
    path.hasNull = false :=
  (locate_eq_ok_iff.mp h.place).1

/- There is no directory where a file is. -/
theorem not_directory_of_file
    {tree : FileTree}
    {location : Location}
    {bytes : List UInt8}
    (h : tree.get? location = some (.file bytes)) :
    tree.get? location ≠ some .directory := by
  rw [h]
  simp

theorem Holds.not_directory
    {tree : FileTree}
    {path : Path}
    {location : Location}
    {bytes : List UInt8}
    {content : List Char}
    (h : tree.Holds path location bytes content) :
    tree.get? location ≠ some .directory :=
  not_directory_of_file h.entry

/- A path that leads to a file is known to do so. -/
theorem Holds.isFile
    {tree : FileTree}
    {path : Path}
    {location : Location}
    {bytes : List UInt8}
    {content : List Char}
    (h : tree.Holds path location bytes content) :
    tree.isFile path = .ok true :=
  isFile_eq_true_iff.mpr ⟨location, bytes, h.place, h.entry⟩

end FileTree

end GradleMigration

------------------------------------------------------------
-- Trees with the Same Directories
------------------------------------------------------------

namespace GradleMigration

namespace FileTree

/-
  Two trees with the same directories: what is a file in one
  of them may be another file or missing in the other.
-/
structure SameDirectories
    (before after : FileTree) : Prop where
  start : after.directory = before.directory
  directories : ∀ location,
    after.get? location = some .directory ↔
      before.get? location = some .directory

theorem SameDirectories.symm
    {before after : FileTree}
    (h : before.SameDirectories after) :
    after.SameDirectories before where
  start := h.start.symm
  directories location := (h.directories location).symm

theorem SameDirectories.trans
    {before between after : FileTree}
    (hFirst : before.SameDirectories between)
    (hSecond : between.SameDirectories after) :
    before.SameDirectories after where
  start := hSecond.start.trans hFirst.start
  directories location :=
    (hSecond.directories location).trans
      (hFirst.directories location)

/- The root of the tree is a directory. -/
theorem ne_root
    {tree : FileTree}
    {location : Location}
    (h : tree.get? location ≠ some .directory) :
    location ≠ [] := by
  intro hEq
  exact h (by rw [hEq]; rfl)

/- What has been put in a place is seen there. -/
theorem get?_set_self
    {tree : FileTree}
    {location : Location}
    (h : tree.get? location ≠ some .directory)
    (entry : Entry) :
    (tree.set location entry).get? location = some entry := by
  rw [tree.get?_set location location _ (ne_root h), if_pos rfl]

/- Other places look the same as before. -/
theorem get?_set_of_ne
    {tree : FileTree}
    {location other : Location}
    (h : tree.get? location ≠ some .directory)
    (hOther : other ≠ location)
    (entry : Entry) :
    (tree.set location entry).get? other = tree.get? other := by
  rw [tree.get?_set location other _ (ne_root h),
    if_neg hOther]

/- Steps from directories lead to the same places. -/
theorem step_of_sameDirectories
    {before after : FileTree}
    (h : before.SameDirectories after)
    {location next : Location}
    {part : Name}
    (hStep : before.step location part = .ok next) :
    after.step location part = .ok next := by
  rcases step_eq_ok_iff.mp hStep with ⟨hDirectory, hNext⟩
  exact step_eq_ok_iff.mpr
    ⟨(h.directories location).mpr hDirectory, hNext⟩

theorem walk_of_sameDirectories
    {before after : FileTree}
    (h : before.SameDirectories after)
    {parts : List Name}
    {location last : Location}
    (hWalk : before.walk location parts = .ok last) :
    after.walk location parts = .ok last := by
  induction parts generalizing location with
  | nil => exact hWalk
  | cons part rest ih =>
      unfold walk at hWalk ⊢
      split at hWalk
      · cases hWalk
      · next next hStep =>
          rw [step_of_sameDirectories h hStep]
          exact ih hWalk

/- A path that is found in one tree is found in the other. -/
theorem locate_of_sameDirectories
    {before after : FileTree}
    (h : before.SameDirectories after)
    {path : Path}
    {location : Location}
    (hLocate : before.locate path = .ok location) :
    after.locate path = .ok location := by
  rcases locate_eq_ok_iff.mp hLocate with
    ⟨hClean, hSize, hWalk⟩
  refine locate_eq_ok_iff.mpr ⟨hClean, hSize, ?_⟩
  rw [h.start]
  exact walk_of_sameDirectories h hWalk

end FileTree

end GradleMigration
