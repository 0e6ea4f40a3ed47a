import GradleMigration.Proofs.Backup.Names
import GradleMigration.Backup.Basic
import GradleMigration.Proofs.File.Change

/-
  Putting a backup back: the answer tells what has become of
  the tree.  Either the backup has been moved, or nothing has
  changed at all, or copying was cut off and no more than some
  bytes have come to the file.

  Main declarations:
    * `FileTree.Movable`
    * `FileTree.Movable.moveOver_eq`
    * `FileTree.PutBack`
    * `Backup.IsOriginal`
    * `FileTree.RestoreExit`
    * `FileTree.restore_exit`
    * `FileTree.restore_answers`
-/

------------------------------------------------------------
-- Moving a File
------------------------------------------------------------

namespace GradleMigration

namespace FileTree

/-
  A file can be moved over a path: it is there, and its copy
  gets a place that no directory takes and that is not its
  own.
-/
structure Movable
    (tree : FileTree)
    (source target : Path)
    (here there : Location)
    (bytes : List UInt8) : Prop where
  source_eq : tree.locate source = .ok here
  held : tree.get? here = some (.file bytes)
  target_eq :
    tree.locate (tree.copyTarget source target) = .ok there
  room : tree.get? there ≠ some .directory
  apart : there ≠ here

section

variable {tree : FileTree} {source target : Path}
variable {here there : Location} {bytes : List UInt8}

/- A file that can be moved is copied to its place. -/
theorem Movable.copyOver_eq
    (h : tree.Movable source target here there bytes)
    (fault : Option WriteFault) :
    tree.copyOver fault source target =
      (tree.setUnder there bytes fault, fault.isNone) := by
  have hRead : tree.read source = .ok bytes :=
    read_eq_ok_iff.mpr ⟨here, h.source_eq, h.held⟩
  have hSame :
      tree.isSame source (tree.copyTarget source target) =
        false := by
    unfold isSame
    simp [h.source_eq, h.target_eq, Ne.symm h.apart]
  have hWrite :
      tree.write (tree.copyTarget source target) bytes =
        .ok (tree.set there (.file bytes)) :=
    write_eq_ok_iff.mpr ⟨there, h.target_eq, h.room, rfl⟩
  unfold copyOver
  simp only [hSame, hRead, hWrite]
  cases fault with
  | none => rfl
  | some fault =>
      simp only [leftBy_set h.target_eq h.room]
      rfl

/- What cannot be moved is not copied either. -/
theorem copyOver_of_not_movable
    (h : ∀ here there bytes,
      ¬ tree.Movable source target here there bytes)
    (fault : Option WriteFault) :
    tree.copyOver fault source target = (tree, false) := by
  unfold copyOver
  simp only
  split
  · rfl
  · next hDiffer =>
      split
      · rfl
      · next bytes hRead =>
          rcases read_eq_ok_iff.mp hRead with
            ⟨here, hHere, hHeld⟩
          cases hWrite :
              tree.write (tree.copyTarget source target)
                bytes with
          | error _ => rfl
          | ok copied =>
              rcases write_eq_ok_iff.mp hWrite with
                ⟨there, hThere, hRoom, _⟩
              refine absurd ?_ (h here there bytes)
              refine ⟨hHere, hHeld, hThere, hRoom, ?_⟩
              rintro rfl
              apply hDiffer
              simp [isSame, hHere, hThere, hHeld]

/- Once it has been copied, a file can be taken away. -/
theorem Movable.unlink_eq
    (h : tree.Movable source target here there bytes) :
    (tree.set there (.file bytes)).unlink source =
      .ok ((tree.set there (.file bytes)).erase here) := by
  have hChanges := changes_rewrite h.room bytes
  have hHere := locate_of_sameDirectories
    hChanges.sameDirectories h.source_eq
  have hHeld := get?_set_of_ne h.room (Ne.symm h.apart)
    (.file bytes)
  rw [h.held] at hHeld
  unfold unlink
  simp only [hHere, hHeld]

/- What moving a file comes to. -/
theorem Movable.moveOver_eq
    (h : tree.Movable source target here there bytes) :
    tree.moveOver none source target =
      ((tree.set there (.file bytes)).erase here, true) := by
  unfold moveOver
  rw [h.copyOver_eq]
  simp only [setUnder, Option.isNone_none, h.unlink_eq]

/- What is left of moving a file when copying it fails. -/
theorem Movable.moveOver_of_fault
    (h : tree.Movable source target here there bytes)
    (fault : WriteFault) :
    tree.moveOver (some fault) source target =
      (tree.setUnder there bytes (some fault), false) := by
  unfold moveOver
  rw [h.copyOver_eq]
  rfl

theorem moveOver_of_not_movable
    (h : ∀ here there bytes,
      ¬ tree.Movable source target here there bytes)
    (fault : Option WriteFault) :
    tree.moveOver fault source target = (tree, false) := by
  unfold moveOver
  rw [copyOver_of_not_movable h]

end

/-
  A backup has been put back over a file: the file holds what
  the backup held, the backup is gone, and nothing else has
  changed.
-/
structure PutBack
    (before after : FileTree)
    (backup file : Path) : Prop where
  bytes : ∃ bytes, before.read backup = .ok bytes ∧
    after.read file = .ok bytes
  gone : after.find? backup = .ok none
  kept : before.SameBut after [backup, file]

/- A file that has been moved has been put back. -/
theorem Movable.putBack
    {tree : FileTree}
    {source target : Path}
    {here there : Location}
    {bytes : List UInt8}
    (h : tree.Movable source target here there bytes) :
    tree.PutBack ((tree.set there (.file bytes)).erase here)
      source (tree.copyTarget source target) := by
  have hCopy :=
    (changes_rewrite h.room bytes).sameDirectories
  have hHeld :
      (tree.set there (.file bytes)).get? here =
        some (.file bytes) := by
    rw [get?_set_of_ne h.room (Ne.symm h.apart), h.held]
  have hFile := not_directory_of_file h.held
  have hRoot : here ≠ [] := ne_root hFile
  have hNow := not_directory_of_file hHeld
  have hSame := hCopy.trans (sameDirectories_erase hNow)
  refine
    { bytes := ⟨bytes, ?_, ?_⟩
      gone := ?_
      kept := ?_ }
  · exact read_eq_ok_iff.mpr ⟨here, h.source_eq, h.held⟩
  · refine read_eq_ok_iff.mpr ⟨there,
      locate_of_sameDirectories hSame h.target_eq, ?_⟩
    rw [get?_erase _ _ _ hRoot, if_neg h.apart]
    exact get?_set_self h.room _
  · have hPlace := locate_of_sameDirectories hSame h.source_eq
    simp [find?, find, hPlace, get?_erase _ _ _ hRoot,
      FileCause.isAbsence]
  · intro location hOther
    have hHere : location ≠ here := by
      rintro rfl
      exact hOther source (by simp) h.source_eq
    have hThere : location ≠ there := by
      rintro rfl
      exact hOther _ (by simp) h.target_eq
    rw [get?_erase _ _ _ hRoot, if_neg hHere]
    exact get?_set_of_ne h.room hThere _

end FileTree

end GradleMigration

------------------------------------------------------------
-- Restoring a Backup
------------------------------------------------------------

namespace GradleMigration

/-
  The file that a backup is put back over: the given one, or
  without one that which the backup's name tells.
-/
inductive Backup.IsOriginal
    (backup : Path) : Option Path → Path → Prop
| given (file : Path) :
    IsOriginal backup (some file) file
| told
    {file : Path}
    (hOwner : Backup.owner backup = .ok (some file)) :
    IsOriginal backup none file

namespace FileTree

/-
  How restoring a backup can end, in the order of its checks.
-/
inductive RestoreExit
    (tree : FileTree)
    (backup : Path)
    (given : Option Path)
    (fault : Option WriteFault) :
    Except BackupFault (FileTree × Bool) → Prop
| noName
    {noName : NameFault}
    (hGiven : given = none)
    (hOwner : Backup.owner backup = .error noName) :
    RestoreExit tree backup given fault (.error (.name noName))
| untold
    (hGiven : given = none)
    (hOwner : Backup.owner backup = .ok none) :
    RestoreExit tree backup given fault (.ok (tree, false))
| unknown
    {file : Path}
    {unknown : FileFault}
    (hFile : Backup.IsOriginal backup given file)
    (hLook : tree.isFile backup = .error unknown) :
    RestoreExit tree backup given fault (.error (.file unknown))
| noBackup
    {file : Path}
    (hFile : Backup.IsOriginal backup given file)
    (hLook : tree.isFile backup = .ok false) :
    RestoreExit tree backup given fault (.ok (tree, false))
| null
    {file : Path}
    (hFile : Backup.IsOriginal backup given file)
    (hLook : tree.isFile backup = .ok true)
    (hNull : file.hasNull = true) :
    RestoreExit tree backup given fault
      (.error (.file (.system .nullInPath file)))
| stuck
    {file : Path}
    (hFile : Backup.IsOriginal backup given file)
    (hLook : tree.isFile backup = .ok true)
    (hClean : file.hasNull = false)
    (hStuck : ∀ here there bytes,
      ¬ tree.Movable backup file here there bytes) :
    RestoreExit tree backup given fault (.ok (tree, false))
| failed
    {file : Path}
    {here there : Location}
    {bytes : List UInt8}
    {cause : WriteFault}
    (hFile : Backup.IsOriginal backup given file)
    (hMovable : tree.Movable backup file here there bytes)
    (hFault : fault = some cause) :
    RestoreExit tree backup given fault
      (.ok (tree.setUnder there bytes (some cause), false))
| moved
    {file : Path}
    {here there : Location}
    {bytes : List UInt8}
    (hFile : Backup.IsOriginal backup given file)
    (hMovable : tree.Movable backup file here there bytes)
    (hFault : fault = none) :
    RestoreExit tree backup given fault
      (.ok ((tree.set there (.file bytes)).erase here, true))

/- Once the file is known, the backup is looked at and moved. -/
theorem restore_of_isOriginal
    {backup file : Path}
    {given : Option Path}
    (h : Backup.IsOriginal backup given file)
    (tree : FileTree)
    (fault : Option WriteFault) :
    tree.restore backup given fault =
      match tree.isFile backup with
      | .error unknown => .error (.file unknown)
      | .ok false => .ok (tree, false)
      | .ok true =>
          if file.hasNull then
            .error (.file (.system .nullInPath file))
          else
            .ok (tree.moveOver fault backup file) := by
  cases h with
  | given => rfl
  | told hOwner =>
      have hGiven :
          tree.restore backup none fault =
            tree.restore backup (some file) fault := by
        unfold restore
        simp only [hOwner]
      exact hGiven.trans rfl

/- A backup that is there is moved, or it is not. -/
theorem restoreExit_of_moveOver
    {tree : FileTree}
    {backup file : Path}
    {given : Option Path}
    (hFile : Backup.IsOriginal backup given file)
    (hLook : tree.isFile backup = .ok true)
    (hClean : file.hasNull = false)
    (fault : Option WriteFault) :
    tree.RestoreExit backup given fault
      (.ok (tree.moveOver fault backup file)) := by
  by_cases hMovable : ∃ here there bytes,
      tree.Movable backup file here there bytes
  · rcases hMovable with ⟨here, there, bytes, hMovable⟩
    cases fault with
    | none =>
        rw [hMovable.moveOver_eq]
        exact .moved hFile hMovable rfl
    | some cause =>
        rw [hMovable.moveOver_of_fault]
        exact .failed hFile hMovable rfl
  · have hStuck : ∀ here there bytes,
        ¬ tree.Movable backup file here there bytes :=
      fun here there bytes h => hMovable ⟨here, there, bytes, h⟩
    rw [moveOver_of_not_movable hStuck]
    exact .stuck hFile hLook hClean hStuck

/- Restoring ends in one of these ways. -/
theorem restore_exit
    (tree : FileTree)
    (backup : Path)
    (given : Option Path)
    (fault : Option WriteFault) :
    tree.RestoreExit backup given fault
      (tree.restore backup given fault) := by
  have hKnown : ∀ file, Backup.IsOriginal backup given file →
      tree.RestoreExit backup given fault
        (tree.restore backup given fault) := by
    intro file hFile
    rw [restore_of_isOriginal hFile]
    cases hLook : tree.isFile backup with
    | error unknown => exact .unknown hFile hLook
    | ok isFile =>
        cases isFile with
        | false => exact .noBackup hFile hLook
        | true =>
            cases hNull : file.hasNull with
            | true => exact .null hFile hLook hNull
            | false =>
                exact restoreExit_of_moveOver hFile hLook
                  hNull fault
  cases given with
  | some file => exact hKnown file (.given file)
  | none =>
      cases hOwner : Backup.owner backup with
      | error noName =>
          have hRestore : tree.restore backup none fault =
              .error (.name noName) := by
            unfold restore
            simp only [hOwner]
          rw [hRestore]
          exact .noName rfl hOwner
      | ok told =>
          cases told with
          | some file => exact hKnown file (.told hOwner)
          | none =>
              have hRestore : tree.restore backup none fault =
                  .ok (tree, false) := by
                unfold restore
                simp only [hOwner]
              rw [hRestore]
              exact .untold rfl hOwner

/- A file that can be moved is known to be a file. -/
theorem Movable.isFile_eq
    {tree : FileTree}
    {source target : Path}
    {here there : Location}
    {bytes : List UInt8}
    (h : tree.Movable source target here there bytes) :
    tree.isFile source = .ok true :=
  isFile_eq_true_iff.mpr ⟨here, bytes, h.source_eq, h.held⟩

/- A file is moved over paths without null characters only. -/
theorem Movable.hasNull_eq
    {tree : FileTree}
    {source target : Path}
    {here there : Location}
    {bytes : List UInt8}
    (h : tree.Movable source target here there bytes) :
    target.hasNull = false := by
  have hTarget := h.target_eq
  unfold copyTarget at hTarget
  split at hTarget
  · next hDirectory =>
      rcases find_eq_ok_iff.mp hDirectory with ⟨_, hPlace, _⟩
      exact (locate_eq_ok_iff.mp hPlace).1
  · exact (locate_eq_ok_iff.mp hTarget).1

/-
  What an answer of a restore is worth.  A yes says that the
  backup has been put back over its file, or into it where the
  file is a directory; a no says that nothing has changed, or
  that copying was cut off behind some bytes.  Yes is answered
  wherever the backup can be moved and copying does not fail.
  There is no answer when the backup's name tells a dot, when
  its path is too long, or when the path that it should be put
  back over has a null character.
-/
theorem restore_answers
    (tree : FileTree)
    (backup : Path)
    (given : Option Path)
    (fault : Option WriteFault) :
    (∀ after,
      tree.restore backup given fault = .ok (after, true) →
        ∃ file, Backup.IsOriginal backup given file ∧
          (tree.find file ≠ .ok .directory ∧
              tree.PutBack after backup file ∨
            tree.find file = .ok .directory ∧
              tree.PutBack after backup
                (file.child backup.name))) ∧
      (∀ after,
        tree.restore backup given fault = .ok (after, false) →
          after = tree ∨
            ∃ message count file here there bytes,
              fault = some (.cut message count) ∧
                Backup.IsOriginal backup given file ∧
                tree.Movable backup file here there bytes ∧
                after =
                  tree.set there (.file (bytes.take count))) ∧
      ((∃ after,
          tree.restore backup given fault =
            .ok (after, true)) ↔
        fault = none ∧ ∃ file here there bytes,
          Backup.IsOriginal backup given file ∧
            tree.Movable backup file here there bytes) ∧
      ∀ stop, tree.restore backup given fault = .error stop ↔
        given = none ∧
            (∃ digits,
              Backup.Spells backup.name.toList ['.'] digits) ∧
            stop = .name (.notName ".") ∨
          (∃ file, Backup.IsOriginal backup given file) ∧
            tree.find backup = .error .nameTooLong ∧
            stop = .file (.system .nameTooLong backup) ∨
          tree.isFile backup = .ok true ∧
            ∃ file, Backup.IsOriginal backup given file ∧
              file.hasNull = true ∧
              stop = .file (.system .nullInPath file) := by
  have hExit := tree.restore_exit backup given fault
  refine ⟨?_, ?_, ⟨?_, ?_⟩, fun stop => ⟨?_, ?_⟩⟩
  · intro after hDone
    rw [hDone] at hExit
    cases hExit with
    | moved hFile hMovable =>
        refine ⟨_, hFile, ?_⟩
        have hPut := hMovable.putBack
        unfold copyTarget at hPut
        split at hPut
        · next hDirectory => exact Or.inr ⟨hDirectory, hPut⟩
        · next hOther => exact Or.inl ⟨hOther, hPut⟩
  · intro after hRefused
    generalize hAnswer : Except.ok (after, false) = answer
      at hRefused
    rw [hRefused] at hExit
    cases hExit with
    | failed hFile hMovable hFault =>
        rename_i cause
        cases hAnswer
        cases cause with
        | closed message => exact Or.inl rfl
        | cut message count =>
            exact Or.inr ⟨message, count, _, _, _, _, hFault,
              hFile, hMovable, rfl⟩
    | untold | noBackup | stuck =>
        cases hAnswer
        exact Or.inl rfl
    | _ => cases hAnswer
  · rintro ⟨after, hDone⟩
    rw [hDone] at hExit
    cases hExit with
    | moved hFile hMovable hNone =>
        exact ⟨hNone, _, _, _, _, hFile, hMovable⟩
  · rintro ⟨rfl, file, here, there, bytes, hFile, hMovable⟩
    rw [restore_of_isOriginal hFile, hMovable.isFile_eq]
    simp only [hMovable.hasNull_eq, Bool.false_eq_true,
      if_false, hMovable.moveOver_eq]
    exact ⟨_, rfl⟩
  · intro hFault
    rw [hFault] at hExit
    cases hExit with
    | noName hGiven hOwner =>
        rcases Backup.owner_eq_error_iff.mp hOwner with
          ⟨hDot, rfl⟩
        exact Or.inl ⟨hGiven, hDot, rfl⟩
    | unknown hFile hLook =>
        rcases isFile_eq_error_iff.mp hLook with ⟨hLong, rfl⟩
        exact Or.inr (Or.inl ⟨⟨_, hFile⟩, hLong, rfl⟩)
    | null hFile hLook hNull =>
        exact Or.inr (Or.inr ⟨hLook, _, hFile, hNull, rfl⟩)
  · rintro (⟨rfl, hDot, rfl⟩ | ⟨⟨file, hFile⟩, hLong, rfl⟩ |
      ⟨hLook, file, hFile, hNull, rfl⟩)
    · unfold restore
      simp only [Backup.owner_eq_error_iff.mpr ⟨hDot, rfl⟩]
    · rw [restore_of_isOriginal hFile,
        isFile_eq_error_iff.mpr ⟨hLong, rfl⟩]
    · rw [restore_of_isOriginal hFile, hLook]
      simp only [hNull, if_true]

/- A folder with a file, two backups and another folder. -/
def backupsFolder : FileTree :=
  let folder : Name := ⟨"f", by decide⟩
  (((empty ⟨.slash, []⟩).set [folder] .directory).set
      [folder, ⟨"a.backup.1", by decide⟩] (.file [97])).set
      [folder, ⟨"..backup.1", by decide⟩] (.file [98]) |>.set
      [folder, ⟨"d", by decide⟩] .directory |>.set
      [folder, ⟨"a", by decide⟩] (.file [99])

/-
  Over a directory nothing is put back, whatever the answer;
  where the name of a backup tells a dot there is no answer;
  and where the disk is full, a file is emptied although the
  answer is no.
-/
theorem restore_misleads :
    (∃ after,
      backupsFolder.restore (.parse "/f/a.backup.1")
          (some (.parse "/f/d")) none = .ok (after, true) ∧
        after.isFile (.parse "/f/d") = .ok false) ∧
      backupsFolder.restore (.parse "/f/..backup.1") none
          none = .error (.name (.notName ".")) ∧
      ∃ after,
        backupsFolder.restore (.parse "/f/a.backup.1") none
            (some (.cut "disk full" 0)) =
          .ok (after, false) ∧
        after.read (.parse "/f/a") = .ok [] := by
  refine ⟨?_, ?_, ?_⟩
  · have hFolder :
        (backupsFolder.restore (.parse "/f/a.backup.1")
            (some (.parse "/f/d")) none).toOption.map
          (fun answer => (answer.2,
            (answer.1.isFile (.parse "/f/d")).toOption)) =
          some (true, some false) := by
      decide +kernel
    rcases Option.map_eq_some_iff.mp hFolder with
      ⟨⟨after, done⟩, hAnswer, hPair⟩
    obtain ⟨rfl, hFile⟩ := Prod.mk.inj hPair
    exact ⟨after, toOption_eq_some_iff.mp hAnswer,
      toOption_eq_some_iff.mp hFile⟩
  · have hDecode :
        Backup.decode
            (Path.parse "/f/..backup.1").name.toList =
          some (['.'], ['1']) := by
      decide +kernel
    have hDot := Backup.decode_eq_some_iff.mp hDecode
    unfold restore
    simp only [Backup.owner_eq_error_iff.mpr ⟨⟨_, hDot⟩, rfl⟩]
  · have hCut :
        (backupsFolder.restore (.parse "/f/a.backup.1") none
            (some (.cut "disk full" 0))).toOption.map
          (fun answer => (answer.2,
            (answer.1.read (.parse "/f/a")).toOption)) =
          some (false, some []) := by
      decide +kernel
    rcases Option.map_eq_some_iff.mp hCut with
      ⟨⟨after, done⟩, hAnswer, hPair⟩
    obtain ⟨rfl, hRead⟩ := Prod.mk.inj hPair
    exact ⟨after, toOption_eq_some_iff.mp hAnswer,
      toOption_eq_some_iff.mp hRead⟩

end FileTree

end GradleMigration
