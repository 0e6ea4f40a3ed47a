import GradleMigration.Proofs.Backup.Stamps
import GradleMigration.Proofs.Fix.Writing

/-
  Fixes are local: what a fix does depends on the directories,
  on its file and on the names of the backups of its file, and
  it writes nowhere else.  So fixes of different files can
  change places.

  Main declarations:
    * `FileTree.Same`
    * `FileTree.edit`
    * `FileTree.Reaches`
    * `FileTree.isFile_eq`
    * `FileTree.snapshot_local`
    * `Registry.applyFix_local`
    * `Registry.applyFix_swap`
    * `Registry.applyFixes_front`
-/

------------------------------------------------------------
-- Edits
------------------------------------------------------------

namespace GradleMigration

namespace FileTree

/- Two trees that look the same. -/
structure Same
    (a b : FileTree) : Prop where
  start : b.directory = a.directory
  view : ∀ location, b.get? location = a.get? location

/- Bytes for locations. -/
abbrev Edits :=
  List (Location × List UInt8)

/- Put bytes at locations, one after another. -/
def edit
    (tree : FileTree)
    (edits : Edits) : FileTree :=
  edits.foldl (fun tree edit => tree.set edit.1 (.file edit.2))
    tree

namespace Same

variable {a b c : FileTree}

theorem refl
    (tree : FileTree) :
    tree.Same tree where
  start := rfl
  view _ := rfl

theorem trans
    (hFirst : a.Same b)
    (hSecond : b.Same c) :
    a.Same c where
  start := hSecond.start.trans hFirst.start
  view location :=
    (hSecond.view location).trans (hFirst.view location)

theorem sameDirectories
    (h : a.Same b) :
    a.SameDirectories b where
  start := h.start
  directories location := by
    rw [h.view location]

end Same

theorem directory_edit
    (tree : FileTree)
    (edits : Edits) :
    (tree.edit edits).directory = tree.directory := by
  induction edits generalizing tree with
  | nil => rfl
  | cons edit rest ih =>
      exact ih (tree.set edit.1 (.file edit.2))

/- Trees that agree at a place do so after the same edits. -/
theorem get?_edit_congr
    {a b : FileTree}
    {location : Location}
    (h : b.get? location = a.get? location)
    {edits : Edits}
    (hRoot : ∀ edit ∈ edits, edit.1 ≠ []) :
    (b.edit edits).get? location =
      (a.edit edits).get? location := by
  induction edits generalizing a b with
  | nil => exact h
  | cons edit rest ih =>
      have hHere := hRoot edit List.mem_cons_self
      apply ih
      · rw [get?_set _ _ _ _ hHere, get?_set _ _ _ _ hHere, h]
      · intro other hOther
        exact hRoot other (List.mem_cons_of_mem _ hOther)

/- What is at an edited place is told by the edits. -/
theorem get?_edit_of_mem
    (a b : FileTree)
    {location : Location}
    {edits : Edits}
    (hRoot : ∀ edit ∈ edits, edit.1 ≠ [])
    (h : location ∈ edits.map Prod.fst) :
    (b.edit edits).get? location =
      (a.edit edits).get? location := by
  induction edits generalizing a b with
  | nil => cases h
  | cons edit rest ih =>
      have hHere := hRoot edit List.mem_cons_self
      have hRest : ∀ other ∈ rest, other.1 ≠ [] := by
        intro other hOther
        exact hRoot other (List.mem_cons_of_mem _ hOther)
      rcases List.mem_cons.mp h with hFirst | hLater
      · apply get?_edit_congr _ hRest
        rw [get?_set _ _ _ _ hHere, get?_set _ _ _ _ hHere,
          if_pos hFirst, if_pos hFirst]
      · exact ih _ _ hRest hLater

/- Other places are as they were. -/
theorem get?_edit_of_not_mem
    (tree : FileTree)
    {location : Location}
    {edits : Edits}
    (hRoot : ∀ edit ∈ edits, edit.1 ≠ [])
    (h : location ∉ edits.map Prod.fst) :
    (tree.edit edits).get? location = tree.get? location := by
  induction edits generalizing tree with
  | nil => rfl
  | cons edit rest ih =>
      have hHere := hRoot edit List.mem_cons_self
      rw [List.map_cons, List.mem_cons, not_or] at h
      have hSet : (tree.set edit.1 (.file edit.2)).get? location =
          tree.get? location := by
        rw [get?_set _ _ _ _ hHere, if_neg h.1]
      rw [← hSet]
      apply ih _ _ h.2
      intro other hOther
      exact hRoot other (List.mem_cons_of_mem _ hOther)

/- Edits of what is no directory keep the directories. -/
theorem sameDirectories_edit
    {tree : FileTree}
    {edits : Edits}
    (h : ∀ edit ∈ edits, tree.get? edit.1 ≠ some .directory) :
    tree.SameDirectories (tree.edit edits) := by
  induction edits generalizing tree with
  | nil => exact (Same.refl tree).sameDirectories
  | cons edit rest ih =>
      have hSet := (changes_rewrite
        (h edit List.mem_cons_self) edit.2).sameDirectories
      have hRest := ih fun other hOther hDirectory =>
        h other (List.mem_cons_of_mem _ hOther)
          ((hSet.directories other.1).mp hDirectory)
      exact
        { start := hRest.start.trans hSet.start
          directories := fun location =>
            (hRest.directories location).trans
              (hSet.directories location) }

/- Edits of different places can change their order. -/
theorem edit_comm
    (tree : FileTree)
    {first second : Edits}
    (hFirst : ∀ edit ∈ first, edit.1 ≠ [])
    (hSecond : ∀ edit ∈ second, edit.1 ≠ [])
    (h : ∀ location ∈ first.map Prod.fst,
      location ∉ second.map Prod.fst) :
    ((tree.edit first).edit second).Same
      ((tree.edit second).edit first) where
  start := by
    simp only [directory_edit]
  view location := by
    by_cases hMem : location ∈ first.map Prod.fst
    · rw [get?_edit_of_not_mem _ hSecond (h location hMem)]
      exact get?_edit_of_mem _ _ hFirst hMem
    · rw [get?_edit_of_not_mem _ hFirst hMem]
      apply Eq.symm
      apply get?_edit_congr _ hSecond
      exact get?_edit_of_not_mem _ hFirst hMem

end FileTree

end GradleMigration

------------------------------------------------------------
-- What a Fix Looks At
------------------------------------------------------------

namespace GradleMigration

namespace FileTree

/- The places of a file in a folder and of its backups. -/
def Reaches
    (tree : FileTree)
    (folder : Path)
    (file : Name)
    (location : Location) : Prop :=
  ∃ place, tree.InFolder folder place ∧
    (location = place ++ [file] ∨
      ∃ stamp, location = place ++ [Backup.nameAt file stamp])

theorem Reaches.of_sameDirectories
    {before after : FileTree}
    (h : before.SameDirectories after)
    {folder : Path}
    {file : Name}
    {location : Location}
    (hReach : before.Reaches folder file location) :
    after.Reaches folder file location := by
  rcases hReach with ⟨place, hFolder, hLocation⟩
  exact ⟨place, hFolder.of_sameDirectories h, hLocation⟩

/- A step that fails does so in the same way or by absence. -/
theorem step_error_of_sameDirectories
    {before after : FileTree}
    (h : before.SameDirectories after)
    {location : Location}
    {part : Name}
    {cause : FileCause}
    (hStep : before.step location part = .error cause) :
    ∃ other, after.step location part = .error other ∧
      (other = cause ∨
        (cause.isAbsence = true ∧ other.isAbsence = true)) := by
  have hAbsent :
      after.get? location ≠ some .directory →
        ∃ other, after.step location part = .error other ∧
          other.isAbsence = true := by
    intro hNot
    unfold step
    split
    · exact ⟨_, rfl, rfl⟩
    · exact ⟨_, rfl, rfl⟩
    · next hDirectory => exact absurd hDirectory hNot
  by_cases hDirectory : before.get? location = some .directory
  · refine ⟨cause, ?_, Or.inl rfl⟩
    unfold step at hStep ⊢
    rw [hDirectory] at hStep
    rw [(h.directories location).mpr hDirectory]
    exact hStep
  · rcases hAbsent
        (fun hAfter =>
          hDirectory ((h.directories location).mp hAfter)) with
      ⟨other, hOther, hAbsence⟩
    refine ⟨other, hOther, Or.inr ⟨?_, hAbsence⟩⟩
    rcases of_step_eq_error hStep with
      ⟨_, hMissing⟩ | ⟨hHere, _, _⟩
    · exact hMissing
    · exact absurd hHere hDirectory

/- A walk that fails does so in the same way or by absence. -/
theorem walk_error_of_sameDirectories
    {before after : FileTree}
    (h : before.SameDirectories after)
    {parts : List Name}
    {location : Location}
    {cause : FileCause}
    (hWalk : before.walk location parts = .error cause) :
    ∃ other, after.walk location parts = .error other ∧
      (other = cause ∨
        (cause.isAbsence = true ∧ other.isAbsence = true)) := by
  induction parts generalizing location with
  | nil => cases hWalk
  | cons part rest ih =>
      unfold walk at hWalk ⊢
      split at hWalk
      · next early hStep =>
          cases hWalk
          rcases step_error_of_sameDirectories h hStep with
            ⟨other, hOther, hCause⟩
          rw [hOther]
          exact ⟨other, rfl, hCause⟩
      · next next hStep =>
          rw [step_of_sameDirectories h hStep]
          exact ih hWalk

end FileTree

end GradleMigration

namespace GradleMigration

namespace FileTree

section

variable {before after : FileTree} {path : Path}

/- Paths that are not found in one tree are not in the other. -/
theorem locate_error_of_sameDirectories
    (h : before.SameDirectories after)
    {cause : FileCause}
    (hLocate : before.locate path = .error cause) :
    ∃ other, after.locate path = .error other ∧
      (other = cause ∨
        (cause.isAbsence = true ∧ other.isAbsence = true)) := by
  rcases locate_eq_error_iff.mp hLocate with
    ⟨hNull, rfl⟩ | ⟨hClean, ⟨hLong, rfl⟩ | ⟨hShort, hWalk⟩⟩
  · exact ⟨_, locate_eq_error_iff.mpr
      (Or.inl ⟨hNull, rfl⟩), Or.inl rfl⟩
  · exact ⟨_, locate_eq_error_iff.mpr
      (Or.inr ⟨hClean, Or.inl ⟨hLong, rfl⟩⟩), Or.inl rfl⟩
  · rcases walk_error_of_sameDirectories h hWalk with
      ⟨other, hOther, hCause⟩
    rw [← h.start] at hOther
    exact ⟨other, locate_eq_error_iff.mpr
      (Or.inr ⟨hClean, Or.inr ⟨hShort, hOther⟩⟩), hCause⟩

/- Whether there is a file can be told from its place. -/
theorem isFile_eq
    (h : before.SameDirectories after)
    (hAgree : ∀ location, before.locate path = .ok location →
      after.get? location = before.get? location) :
    after.isFile path = before.isFile path := by
  have hFind : after.find? path = before.find? path := by
    unfold find? find
    cases hLocate : before.locate path with
    | ok location =>
        rw [locate_of_sameDirectories h hLocate]
        simp only [hAgree location hLocate]
    | error cause =>
        rcases locate_error_of_sameDirectories h hLocate with
          ⟨other, hOther, hCause⟩
        rw [hOther]
        rcases hCause with hSame | ⟨hHere, hThere⟩
        · rw [hSame]
        · simp only [hHere, hThere, if_true]
  unfold isFile
  rw [hFind]

/- What a file holds can be told from its place. -/
theorem read_eq_of_locate
    {location : Location}
    (hBefore : before.locate path = .ok location)
    (hAfter : after.locate path = .ok location)
    (hAgree : after.get? location = before.get? location) :
    after.read path = before.read path := by
  unfold read find
  rw [hBefore, hAfter]
  simp only [hAgree]

end

section

variable {before after : FileTree} {folder : Path}
variable {place : Location} {file : Name}
variable {bytes : List UInt8}

/- A stamp is free in one tree if it is free in the other. -/
theorem tryStamp_congr
    {stamp : Int}
    (h : after.get? (place ++ [Backup.nameAt file stamp]) =
      before.get? (place ++ [Backup.nameAt file stamp])) :
    after.tryStamp folder place file bytes stamp =
      (before.tryStamp folder place file bytes stamp).map
        fun outcome => outcome.map fun made =>
          (after.set (place ++ [Backup.nameAt file stamp])
            (.file bytes), made.2) := by
  unfold tryStamp
  simp only
  cases hPlace : siblingPlace folder place
      (Backup.nameAt file stamp) with
  | error cause => rfl
  | ok location =>
      have hLocation := of_siblingPlace hPlace
      subst hLocation
      simp only [h]
      cases before.get?
          (place ++ [Backup.nameAt file stamp]) with
      | none => rfl
      | some entry => rfl

/-
  A backup is made in the same place in trees that agree on
  the places of backups, or it fails in both.
-/
theorem snapshot_local
    (hBefore : before.InFolder folder place)
    (hAfter : after.InFolder folder place)
    (hRead : before.read (folder.below [file]) = .ok bytes)
    (hToo : after.read (folder.below [file]) = .ok bytes)
    (hAgree : ∀ stamp,
      after.get? (place ++ [Backup.nameAt file stamp]) =
        before.get? (place ++ [Backup.nameAt file stamp]))
    (time : Int) :
    (∃ fault,
      before.snapshot (folder.below [file]) time =
          .error fault ∧
        after.snapshot (folder.below [file]) time =
          .error fault) ∨
    ∃ stamp,
      before.get? (place ++ [Backup.nameAt file stamp]) =
          none ∧
        before.locate
            (folder.below [Backup.nameAt file stamp]) =
          .ok (place ++ [Backup.nameAt file stamp]) ∧
        before.snapshot (folder.below [file]) time =
          .ok (before.set
            (place ++ [Backup.nameAt file stamp])
              (.file bytes),
            folder.below [Backup.nameAt file stamp]) ∧
        after.snapshot (folder.below [file]) time =
          .ok (after.set
            (place ++ [Backup.nameAt file stamp])
              (.file bytes),
            folder.below [Backup.nameAt file stamp]) := by
  rcases snapshot_eq_tryStamp hBefore hRead time with
    ⟨count, hTaken, hFree⟩
  rcases snapshot_eq_tryStamp hAfter hToo time with
    ⟨other, hTakenToo, hFreeToo⟩
  have hTry : ∀ stamp, after.tryStamp folder place file bytes
      stamp = none ↔
        before.tryStamp folder place file bytes stamp =
          none := by
    intro stamp
    rw [tryStamp_congr (hAgree stamp), Option.map_eq_none_iff]
  -- Both searches stop at the first stamp that is not taken.
  have hCount : other = count := by
    rcases Nat.lt_trichotomy other count with
      hLess | hEq | hMore
    · have hNone := (hTry _).mpr (hTaken other hLess)
      rw [hFreeToo] at hNone
      cases hNone
    · exact hEq
    · have hNone := (hTry _).mp (hTakenToo count hMore)
      rw [hFree] at hNone
      cases hNone
  subst hCount
  rw [tryStamp_congr (hAgree _), hFree] at hFreeToo
  injection hFreeToo with hOutcome
  unfold tryStamp at hFree
  simp only at hFree
  split at hFree
  · injection hFree with hFault
    left
    refine ⟨_, hFault.symm, ?_⟩
    rw [← hOutcome, ← hFault]
    rfl
  · next location hPlace =>
      have hLocation := of_siblingPlace hPlace
      subst hLocation
      split at hFree
      · next hNone =>
          injection hFree with hMade
          right
          refine ⟨_, hNone, ?_, hMade.symm, ?_⟩
          · rw [hBefore.locate_sibling
              (Backup.nameAt_isUp file _)]
            exact hPlace
          · rw [← hOutcome, ← hMade]
            rfl
      · cases hFree

end

end FileTree

end GradleMigration

------------------------------------------------------------
-- What a Fix Writes
------------------------------------------------------------

namespace GradleMigration

namespace FileTree

/- Edits that a fix of a file may make. -/
def Allows
    (tree : FileTree)
    (folder : Path)
    (file : Name)
    (edits : Edits) : Prop :=
  ∀ edit ∈ edits,
    tree.Reaches folder file edit.1 ∧
      tree.get? edit.1 ≠ some .directory

theorem Allows.nil
    {tree : FileTree}
    {folder : Path}
    {file : Name} :
    tree.Allows folder file [] :=
  fun _ hEdit => absurd hEdit List.not_mem_nil

theorem Allows.cons
    {tree : FileTree}
    {folder : Path}
    {file : Name}
    {location : Location}
    (hReach : tree.Reaches folder file location)
    (hFile : tree.get? location ≠ some .directory)
    {edits : Edits}
    (h : tree.Allows folder file edits)
    (bytes : List UInt8) :
    tree.Allows folder file ((location, bytes) :: edits) :=
  List.forall_mem_cons.mpr ⟨⟨hReach, hFile⟩, h⟩

theorem Allows.ne_root
    {tree : FileTree}
    {folder : Path}
    {file : Name}
    {edits : Edits}
    (h : tree.Allows folder file edits) :
    ∀ edit ∈ edits, edit.1 ≠ [] := by
  intro edit hEdit
  exact FileTree.ne_root (h edit hEdit).2

theorem Allows.sameDirectories
    {tree : FileTree}
    {folder : Path}
    {file : Name}
    {edits : Edits}
    (h : tree.Allows folder file edits) :
    tree.SameDirectories (tree.edit edits) :=
  sameDirectories_edit fun edit hEdit => (h edit hEdit).2

end FileTree

theorem FileTree.Allows.of_sameDirectories
    {before after : FileTree}
    (hSame : before.SameDirectories after)
    {folder : Path}
    {file : Name}
    {edits : FileTree.Edits}
    (h : before.Allows folder file edits) :
    after.Allows folder file edits := by
  intro edit hEdit
  rcases h edit hEdit with ⟨hReach, hFile⟩
  refine ⟨hReach.of_sameDirectories hSame, ?_⟩
  intro hDirectory
  exact hFile ((hSame.directories edit.1).mp hDirectory)

/- The edit that writing to a place is, if a fault allows it. -/
def FileTree.editsUnder
    (location : Location)
    (bytes : List UInt8) : Option WriteFault → FileTree.Edits
| none => [(location, bytes)]
| some (.closed _) => []
| some (.cut _ count) => [(location, bytes.take count)]

theorem FileTree.setUnder_eq_edit
    (tree : FileTree)
    (location : Location)
    (bytes : List UInt8)
    (fault : Option WriteFault) :
    tree.setUnder location bytes fault =
      tree.edit (editsUnder location bytes fault) := by
  match fault with
  | none => rfl
  | some (.closed _) => rfl
  | some (.cut _ _) => rfl

theorem FileTree.Allows.editsUnder
    {tree : FileTree}
    {folder : Path}
    {file : Name}
    {location : Location}
    (hReach : tree.Reaches folder file location)
    (hFile : tree.get? location ≠ some .directory)
    (bytes : List UInt8)
    (fault : Option WriteFault) :
    tree.Allows folder file
      (FileTree.editsUnder location bytes fault) := by
  match fault with
  | none => exact .cons hReach hFile .nil _
  | some (.closed _) => exact .nil
  | some (.cut _ _) => exact .cons hReach hFile .nil _

/-
  A script that can be backed up is replaced by edits at the
  places of its backup and of itself.  Which they are, and the
  outcome, is told by the faults alone.
-/
theorem Workspace.replaceScript_eq
    (workspace : Workspace)
    {tree : FileTree}
    {finding : Finding}
    {location copy : Location}
    {backup : Path}
    {bytes : List UInt8}
    (hLocate : tree.locate finding.file = .ok location)
    (hSource : tree.get? location = some (.file bytes))
    (hPlace : tree.locate backup = .ok copy)
    (hCopy : tree.get? copy = none)
    (hMade : tree.snapshot finding.file workspace.time =
      .ok (tree.set copy (.file bytes), backup))
    (text : List Char) :
    (workspace.withTree tree).replaceScript finding text =
      match workspace.copyFault with
      | none =>
          (workspace.withTree (tree.edit ((copy, bytes) ::
              FileTree.editsUnder location (Utf8.encode text)
                workspace.writeFault)),
            match workspace.writeFault with
            | none =>
                .fixed backup finding.matched
                  finding.suggestedFix
            | some fault =>
                .failed (.notWritten backup
                  (.denied fault.message)))
      | some fault =>
          (workspace.withTree (tree.edit
              (FileTree.editsUnder copy bytes (some fault))),
            .failed (.noBackup
              (.file (.denied fault.message)))) := by
  have hRoom := FileTree.not_directory_of_none hCopy
  have hChanges := FileTree.changes_make hCopy bytes
  have hNe : location ∉ [copy] := by
    intro hMem
    rw [List.mem_singleton.mp hMem, hCopy] at hSource
    cases hSource
  have hWritten := workspace.writeScript_eq
    (FileTree.locate_of_sameDirectories
      hChanges.sameDirectories hLocate)
    ((hChanges.kept location List.not_mem_nil hNe).trans
      hSource) text
  have hBackUp : (workspace.withTree tree).backUp finding.file =
      match workspace.copyFault with
      | none =>
          (workspace.withTree (tree.set copy (.file bytes)),
            .ok backup)
      | some fault =>
          (workspace.withTree (tree.leftBy
              (tree.set copy (.file bytes)) backup fault),
            .error (.file (.denied fault.message))) := by
    unfold backUp
    rw [tree_withTree, show (workspace.withTree tree).time =
      workspace.time from rfl, hMade]
    rfl
  unfold replaceScript
  rw [hBackUp]
  cases workspace.copyFault with
  | none =>
      simp only [hWritten, FileTree.setUnder_eq_edit]
      cases workspace.writeFault with
      | none => rfl
      | some fault => rfl
  | some fault =>
      simp only [FileTree.leftBy_set hPlace hRoom,
        FileTree.setUnder_eq_edit]

/-
  Replacing a script makes the same edits in trees that agree
  on the places of the script and its backups.
-/
theorem Workspace.replaceScript_local
    {workspace : Workspace}
    {other : FileTree}
    {finding : Finding}
    {folder : Path}
    {place : Location}
    {file : Name}
    {bytes : List UInt8}
    (hPath : finding.file = folder.below [file])
    (hFolder : workspace.tree.InFolder folder place)
    (hSame : workspace.tree.SameDirectories other)
    (hLocate : workspace.tree.locate (folder.below [file]) =
      .ok (place ++ [file]))
    (hSource : workspace.tree.get? (place ++ [file]) =
      some (.file bytes))
    (hAgree : ∀ location,
      workspace.tree.Reaches folder file location →
        other.get? location = workspace.tree.get? location)
    (text : List Char) :
    ∃ edits outcome,
      workspace.tree.Allows folder file edits ∧
      workspace.replaceScript finding text =
        (workspace.withTree (workspace.tree.edit edits),
          outcome) ∧
      (workspace.withTree other).replaceScript finding text =
        (workspace.withTree (other.edit edits), outcome) := by
  have hReach : workspace.tree.Reaches folder file
      (place ++ [file]) := ⟨place, hFolder, Or.inl rfl⟩
  have hStamps : ∀ stamp, workspace.tree.Reaches folder file
      (place ++ [Backup.nameAt file stamp]) := by
    intro stamp
    exact ⟨place, hFolder, Or.inr ⟨stamp, rfl⟩⟩
  have hRead := FileTree.read_eq_ok_iff.mpr
    ⟨_, hLocate, hSource⟩
  have hLocateToo :=
    FileTree.locate_of_sameDirectories hSame hLocate
  have hSourceToo := (hAgree _ hReach).trans hSource
  have hToo := FileTree.read_eq_ok_iff.mpr
    ⟨_, hLocateToo, hSourceToo⟩
  rcases FileTree.snapshot_local hFolder
      (hFolder.of_sameDirectories hSame) hRead hToo
      (fun stamp => hAgree _ (hStamps stamp))
      workspace.time with
    ⟨fault, hFault, hFaultToo⟩ |
      ⟨stamp, hNone, hPlace, hMade, hMadeToo⟩
  · refine ⟨[], .failed (.noBackup fault), .nil, ?_, ?_⟩
    · unfold replaceScript backUp
      rw [hPath, hFault]
      rfl
    · unfold replaceScript backUp
      simp only [withTree, hPath, hFaultToo]
      rfl
  · have hNoneToo := (hAgree _ (hStamps stamp)).trans hNone
    have hPlaceToo :=
      FileTree.locate_of_sameDirectories hSame hPlace
    rw [← hPath] at hLocate hLocateToo hMade hMadeToo
    have hHere := workspace.replaceScript_eq hLocate hSource
      hPlace hNone hMade text
    have hThere := workspace.replaceScript_eq hLocateToo
      hSourceToo hPlaceToo hNoneToo hMadeToo text
    have hCopy := hStamps stamp
    have hRoom := FileTree.not_directory_of_none hNone
    have hFile := FileTree.not_directory_of_file hSource
    cases hCopying : workspace.copyFault with
    | none =>
        rw [hCopying] at hHere hThere
        exact ⟨_, _, .cons hCopy hRoom
          (.editsUnder hReach hFile _ _) bytes, hHere, hThere⟩
    | some fault =>
        rw [hCopying] at hHere hThere
        exact ⟨_, _, .editsUnder hCopy hRoom _ _,
          hHere, hThere⟩

namespace Registry

section

variable {registry : Registry} {workspace after : Workspace}
variable {other : FileTree} {finding : Finding}
variable {folder : Path} {file : Name}

/- A file is found under its name in a place of its folder. -/
theorem exists_place_of_locate
    {tree : FileTree}
    {location : Location}
    (hUp : file.isUp = false)
    (h : tree.locate (folder.below [file]) = .ok location) :
    ∃ place, tree.InFolder folder place ∧
      location = place ++ [file] := by
  rcases FileTree.inFolder_of_locate h with ⟨place, hFolder⟩
  rw [hFolder.locate_sibling hUp] at h
  exact ⟨place, hFolder, FileTree.of_siblingPlace h⟩

/- A whole fix makes the same edits in such trees. -/
theorem fixFile_local
    {outcome : FixOutcome}
    (hPath : finding.file = folder.below [file])
    (hUp : file.isUp = false)
    (hSame : workspace.tree.SameDirectories other)
    (hAgree : ∀ location,
      workspace.tree.Reaches folder file location →
        other.get? location = workspace.tree.get? location)
    (h : registry.fixFile workspace finding =
      .ok (after, outcome)) :
    ∃ edits,
      workspace.tree.Allows folder file edits ∧
      after = workspace.withTree (workspace.tree.edit edits) ∧
      registry.fixFile (workspace.withTree other) finding =
        .ok (workspace.withTree (other.edit edits),
          outcome) := by
  have hHere : ∀ location,
      workspace.tree.locate (folder.below [file]) =
          .ok location →
        other.get? location = workspace.tree.get? location := by
    intro location hLocate
    rcases exists_place_of_locate hUp hLocate with
      ⟨place, hFolder, hLocation⟩
    exact hAgree _ ⟨place, hFolder, Or.inl hLocation⟩
  have hIsFile : other.isFile finding.file =
      workspace.tree.isFile finding.file := by
    rw [hPath]
    exact FileTree.isFile_eq hSame hHere
  unfold fixFile at h
  split at h
  · cases h
  next hClean =>
  split at h
  · cases h
  · next hAnswer =>
      cases h
      refine ⟨[], .nil, rfl, ?_⟩
      unfold fixFile
      rw [if_neg hClean, Workspace.tree_withTree, hIsFile,
        hAnswer]
      rfl
  · next hAnswer =>
      rcases FileTree.isFile_eq_true_iff.mp hAnswer with
        ⟨location, bytes, hLocate, hSource⟩
      rw [hPath] at hLocate
      have hRead : other.readExact finding.file =
          workspace.tree.readExact finding.file := by
        unfold FileTree.readExact
        rw [hPath, FileTree.read_eq_of_locate hLocate
          (FileTree.locate_of_sameDirectories hSame hLocate)
          (hHere _ hLocate)]
      split at h
      · next fault hFault =>
          cases h
          refine ⟨[], .nil, rfl, ?_⟩
          unfold fixFile
          simp only [if_neg hClean, Workspace.tree_withTree,
            hIsFile, hAnswer, hRead, hFault]
          rfl
      · next content hContent =>
          split at h
          · cases h
          · next text hText =>
              split at h
              · next hUnchanged =>
                  cases h
                  refine ⟨[], .nil, rfl, ?_⟩
                  unfold fixFile
                  simp only [if_neg hClean,
                    Workspace.tree_withTree, hIsFile,
                    hAnswer, hRead, hContent, hText,
                    if_pos hUnchanged]
                  rfl
              · next hChanged =>
                  rcases exists_place_of_locate hUp hLocate with
                    ⟨place, hFolder, hLocation⟩
                  subst hLocation
                  rcases Workspace.replaceScript_local hPath
                      hFolder hSame hLocate hSource hAgree
                      text with
                    ⟨edits, found, hAllows, hHere, hThere⟩
                  rw [hHere] at h
                  cases h
                  refine ⟨edits, hAllows, rfl, ?_⟩
                  unfold fixFile
                  simp only [if_neg hClean,
                    Workspace.tree_withTree, hIsFile,
                    hAnswer, hRead, hContent, hText,
                    if_neg hChanged, hThere]

/-
  A fix has the same result and makes the same edits in trees
  that agree on the places of its file and its backups.
-/
theorem applyFix_local
    {result : FixResult}
    (hPath : finding.file = folder.below [file])
    (hUp : file.isUp = false)
    (hSame : workspace.tree.SameDirectories other)
    (hAgree : ∀ location,
      workspace.tree.Reaches folder file location →
        other.get? location = workspace.tree.get? location)
    (h : registry.applyFix workspace finding =
      .ok (after, result)) :
    ∃ edits,
      workspace.tree.Allows folder file edits ∧
      after = workspace.withTree (workspace.tree.edit edits) ∧
      registry.applyFix (workspace.withTree other) finding =
        .ok (workspace.withTree (other.edit edits), result) := by
  unfold applyFix at h ⊢
  rcases map_eq_ok_iff.mp h with ⟨⟨last, outcome⟩, hFixed, hPair⟩
  cases hPair
  split at hFixed
  · next hAuto =>
      rcases fixFile_local hPath hUp hSame hAgree hFixed with
        ⟨edits, hAllows, hAfter, hOther⟩
      refine ⟨edits, hAllows, hAfter, ?_⟩
      rw [if_pos hAuto, hOther]
      rfl
  · next hAuto =>
      cases hFixed
      refine ⟨[], .nil, rfl, ?_⟩
      rw [if_neg hAuto]
      rfl

end

end Registry

end GradleMigration

------------------------------------------------------------
-- Fixes of Different Files
------------------------------------------------------------

namespace GradleMigration

/- Two workspaces that differ in the order of entries only. -/
structure Workspace.Like
    (a b : Workspace) : Prop where
  rest : b = a.withTree b.tree
  tree : a.tree.Same b.tree

namespace Workspace.Like

theorem refl
    (workspace : Workspace) :
    workspace.Like workspace where
  rest := rfl
  tree := .refl _

theorem trans
    {a b c : Workspace}
    (hFirst : a.Like b)
    (hSecond : b.Like c) :
    a.Like c where
  rest := by
    rw [hSecond.rest, hFirst.rest]
    rfl
  tree := hFirst.tree.trans hSecond.tree

end Workspace.Like

/- The file of a finding is in a folder under its own name. -/
structure Finding.Lies
    (finding : Finding)
    (folder : Path)
    (file : Name) : Prop where
  path : finding.file = folder.below [file]
  notUp : file.isUp = false

/- No place belongs to the files of both findings. -/
structure FileTree.Apart
    (tree : FileTree)
    (a b : Finding) : Prop where
  left : ∃ folder file, a.Lies folder file
  right : ∃ folder file, b.Lies folder file
  apart : ∀ folderA fileA folderB fileB location,
    a.Lies folderA fileA → b.Lies folderB fileB →
      tree.Reaches folderA fileA location →
        ¬ tree.Reaches folderB fileB location

namespace Registry

section

variable {registry : Registry}
variable {workspace other after between : Workspace}
variable {finding : Finding} {findings : List Finding}
variable {result : FixResult}

/- Fixes keep the directories. -/
theorem sameDirectories_of_applyFix
    {folder : Path}
    {file : Name}
    (hLies : finding.Lies folder file)
    (h : registry.applyFix workspace finding =
      .ok (after, result)) :
    workspace.tree.SameDirectories after.tree := by
  have hSame := (FileTree.Same.refl workspace.tree).sameDirectories
  rcases applyFix_local hLies.path hLies.notUp hSame
      (fun _ _ => rfl) h with
    ⟨edits, hAllows, hAfter, _⟩
  rw [hAfter]
  exact hAllows.sameDirectories

/- In workspaces that look the same a fix does the same. -/
theorem applyFix_like
    {folder : Path}
    {file : Name}
    (hLies : finding.Lies folder file)
    (hLike : workspace.Like other)
    (h : registry.applyFix workspace finding =
      .ok (after, result)) :
    ∃ last, registry.applyFix other finding =
        .ok (last, result) ∧ after.Like last := by
  rcases applyFix_local hLies.path hLies.notUp
      hLike.tree.sameDirectories
      (fun location _ => hLike.tree.view location) h with
    ⟨edits, hAllows, hAfter, hOther⟩
  rw [← hLike.rest] at hOther
  refine ⟨_, hOther, ?_⟩
  rw [hAfter]
  constructor
  · rfl
  · constructor
    · simp only [Workspace.tree_withTree,
        FileTree.directory_edit]
      exact hLike.tree.start
    · intro location
      exact FileTree.get?_edit_congr
        (hLike.tree.view location) hAllows.ne_root

/- Fixes of files that lie apart can change places. -/
theorem applyFix_swap
    {earlier later : Finding}
    {first second : FixResult}
    (hApart : workspace.tree.Apart earlier later)
    (hEarlier : registry.applyFix workspace earlier =
      .ok (between, first))
    (hLater : registry.applyFix between later =
      .ok (after, second)) :
    ∃ swapped last,
      registry.applyFix workspace later =
          .ok (swapped, second) ∧
        registry.applyFix swapped earlier =
          .ok (last, first) ∧
        after.Like last := by
  rcases hApart.left with ⟨folderA, fileA, hLiesA⟩
  rcases hApart.right with ⟨folderB, fileB, hLiesB⟩
  have hRefl := (FileTree.Same.refl workspace.tree).sameDirectories
  -- What the earlier fix writes the later one does not see.
  rcases applyFix_local hLiesA.path hLiesA.notUp hRefl
      (fun _ _ => rfl) hEarlier with
    ⟨editsA, hAllowsA, hBetween, _⟩
  subst hBetween
  have hSameA := hAllowsA.sameDirectories
  have hUnseenA : ∀ location,
      (workspace.tree.edit editsA).Reaches folderB fileB
          location →
        workspace.tree.get? location =
          (workspace.tree.edit editsA).get? location := by
    intro location hReach
    apply Eq.symm
    apply FileTree.get?_edit_of_not_mem _ hAllowsA.ne_root
    intro hMem
    rcases List.mem_map.mp hMem with ⟨edit, hEdit, hEq⟩
    apply hApart.apart folderA fileA folderB fileB location
      hLiesA hLiesB
    · rw [← hEq]
      exact (hAllowsA edit hEdit).1
    · exact hReach.of_sameDirectories hSameA.symm
  rcases applyFix_local hLiesB.path hLiesB.notUp hSameA.symm
      hUnseenA hLater with
    ⟨editsB, hAllows, hAfter, hFirst⟩
  subst hAfter
  have hAllowsB := hAllows.of_sameDirectories hSameA.symm
  have hSameB := hAllowsB.sameDirectories
  -- Nor does the earlier fix see what the later one writes.
  have hUnseenB : ∀ location,
      workspace.tree.Reaches folderA fileA location →
        (workspace.tree.edit editsB).get? location =
          workspace.tree.get? location := by
    intro location hReach
    apply FileTree.get?_edit_of_not_mem _ hAllowsB.ne_root
    intro hMem
    rcases List.mem_map.mp hMem with ⟨edit, hEdit, hEq⟩
    apply hApart.apart folderA fileA folderB fileB location
      hLiesA hLiesB hReach
    rw [← hEq]
    exact (hAllowsB edit hEdit).1
  rcases applyFix_local hLiesA.path hLiesA.notUp hSameB
      hUnseenB hEarlier with
    ⟨edits, hAllowsA', hEdits, hSecond⟩
  refine ⟨_, _, hFirst, hSecond, rfl, ?_⟩
  have hTree := congrArg Workspace.tree hEdits
  simp only [Workspace.tree_withTree] at hTree ⊢
  rw [hTree]
  apply FileTree.edit_comm _ hAllowsA'.ne_root hAllowsB.ne_root
  intro location hA hB
  rcases List.mem_map.mp hA with ⟨editA, hEditA, hEqA⟩
  rcases List.mem_map.mp hB with ⟨editB, hEditB, hEqB⟩
  apply hApart.apart folderA fileA folderB fileB location
    hLiesA hLiesB
  · rw [← hEqA]
    exact (hAllowsA' editA hEditA).1
  · rw [← hEqB]
    exact (hAllowsB editB hEditB).1

end

end Registry

end GradleMigration
