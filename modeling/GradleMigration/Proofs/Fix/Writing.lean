import GradleMigration.Fix.Basic
import GradleMigration.Proofs.Backup.Snapshot
import GradleMigration.Proofs.File.Change
import GradleMigration.Proofs.Text.Utf8

/-
  What backing up and rewriting a script leaves behind,
  whatever fault one of the two ends with.

  Main declarations:
    * `Workspace.writeScript_eq`
    * `Workspace.BackingUp`
    * `Workspace.backingUp`
    * `Workspace.Replacing`
    * `Workspace.replacing`
-/

------------------------------------------------------------
-- Backups that Have Been Made
------------------------------------------------------------

namespace GradleMigration

namespace FileTree

/- A backup is made of a file with a name only. -/
theorem parts_ne_nil_of_snapshot
    {tree backed : FileTree}
    {path backup : Path}
    {time : Int}
    (h : tree.snapshot path time = .ok (backed, backup)) :
    path.parts ≠ [] := by
  intro hParts
  unfold snapshot snapshotFrom Path.withName at h
  rw [if_pos hParts] at h
  cases h

/- A backup that has been made is a new copy of the file. -/
theorem of_snapshot_eq_ok
    {tree backed : FileTree}
    {path backup : Path}
    {time : Int}
    (h : tree.snapshot path time = .ok (backed, backup)) :
    ∃ copy bytes,
      tree.Snapshot path backed backup copy bytes := by
  rcases tree.snapshot_cases (parts_ne_nil_of_snapshot h) time
    with ⟨_, _, copy, bytes, hMade, hSaved⟩ | ⟨fault, hFault⟩
  · rw [hMade] at h
    cases h
    exact ⟨copy, bytes, hSaved⟩
  · rw [hFault] at h
    cases h

namespace Snapshot

variable {tree backed : FileTree} {path backup : Path}
variable {copy location : Location} {saved bytes : List UInt8}

/- The copy that a backup is holds the bytes of the file. -/
theorem bytes_eq
    (h : tree.Snapshot path backed backup copy saved)
    (hPlace : tree.locate path = .ok location)
    (hEntry : tree.get? location = some (.file bytes)) :
    saved = bytes := by
  have hRead := read_eq_ok_iff.mpr ⟨location, hPlace, hEntry⟩
  rw [h.source] at hRead
  cases hRead
  rfl

/- Making a backup adds one file. -/
theorem changes
    (h : tree.Snapshot path backed backup copy bytes) :
    tree.Changes backed [] [copy] := by
  rw [h.tree_eq]
  exact changes_make h.fresh bytes

/- The new file is a copy. -/
theorem get?_copy
    (h : tree.Snapshot path backed backup copy bytes) :
    backed.get? copy = some (.file bytes) := by
  rw [h.tree_eq]
  exact get?_set_self (not_directory_of_none h.fresh) _

/- The copy is not where the file is. -/
theorem ne_copy
    (h : tree.Snapshot path backed backup copy saved)
    (hEntry : tree.get? location = some (.file bytes)) :
    location ≠ copy := by
  intro hEq
  have hFresh := h.fresh
  rw [← hEq, hEntry] at hFresh
  cases hFresh

section

variable (h : tree.Snapshot path backed backup copy saved)
variable (hEntry : tree.get? location = some (.file bytes))
include h hEntry

/- The file stays what it is when its copy is made. -/
theorem get?_source :
    backed.get? location = some (.file bytes) := by
  have hApart := h.ne_copy hEntry
  exact (h.changes.kept location List.not_mem_nil
    (by simpa using hApart)).trans hEntry

/- A backup and what comes of the file that is then written. -/
theorem changes_setUnder
    (new : List UInt8)
    (fault : Option WriteFault) :
    tree.Changes (backed.setUnder location new fault)
      [location] [copy] :=
  h.changes.trans
    (FileTree.changes_setUnder (h.get?_source hEntry) new fault)

/- Writing the file does not reach its backup. -/
theorem get?_copy_setUnder
    (new : List UInt8)
    (fault : Option WriteFault) :
    (backed.setUnder location new fault).get? copy =
      some (.file saved) := by
  have hApart : copy ∉ [location] := by
    simpa using Ne.symm (h.ne_copy hEntry)
  rw [(FileTree.changes_setUnder (h.get?_source hEntry) new
    fault).kept copy hApart List.not_mem_nil]
  exact h.get?_copy

end

end Snapshot

end FileTree

end GradleMigration

------------------------------------------------------------
-- Writing under Faults
------------------------------------------------------------

namespace GradleMigration

namespace Workspace

/- Writing a script that is there, whatever the fault. -/
theorem writeScript_eq
    (workspace : Workspace)
    {tree : FileTree}
    {file : Path}
    {location : Location}
    {bytes : List UInt8}
    (hPlace : tree.locate file = .ok location)
    (hEntry : tree.get? location = some (.file bytes))
    (text : List Char) :
    (workspace.withTree tree).writeScript file text =
      (workspace.withTree (tree.setUnder location
          (Utf8.encode text) workspace.writeFault),
        workspace.writeFault.map fun fault =>
          .denied fault.message) := by
  have hRoom := FileTree.not_directory_of_file hEntry
  unfold writeScript
  rw [tree_withTree, FileTree.write_eq_ok_iff.mpr
    ⟨location, hPlace, hRoom, rfl⟩, writeFault_withTree]
  cases workspace.writeFault with
  | none => rfl
  | some fault =>
      simp only [FileTree.leftBy_set hPlace hRoom,
        Option.map_some, withTree_withTree]

end Workspace

end GradleMigration

------------------------------------------------------------
-- Backing Up
------------------------------------------------------------

namespace GradleMigration

namespace Workspace

/-
  How the making of a backup can end: the tree allows none, the
  copying ends with a fault, or it is made.
-/
inductive BackingUp
    (before : Workspace)
    (file : Path) : Workspace → Except BackupFault Path → Prop
| refused
    {fault : BackupFault}
    (hFault :
      before.tree.snapshot file before.time = .error fault) :
    BackingUp before file before (.error fault)
| failed
    {backed : FileTree}
    {backup : Path}
    {copy : Location}
    {bytes : List UInt8}
    {fault : WriteFault}
    (hMade : before.tree.snapshot file before.time =
      .ok (backed, backup))
    (hSaved :
      before.tree.Snapshot file backed backup copy bytes)
    (hFault : before.copyFault = some fault) :
    BackingUp before file
      (before.withTree
        (before.tree.setUnder copy bytes (some fault)))
      (.error (.file (.denied fault.message)))
| made
    {backed : FileTree}
    {backup : Path}
    {copy : Location}
    {bytes : List UInt8}
    (hMade : before.tree.snapshot file before.time =
      .ok (backed, backup))
    (hSaved :
      before.tree.Snapshot file backed backup copy bytes)
    (hFault : before.copyFault = none) :
    BackingUp before file (before.withTree backed)
      (.ok backup)

/- Every backup is made in one of these ways. -/
theorem backingUp
    (before : Workspace)
    (file : Path) :
    before.BackingUp file (before.backUp file).1
      (before.backUp file).2 := by
  unfold backUp
  cases hMade : before.tree.snapshot file before.time with
  | error fault => exact .refused hMade
  | ok made =>
      rcases made with ⟨backed, backup⟩
      rcases FileTree.of_snapshot_eq_ok hMade with
        ⟨copy, bytes, hSaved⟩
      simp only
      cases hFault : before.copyFault with
      | none => exact .made hMade hSaved hFault
      | some fault =>
          have hLeft := FileTree.leftBy_set hSaved.place
            (FileTree.not_directory_of_none hSaved.fresh)
            bytes fault
          simp only [hSaved.tree_eq, hLeft]
          exact .failed hMade hSaved hFault

end Workspace

end GradleMigration

------------------------------------------------------------
-- Replacing a Script
------------------------------------------------------------

namespace GradleMigration

namespace Workspace

/-
  How the replacing of a script, whose bytes are at a place,
  can end: it is not backed up, or what then comes of writing
  it depends on the fault, if there is one.
-/
inductive Replacing
    (before : Workspace)
    (finding : Finding)
    (location : Location)
    (bytes : List UInt8)
    (text : List Char) : Workspace → FixOutcome → Prop
| noBackup
    {after : Workspace}
    {fault : BackupFault}
    (hCopy :
      before.BackingUp finding.file after (.error fault)) :
    Replacing before finding location bytes text after
      (.failed (.noBackup fault))
| notWritten
    {backed : FileTree}
    {backup : Path}
    {copy : Location}
    {fault : WriteFault}
    (hMade : before.tree.snapshot finding.file before.time =
      .ok (backed, backup))
    (hSaved : before.tree.Snapshot finding.file backed backup
      copy bytes)
    (hCopy : before.copyFault = none)
    (hWrite : before.writeFault = some fault) :
    Replacing before finding location bytes text
      (before.withTree (backed.setUnder location
        (Utf8.encode text) (some fault)))
      (.failed (.notWritten backup (.denied fault.message)))
| written
    {backed : FileTree}
    {backup : Path}
    {copy : Location}
    (hMade : before.tree.snapshot finding.file before.time =
      .ok (backed, backup))
    (hSaved : before.tree.Snapshot finding.file backed backup
      copy bytes)
    (hCopy : before.copyFault = none)
    (hWrite : before.writeFault = none) :
    Replacing before finding location bytes text
      (before.withTree (backed.set location
        (.file (Utf8.encode text))))
      (.fixed backup finding.matched finding.suggestedFix)

/- Every script that is there is replaced in one of them. -/
theorem replacing
    {before : Workspace}
    {finding : Finding}
    {location : Location}
    {bytes : List UInt8}
    (hPlace : before.tree.locate finding.file = .ok location)
    (hEntry : before.tree.get? location = some (.file bytes))
    (text : List Char) :
    before.Replacing finding location bytes text
      (before.replaceScript finding text).1
      (before.replaceScript finding text).2 := by
  have hBacking := before.backingUp finding.file
  unfold replaceScript
  split
  · next after fault hCopy =>
      rw [hCopy] at hBacking
      exact .noBackup hBacking
  · next after backup hCopy =>
      rw [hCopy] at hBacking
      dsimp only at hBacking
      cases hBacking with
      | made hMade hSaved hNone =>
          have hBytes := hSaved.bytes_eq hPlace hEntry
          subst hBytes
          have hSame := hSaved.changes.sameDirectories
          rw [before.writeScript_eq
            (FileTree.locate_of_sameDirectories hSame hPlace)
            (hSaved.get?_source hEntry)]
          cases hWrite : before.writeFault with
          | none => exact .written hMade hSaved hNone hWrite
          | some fault =>
              exact .notWritten hMade hSaved hNone hWrite

end Workspace

end GradleMigration
