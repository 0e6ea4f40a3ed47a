import GradleMigration.Proofs.Backup.Found
import GradleMigration.Proofs.Backup.Restore
import GradleMigration.Proofs.Fix.Step

/-
  Restoring the newest backup takes back the last fix: however
  often the clock repeats itself, backups get larger and larger
  stamps, and each restoring gives the tree as it was before
  the fix that made the backup.

  Main declarations:
    * `Registry.applyCalls`
    * `FileTree.restoreTimes`
    * `FileTree.FixedAt` and `FileTree.FixedAt.restore_eq`
    * `FileTree.Stacked`
    * `FileTree.Stacked.backups_eq`
    * `FileTree.Stacked.fix`
    * `Registry.stacked_of_applyCalls`
    * `Registry.restores_undo_fixes`
-/

------------------------------------------------------------
-- Fixing and Restoring Again and Again
------------------------------------------------------------

namespace GradleMigration

/- A finding that is fixed at a time. -/
structure FixCall where
  time : Int
  finding : Finding

namespace Registry

/- Fix findings one after another, each at its own time. -/
def applyCalls
    (registry : Registry)
    (workspace : Workspace) :
    List FixCall → Workspace × Except FixStop (List FixResult)
| [] => (workspace, .ok [])
| call :: calls =>
    match registry.applyFix
        { workspace with time := call.time } call.finding with
    | .error stop => (workspace, .error stop)
    | .ok (after, result) =>
        let (last, rest) := applyCalls registry after calls
        (last, rest.map (result :: ·))

end Registry

namespace FileTree

/-
  Put the newest backup of a file back over it, where copying
  does not fail.
-/
def restoreNewest
    (tree : FileTree)
    (file : Path) : Except BackupFault (FileTree × Bool) :=
  match tree.backups file with
  | .error fault => .error fault
  | .ok [] => .ok (tree, false)
  | .ok (newest :: _) =>
      tree.restore newest (some file) none

/-
  Put the newest backup back again and again.  The answer says
  whether it was done each time.
-/
def restoreTimes
    (tree : FileTree)
    (file : Path) : Nat → Except BackupFault (FileTree × Bool)
| 0 => .ok (tree, true)
| count + 1 =>
    match restoreTimes tree file count with
    | .ok (tree, true) => tree.restoreNewest file
    | other => other

end FileTree

end GradleMigration

------------------------------------------------------------
-- Entries that Come and Go
------------------------------------------------------------

namespace GradleMigration

namespace Entries

/- An entry for a new location comes last. -/
theorem set_of_not_mem
    {location : Location}
    {entries : Entries}
    (h : location ∉ entries.locations)
    (entry : Entry) :
    entries.set location entry = entries ++ [(location, entry)] := by
  induction entries with
  | nil => rfl
  | cons pair rest ih =>
      rcases pair with ⟨other, old⟩
      have hParts : location ≠ other ∧
          location ∉ Entries.locations rest := by
        simpa [locations] using h
      rw [set, if_neg (Ne.symm hParts.1), ih hParts.2]
      rfl

/- The entry for a known location stays in its position. -/
theorem set_concat
    {location : Location}
    {entries : Entries}
    (h : location ∈ entries.locations)
    (entry : Entry)
    (last : Location × Entry) :
    Entries.set location entry (entries ++ [last]) =
      entries.set location entry ++ [last] := by
  induction entries with
  | nil => cases h
  | cons pair rest ih =>
      rcases pair with ⟨other, old⟩
      rw [List.cons_append, set, set]
      by_cases hOther : other = location
      · rw [if_pos hOther, if_pos hOther]
        rfl
      · have hRest : location ∈ Entries.locations rest := by
          rcases List.mem_cons.mp h with hHere | hRest
          · exact absurd hHere.symm hOther
          · exact hRest
        rw [if_neg hOther, if_neg hOther, ih hRest]
        rfl

/- What was added last can be taken away again. -/
theorem erase_concat
    {location : Location}
    {entries : Entries}
    (h : location ∉ entries.locations)
    (entry : Entry) :
    Entries.erase location (entries ++ [(location, entry)]) =
      entries := by
  have hKept : ∀ pair ∈ entries, (pair.1 != location) = true := by
    intro pair hPair
    rw [bne_iff_ne]
    intro hEq
    exact h (List.mem_map.mpr ⟨pair, hPair, hEq⟩)
  unfold erase
  rw [List.filter_append, List.filter_eq_self.mpr hKept]
  simp

/- The locations of entries stay when one of them is set. -/
theorem locations_set_of_mem
    {location : Location}
    {entries : Entries}
    (h : location ∈ entries.locations)
    (entry : Entry) :
    (entries.set location entry).locations =
      entries.locations := by
  induction entries with
  | nil => cases h
  | cons pair rest ih =>
      rcases pair with ⟨other, old⟩
      rw [set]
      by_cases hOther : other = location
      · rw [if_pos hOther]
        rfl
      · have hRest : location ∈ Entries.locations rest := by
          rcases List.mem_cons.mp h with hHere | hRest
          · exact absurd hHere.symm hOther
          · exact hRest
        rw [if_neg hOther]
        exact congrArg (other :: ·) (ih hRest)

end Entries

namespace FileTree

/- Where nothing is, no entry has the location. -/
theorem not_mem_of_get?
    {tree : FileTree}
    {location : Location}
    (h : tree.get? location = none) :
    location ∉ tree.entries.locations := by
  intro hMem
  rcases List.mem_map.mp hMem with ⟨⟨key, entry⟩, hIn, hKey⟩
  have hEq : key = location := hKey
  rw [hEq] at hIn
  unfold get? at h
  split at h
  · cases h
  · rw [(Entries.lookup_eq_some_iff tree.distinct).mpr hIn] at h
    cases h

/- A copy and a change of the original can be taken back. -/
theorem undo_entries
    {tree : FileTree}
    {location copy : Location}
    {bytes : List UInt8}
    (hFile : tree.get? location = some (.file bytes))
    (hCopy : tree.get? copy = none)
    (other : Entry) :
    (((tree.set copy (.file bytes)).set location other).set
      location (.file bytes)).erase copy = tree := by
  have hFresh := not_mem_of_get? hCopy
  have hMem := mem_locations_of_get? hFile
  have hLookup :
      tree.entries.lookup location = some (.file bytes) := by
    unfold get? at hFile
    split at hFile
    · cases hFile
    · exact hFile
  apply eq_of_entries
  · rfl
  · change Entries.erase copy (Entries.set location (.file bytes)
      (Entries.set location other
        (Entries.set copy (.file bytes) tree.entries))) = _
    rw [Entries.set_set, Entries.set_of_not_mem hFresh,
      Entries.set_concat hMem, Entries.set_of_lookup hLookup,
      Entries.erase_concat hFresh]

end FileTree

end GradleMigration

------------------------------------------------------------
-- What a Fix Has Done
------------------------------------------------------------

namespace GradleMigration

namespace FileTree

/-
  A file in the folder at a place has been fixed at a time: its
  bytes are in the backup with the first free stamp.
-/
structure FixedAt
    (before after : FileTree)
    (folder : Path)
    (place : Location)
    (file : Name)
    (time : Int)
    (stamp : Int)
    (bytes : List UInt8)
    (text : List Char) : Prop where
  source :
    before.get? (place ++ [file]) = some (.file bytes)
  late : time ≤ stamp
  taken : ∀ other, time ≤ other → other < stamp →
    before.get? (place ++ [Backup.nameAt file other]) ≠ none
  free :
    before.get? (place ++ [Backup.nameAt file stamp]) = none
  fits :
    siblingPlace folder place (Backup.nameAt file stamp) =
      .ok (place ++ [Backup.nameAt file stamp])
  tree_eq :
    after =
      (before.set (place ++ [Backup.nameAt file stamp])
        (.file bytes)).set (place ++ [file])
          (.file (Utf8.encode text))

/- What is above a place that is reached is a directory. -/
theorem directory_above_walk
    {tree : FileTree}
    {parts : List Name}
    {location last : Location}
    (hAbove : ∀ front, front <+: location → front ≠ location →
      tree.get? front = some .directory)
    (h : tree.walk location parts = .ok last) :
    ∀ front, front <+: last → front ≠ last →
      tree.get? front = some .directory := by
  induction parts generalizing location with
  | nil =>
      cases h
      exact hAbove
  | cons part rest ih =>
      unfold walk at h
      split at h
      · cases h
      · next next hStep =>
          apply ih _ h
          intro front hFront hNe
          rcases step_eq_ok_iff.mp hStep with
            ⟨hHere, _, hNext⟩
          split at hNext
          · subst hNext
            apply hAbove
            · exact hFront.trans (List.dropLast_prefix _)
            · intro hEq
              rw [hEq] at hFront
              have hLength := hFront.length_le
              rw [List.length_dropLast] at hLength
              have hNil : location = [] :=
                List.length_eq_zero_iff.mp (by omega)
              rw [hNil] at hEq hNe
              exact hNe hEq
          · subst hNext
            rcases List.prefix_concat_iff.mp hFront with
              hAll | hShort
            · exact absurd hAll hNe
            · by_cases hEq : front = location
              · rw [hEq]
                exact hHere
              · exact hAbove front hShort hEq

/- A path that leads to a file does not end by going up. -/
theorem not_isUp_of_read
    {tree : FileTree}
    {folder : Path}
    {place : Location}
    {file : Name}
    {bytes : List UInt8}
    (hFolder : tree.InFolder folder place)
    (h : tree.read (folder.below [file]) = .ok bytes) :
    file.isUp = false := by
  rw [Bool.eq_false_iff]
  intro hUp
  rcases read_eq_ok_iff.mp h with ⟨location, hLocate, hFile⟩
  have hAbove := directory_above_walk
    (fun front hFront hNe =>
      absurd (List.prefix_nil.mp hFront) hNe) hFolder.walk_eq
  have hWalk := (locate_eq_ok_iff.mp hLocate).2.2
  rw [parts_join_below, walk_append, hFolder.walk_eq] at hWalk
  simp only [walk, step, hFolder.directory, hUp,
    if_true] at hWalk
  cases hWalk
  by_cases hRoot : place = []
  · rw [hRoot] at hFile
    cases hFile
  · have hShort : place.dropLast ≠ place := by
      intro hEq
      have hLength := congrArg List.length hEq
      rw [List.length_dropLast] at hLength
      have hPos := List.length_pos_iff.mpr hRoot
      omega
    rw [hAbove _ (List.dropLast_prefix place) hShort] at hFile
    cases hFile

end FileTree

namespace Registry

/- A fix that was made has backed up and written the file. -/
theorem of_applyFix_success
    {registry : Registry}
    {before after : Workspace}
    {finding : Finding}
    {result : FixResult}
    (h : registry.applyFix before finding = .ok (after, result))
    (hDone : result.success = true) :
    ∃ backed backup bytes text,
      before.tree.read finding.file = .ok bytes ∧
      before.tree.snapshot finding.file before.time =
        .ok (backed, backup) ∧
      backed.write finding.file (Utf8.encode text) =
        .ok after.tree ∧
      result.backup? = some backup := by
  rcases result with ⟨id, file, outcome⟩
  cases (exit_of_applyFix h).2.2 with
  | replaced hChange hReplaced =>
      cases hReplaced with
      | written hMade hSaved _ _ =>
          have hRead := FileTree.read_eq_ok_iff.mpr
            ⟨_, hChange.holds.place, hChange.holds.entry⟩
          have hBacked := hSaved.changes.holds hChange.holds
            List.not_mem_nil
          have hRoom := hBacked.not_directory
          exact ⟨_, _, _, _, hRead, hMade,
            FileTree.write_eq_ok_iff.mpr
              ⟨_, hBacked.place, hRoom, rfl⟩, rfl⟩
      | _ => cases hDone
  | _ => cases hDone

end Registry

end GradleMigration

namespace GradleMigration

namespace FileTree

section

variable {tree after : FileTree} {folder : Path}
variable {place : Location} {file : Name}

/- A file that can be read is the one in its folder. -/
theorem source_of_read
    (hFolder : tree.InFolder folder place)
    {bytes : List UInt8}
    (h : tree.read (folder.below [file]) = .ok bytes) :
    siblingPlace folder place file = .ok (place ++ [file]) ∧
      tree.get? (place ++ [file]) = some (.file bytes) := by
  have hUp := not_isUp_of_read hFolder h
  rcases read_eq_ok_iff.mp h with ⟨location, hLocate, hFile⟩
  rw [hFolder.locate_sibling hUp] at hLocate
  have hLocation := of_siblingPlace hLocate
  rw [hLocation] at hLocate hFile
  exact ⟨hLocate, hFile⟩

/- What the first free stamp is when a backup is made. -/
theorem stamp_of_snapshot
    (hFolder : tree.InFolder folder place)
    {bytes : List UInt8}
    (hRead : tree.read (folder.below [file]) = .ok bytes)
    {time : Int}
    {backed : FileTree}
    {backup : Path}
    (h : tree.snapshot (folder.below [file]) time =
      .ok (backed, backup)) :
    ∃ stamp : Int,
      time ≤ stamp ∧
      (∀ other, time ≤ other → other < stamp →
        tree.get? (place ++ [Backup.nameAt file other]) ≠
          none) ∧
      tree.get? (place ++ [Backup.nameAt file stamp]) = none ∧
      siblingPlace folder place (Backup.nameAt file stamp) =
        .ok (place ++ [Backup.nameAt file stamp]) ∧
      backup = folder.below [Backup.nameAt file stamp] ∧
      backed = tree.set (place ++ [Backup.nameAt file stamp])
        (.file bytes) := by
  rcases snapshot_eq_tryStamp hFolder hRead time with
    ⟨count, hTaken, hFree⟩
  rw [h] at hFree
  unfold tryStamp at hFree
  simp only at hFree
  split at hFree
  · cases hFree
  · next location hPlace =>
      have hLocation := of_siblingPlace hPlace
      subst hLocation
      split at hFree
      · next hNone =>
          cases hFree
          refine ⟨time + count, by omega, ?_, hNone, hPlace,
            rfl, rfl⟩
          intro other hLate hEarly
          have hTry := hTaken (other - time).toNat (by omega)
          have hOther :
              time + ((other - time).toNat : Int) = other := by
            omega
          rw [hOther] at hTry
          exact (mem_locations_of_tryStamp hTry).1
      · cases hFree

/- A fix that was made has done this to the tree. -/
theorem fixedAt_of_success
    (hFolder : tree.InFolder folder place)
    {time : Int}
    {backed : FileTree}
    {backup : Path}
    {bytes : List UInt8}
    {text : List Char}
    (hRead : tree.read (folder.below [file]) = .ok bytes)
    (hSnapshot : tree.snapshot (folder.below [file]) time =
      .ok (backed, backup))
    (hWrite : backed.write (folder.below [file])
      (Utf8.encode text) = .ok after) :
    ∃ stamp,
      tree.FixedAt after folder place file time stamp bytes
        text ∧
      backup = folder.below [Backup.nameAt file stamp] := by
  rcases stamp_of_snapshot hFolder hRead hSnapshot with
    ⟨stamp, hLate, hTaken, hFree, hFits, hBackup, hBacked⟩
  rcases source_of_read hFolder hRead with ⟨hPlace, hSource⟩
  have hSame : tree.SameDirectories backed := by
    rw [hBacked]
    exact (changes_make hFree bytes).sameDirectories
  have hLocate : backed.locate (folder.below [file]) =
      .ok (place ++ [file]) := by
    apply locate_of_sameDirectories hSame
    rw [hFolder.locate_sibling (not_isUp_of_read hFolder hRead)]
    exact hPlace
  refine ⟨stamp, ⟨hSource, hLate, hTaken, hFree, hFits, ?_⟩,
    hBackup⟩
  unfold write at hWrite
  rw [hLocate] at hWrite
  simp only at hWrite
  split at hWrite
  · cases hWrite
  · cases hWrite
    rw [hBacked]

end

end FileTree

end GradleMigration

------------------------------------------------------------
-- Taking One Fix Back
------------------------------------------------------------

namespace GradleMigration

namespace FileTree

/- A file of its own in a folder, within the limits. -/
structure FileIn
    (tree : FileTree)
    (folder : Path)
    (place : Location)
    (file : Name) : Prop where
  inFolder : tree.InFolder folder place
  notUp : file.isUp = false
  fits : siblingPlace folder place file = .ok (place ++ [file])

theorem FileIn.locate_eq
    {tree : FileTree}
    {folder : Path}
    {place : Location}
    {file : Name}
    (h : tree.FileIn folder place file) :
    tree.locate (folder.below [file]) = .ok (place ++ [file]) := by
  rw [h.inFolder.locate_sibling h.notUp]
  exact h.fits

namespace FixedAt

section

variable {before after : FileTree} {folder : Path}
variable {place : Location} {file : Name} {time stamp : Int}
variable {bytes : List UInt8} {text : List Char}

/- A fix rewrites the file and makes its backup. -/
theorem changes
    (h : before.FixedAt after folder place file time stamp
      bytes text) :
    before.Changes after [place ++ [file]]
      [place ++ [Backup.nameAt file stamp]] := by
  have hMake := changes_make h.free bytes
  have hFile :
      (before.set (place ++ [Backup.nameAt file stamp])
        (.file bytes)).get? (place ++ [file]) ≠
          some .directory := by
    intro hDirectory
    have hOld := (hMake.sameDirectories.directories _).mp
      hDirectory
    rw [h.source] at hOld
    cases hOld
  rw [h.tree_eq]
  exact hMake.trans (changes_rewrite hFile _)

/- The file is not its own backup. -/
theorem ne_copy
    (h : before.FixedAt after folder place file time stamp
      bytes text) :
    place ++ [file] ≠ place ++ [Backup.nameAt file stamp] := by
  intro hEq
  have hFree := h.free
  rw [← hEq, h.source] at hFree
  cases hFree

/- The backup holds the bytes of the file. -/
theorem get?_copy
    (h : before.FixedAt after folder place file time stamp
      bytes text) :
    after.get? (place ++ [Backup.nameAt file stamp]) =
      some (.file bytes) := by
  have hRoot : ∀ name : Name, place ++ [name] ≠ [] := by
    intro name
    simp
  rw [h.tree_eq, get?_set _ _ _ _ (hRoot file),
    if_neg (Ne.symm h.ne_copy), get?_set _ _ _ _ (hRoot _),
    if_pos rfl]

/- The file holds its new text. -/
theorem get?_file
    (h : before.FixedAt after folder place file time stamp
      bytes text) :
    after.get? (place ++ [file]) =
      some (.file (Utf8.encode text)) := by
  rw [h.tree_eq, get?_set _ _ _ _ (by simp), if_pos rfl]

/- After a fix the file is in its folder still. -/
theorem fileIn
    (h : before.FixedAt after folder place file time stamp
      bytes text)
    (hFile : before.FileIn folder place file) :
    after.FileIn folder place file where
  inFolder :=
    hFile.inFolder.of_sameDirectories h.changes.sameDirectories
  notUp := hFile.notUp
  fits := hFile.fits

/- Restoring its backup takes a fix back. -/
theorem restore_eq
    (h : before.FixedAt after folder place file time stamp
      bytes text)
    (hFile : before.FileIn folder place file) :
    after.restore (folder.below [Backup.nameAt file stamp])
        (some (folder.below [file])) none =
      .ok (before, true) := by
  have hAfter := h.fileIn hFile
  have hTarget : after.copyTarget
      (folder.below [Backup.nameAt file stamp])
        (folder.below [file]) = folder.below [file] := by
    unfold copyTarget find
    simp [hAfter.locate_eq, h.get?_file]
  have hMovable : after.Movable
      (folder.below [Backup.nameAt file stamp])
      (folder.below [file])
      (place ++ [Backup.nameAt file stamp]) (place ++ [file])
      bytes := by
    refine
      { source_eq := ?_
        held := h.get?_copy
        target_eq := ?_
        room := ?_
        apart := h.ne_copy }
    · rw [hAfter.inFolder.locate_sibling
        (Backup.nameAt_isUp file stamp)]
      exact h.fits
    · rw [hTarget]
      exact hAfter.locate_eq
    · simp [h.get?_file]
  have hUndone :
      (after.set (place ++ [file]) (.file bytes)).erase
        (place ++ [Backup.nameAt file stamp]) = before := by
    rw [h.tree_eq]
    exact undo_entries h.source h.free _
  rw [restore_of_isOriginal (.given _), hMovable.isFile_eq]
  simp only [hMovable.hasNull_eq, Bool.false_eq_true,
    if_false, hMovable.moveOver_eq, hUndone]

end

end FixedAt

end FileTree

end GradleMigration

------------------------------------------------------------
-- A Stack of Backups
------------------------------------------------------------

namespace GradleMigration

namespace FileTree

/-
  The backups of a file since a tree without any: their stamps
  grow, none is left out between the time of the last one and
  its stamp, and nothing but the file and its backups differs.
-/
structure Stacked
    (start tree : FileTree)
    (folder : Path)
    (place : Location)
    (file : Name)
    (time : Int)
    (stamps : List Nat) : Prop where
  fileIn : tree.FileIn folder place file
  names :
    tree.namesIn place =
      start.namesIn place ++
        stamps.map fun (stamp : Nat) => Backup.nameAt file stamp
  growing : stamps.Pairwise (· < ·)
  dense : ∀ last ∈ stamps, ∀ stamp : Nat,
    time ≤ stamp → stamp ≤ last → stamp ∈ stamps
  fits : ∀ stamp ∈ stamps,
    siblingPlace folder place
        (Backup.nameAt file (stamp : Nat)) =
      .ok (place ++ [Backup.nameAt file (stamp : Nat)])
  kept : ∀ location, location ≠ place ++ [file] →
    (∀ stamp ∈ stamps,
      location ≠ place ++ [Backup.nameAt file (stamp : Nat)]) →
    tree.get? location = start.get? location

/- No name in a folder is that of a backup of a file. -/
def NoBackups
    (tree : FileTree)
    (place : Location)
    (file : Name) : Prop :=
  (tree.namesIn place).filterMap (Backup.found? file.text) = []

section

variable {start tree after : FileTree} {folder : Path}
variable {place : Location} {file : Name} {time : Int}
variable {stamps : List Nat} {top : Nat}

/- A file without backups has the empty stack. -/
theorem stacked_nil
    (hFile : tree.FileIn folder place file)
    (time : Int) :
    tree.Stacked tree folder place file time [] where
  fileIn := hFile
  names := by simp
  growing := List.Pairwise.nil
  dense := by simp
  fits := by simp
  kept _ _ _ := rfl

/- The names in a folder when a new one comes. -/
theorem namesIn_set_of_none
    {name : Name}
    (h : tree.get? (place ++ [name]) = none)
    (entry : Entry) :
    (tree.set (place ++ [name]) entry).namesIn place =
      tree.namesIn place ++ [name] := by
  have hEntries := Entries.set_of_not_mem
    (not_mem_of_get? h) entry
  unfold namesIn set
  simp only [hEntries, List.filterMap_append,
    List.filterMap_cons, List.filterMap_nil,
    List.dropLast_concat, if_true, List.getLast?_concat]

/- The names in a folder when a file of it is written. -/
theorem namesIn_set_of_some
    {location : Location}
    {bytes : List UInt8}
    (h : tree.get? location = some (.file bytes))
    (entry : Entry) :
    (tree.set location entry).namesIn place =
      tree.namesIn place := by
  rw [namesIn_eq, namesIn_eq]
  have hLocations := Entries.locations_set_of_mem
    (mem_locations_of_get? h) entry
  unfold set
  simp only [hLocations]

/- A fix gives the folder the name of its backup. -/
theorem FixedAt.namesIn_eq
    {stamp : Int}
    {bytes : List UInt8}
    {text : List Char}
    (h : tree.FixedAt after folder place file time stamp
      bytes text) :
    after.namesIn place =
      tree.namesIn place ++ [Backup.nameAt file stamp] := by
  have hFile :
      (tree.set (place ++ [Backup.nameAt file stamp])
        (.file bytes)).get? (place ++ [file]) =
          some (.file bytes) := by
    rw [get?_set _ _ _ _ (by simp), if_neg h.ne_copy]
    exact h.source
  rw [h.tree_eq, namesIn_set_of_some hFile,
    namesIn_set_of_none h.free]

namespace Stacked

/- The stamps that are taken are those of the stack. -/
theorem taken_iff
    (h : start.Stacked tree folder place file time stamps)
    (hNone : start.NoBackups place file)
    (hLine : '\n' ∉ file.text.toList)
    (stamp : Nat) :
    tree.get? (place ++ [Backup.nameAt file stamp]) ≠ none ↔
      stamp ∈ stamps := by
  rw [← mem_namesIn_iff, h.names, List.mem_append]
  constructor
  · rintro (hOld | hNew)
    · have hFound := List.filterMap_eq_nil_iff.mp hNone _ hOld
      rw [Backup.found?_nameAt hLine] at hFound
      cases hFound
    · rcases List.mem_map.mp hNew with ⟨other, hOther, hEq⟩
      have hStamp := (Backup.nameAt_injective hEq).2
      have hSame : other = stamp := by omega
      rw [← hSame]
      exact hOther
  · intro hMem
    exact Or.inr (List.mem_map.mpr ⟨stamp, hMem, rfl⟩)

/- The backups of the stack, the newest first. -/
theorem backups_eq
    (h : start.Stacked tree folder place file time stamps)
    (hNone : start.NoBackups place file)
    (hLine : '\n' ∉ file.text.toList)
    (hOrdinary : file.text.toList.all Glob.isOrdinary = true) :
    tree.backups (folder.below [file]) =
      .ok (stamps.reverse.map fun (stamp : Nat) =>
        folder.below [Backup.nameAt file stamp]) := by
  have hFound :
      (tree.namesIn place).filterMap (Backup.found? file.text) =
        stamps.map fun (stamp : Nat) =>
          (⟨stamp, Backup.nameAt file stamp⟩ : Backup.Found) := by
    rw [h.names, List.filterMap_append, hNone, List.nil_append,
      List.filterMap_map]
    simp [Backup.found?_nameAt hLine, List.filterMap_eq_map']
  have hSorted :
      (stamps.map fun (stamp : Nat) =>
        (⟨stamp, Backup.nameAt file stamp⟩ :
          Backup.Found)).mergeSort Backup.Found.before =
        stamps.reverse.map fun (stamp : Nat) =>
          ⟨stamp, Backup.nameAt file stamp⟩ := by
    rw [Backup.Found.mergeSort_of_growing, List.map_reverse]
    exact List.pairwise_map.mpr h.growing
  rw [FileTree.backups_eq h.fileIn.inFolder h.fileIn.locate_eq
    hOrdinary, hFound, hSorted, List.map_map]
  rfl

/- A fix puts its backup on top of the stack. -/
theorem fix
    (h : start.Stacked tree folder place file time stamps)
    (hNone : start.NoBackups place file)
    (hLine : '\n' ∉ file.text.toList)
    {later stamp : Int}
    (hLater : time ≤ later)
    (hClock : 0 ≤ later)
    {bytes : List UInt8}
    {text : List Char}
    (hFixed : tree.FixedAt after folder place file later stamp
      bytes text) :
    ∃ top : Nat, stamp = top ∧
      start.Stacked after folder place file later
        (stamps ++ [top]) := by
  have hLate := hFixed.late
  obtain ⟨top, rfl⟩ : ∃ top : Nat, stamp = top :=
    ⟨stamp.toNat, by omega⟩
  have hFree : top ∉ stamps := by
    rw [← h.taken_iff hNone hLine]
    simpa using hFixed.free
  -- A larger stamp in the stack would make this one taken.
  have hTop : ∀ old ∈ stamps, old < top := by
    intro old hOld
    apply Nat.lt_of_not_le
    intro hLess
    exact hFree (h.dense old hOld top (by omega) hLess)
  have hDense : ∀ old : Nat, later ≤ old → old < top →
      old ∈ stamps := by
    intro old hOld hLess
    apply (h.taken_iff hNone hLine old).mp
    exact hFixed.taken old hOld (by omega)
  refine ⟨top, rfl,
    { fileIn := hFixed.fileIn h.fileIn
      names := ?_
      growing := ?_
      dense := ?_
      fits := ?_
      kept := ?_ }⟩
  · rw [hFixed.namesIn_eq, h.names, List.map_append,
      List.append_assoc]
    rfl
  · rw [List.pairwise_append]
    refine ⟨h.growing, List.pairwise_singleton _ _, ?_⟩
    intro old hOld other hOther
    rw [List.mem_singleton.mp hOther]
    exact hTop old hOld
  · intro last hLast old hOld hLess
    rw [List.mem_append, List.mem_singleton] at hLast ⊢
    rcases hLast with hBelow | hHere
    · exact Or.inl (h.dense last hBelow old (by omega) hLess)
    · rcases Nat.lt_or_eq_of_le (hHere ▸ hLess) with
        hUnder | hEq
      · exact Or.inl (hDense old hOld hUnder)
      · exact Or.inr hEq
  · intro old hOld
    rw [List.mem_append, List.mem_singleton] at hOld
    rcases hOld with hBelow | hHere
    · exact h.fits old hBelow
    · rw [hHere]
      exact hFixed.fits
  · intro location hFile hOther
    have hTopNe := hOther top (by simp)
    rw [hFixed.changes.kept location (by simpa using hFile)
      (by simpa using hTopNe)]
    apply h.kept location hFile
    intro old hOld
    exact hOther old (List.mem_append_left _ hOld)

/- Restoring the newest backup takes the last fix back. -/
theorem restoreNewest_eq
    (h : start.Stacked after folder place file time
      (stamps ++ [top]))
    (hNone : start.NoBackups place file)
    (hLine : '\n' ∉ file.text.toList)
    (hOrdinary : file.text.toList.all Glob.isOrdinary = true)
    (hFile : tree.FileIn folder place file)
    {bytes : List UInt8}
    {text : List Char}
    (hFixed : tree.FixedAt after folder place file time top
      bytes text) :
    after.restoreNewest (folder.below [file]) =
      .ok (tree, true) := by
  unfold restoreNewest
  rw [h.backups_eq hNone hLine hOrdinary, List.reverse_append]
  exact hFixed.restore_eq hFile

end Stacked

end

end FileTree

end GradleMigration

------------------------------------------------------------
-- Runs of Fixes
------------------------------------------------------------

namespace GradleMigration

namespace Registry

section

variable {registry : Registry} {workspace last : Workspace}
variable {call : FixCall} {calls : List FixCall}
variable {results : List FixResult}

/- A run starts with one fix and goes on with the others. -/
theorem of_applyCalls_cons
    (h : registry.applyCalls workspace (call :: calls) =
      (last, .ok results)) :
    ∃ after result rest,
      registry.applyFix { workspace with time := call.time }
        call.finding = .ok (after, result) ∧
      registry.applyCalls after calls = (last, .ok rest) ∧
      results = result :: rest := by
  unfold applyCalls at h
  split at h
  · cases h
  · next after result hFix =>
      rcases hRun : registry.applyCalls after calls with
        ⟨final, outcome⟩
      rw [hRun] at h
      injection h with hLast hResults
      rcases map_eq_ok_iff.mp hResults with
        ⟨rest, hRest, hEq⟩
      subst hLast hRest
      exact ⟨after, result, rest, hFix, hRun, hEq.symm⟩

/- The first fix of a run, whatever follows. -/
theorem applyCalls_cons
    {after : Workspace}
    {result : FixResult}
    (h : registry.applyFix { workspace with time := call.time }
      call.finding = .ok (after, result))
    (calls : List FixCall) :
    (registry.applyCalls workspace (call :: calls)).1 =
      (registry.applyCalls after calls).1 := by
  rw [applyCalls, h]

end

section

variable {registry : Registry} {start : FileTree}
variable {folder : Path} {place : Location} {file : Name}

/-
  A run of fixes of one file puts a backup on the stack for
  each of them.  From its end, restoring the newest backup
  leads back through all the trees of the run.
-/
theorem stacked_of_applyCalls
    (hNone : start.NoBackups place file)
    (hLine : '\n' ∉ file.text.toList)
    (hOrdinary : file.text.toList.all Glob.isOrdinary = true)
    {calls : List FixCall}
    {workspace last : Workspace}
    {results : List FixResult}
    {time : Int}
    {stamps : List Nat}
    (h : start.Stacked workspace.tree folder place file time
      stamps)
    (hFile : ∀ call ∈ calls,
      call.finding.file = folder.below [file])
    (hLater : ∀ call ∈ calls, time ≤ call.time)
    (hClock : ∀ call ∈ calls, 0 ≤ call.time)
    (hOrder : calls.Pairwise fun a b => a.time ≤ b.time)
    (hRun : registry.applyCalls workspace calls =
      (last, .ok results))
    (hDone : ∀ result ∈ results, result.success = true) :
    ∃ more : List Nat,
      more.length = calls.length ∧
      (results.map fun result => result.backup?) =
        (more.map fun (stamp : Nat) =>
          some (folder.below [Backup.nameAt file stamp])) ∧
      ∀ count ≤ calls.length,
        let tree := (registry.applyCalls workspace
          (calls.take count)).1.tree
        (∃ moment, start.Stacked tree folder place file moment
          (stamps ++ more.take count)) ∧
        last.tree.restoreTimes (folder.below [file])
          (calls.length - count) = .ok (tree, true) ∧
        ∀ location, location ≠ place ++ [file] →
          (∀ stamp ∈ more.drop count, location ≠
            place ++ [Backup.nameAt file (stamp : Nat)]) →
          tree.get? location = last.tree.get? location := by
  induction calls generalizing workspace results time stamps with
  | nil =>
      cases hRun
      refine ⟨[], rfl, rfl, ?_⟩
      intro count hCount
      cases Nat.le_zero.mp hCount
      refine ⟨⟨time, ?_⟩, rfl, fun _ _ _ => rfl⟩
      simpa [applyCalls] using h
  | cons call calls ih =>
      rcases of_applyCalls_cons hRun with
        ⟨after, result, rest, hFix, hRest, hResults⟩
      subst hResults
      have hCall : call ∈ call :: calls := List.mem_cons_self
      have hResult := hDone result List.mem_cons_self
      rcases of_applyFix_success hFix hResult with
        ⟨backed, backup, bytes, text, hRead, hSnapshot, hWrite,
          hBackup⟩
      rw [hFile call hCall] at hRead hSnapshot hWrite
      rcases FileTree.fixedAt_of_success h.fileIn.inFolder
          hRead hSnapshot hWrite with
        ⟨stamp, hFixed, hName⟩
      rcases h.fix hNone hLine (hLater call hCall)
          (hClock call hCall) hFixed with
        ⟨top, hTop, hStacked⟩
      subst hTop
      rcases List.pairwise_cons.mp hOrder with ⟨hFirst, hTail⟩
      rcases ih hStacked
          (fun other hOther =>
            hFile other (List.mem_cons_of_mem _ hOther))
          hFirst
          (fun other hOther =>
            hClock other (List.mem_cons_of_mem _ hOther))
          hTail hRest
          (fun other hOther =>
            hDone other (List.mem_cons_of_mem _ hOther)) with
        ⟨more, hLength, hBackups, hTrees⟩
      refine ⟨top :: more, ?_, ?_, ?_⟩
      · rw [List.length_cons, List.length_cons, hLength]
      · rw [List.map_cons, List.map_cons, hBackups, hBackup,
          hName]
      · intro count hCount
        cases count with
        | zero =>
            rcases hTrees 0 (Nat.zero_le _) with
              ⟨_, hBack, hKept⟩
            refine ⟨⟨time, ?_⟩, ?_, ?_⟩
            · simpa [applyCalls] using h
            · have hOnce := hStacked.restoreNewest_eq hNone hLine
                hOrdinary h.fileIn hFixed
              simp only [Nat.sub_zero] at hBack ⊢
              rw [List.length_cons, FileTree.restoreTimes, hBack]
              exact hOnce
            · intro location hNe hOther
              have hTopNe := hOther top List.mem_cons_self
              have hAfter := hFixed.changes.kept location
                (by simpa using hNe) (by simpa using hTopNe)
              have hLast := hKept location hNe
                fun stamp hStamp => hOther stamp
                  (List.mem_cons_of_mem _ hStamp)
              exact hAfter.symm.trans hLast
        | succ count =>
            have hTree := hTrees count
              (Nat.le_of_succ_le_succ hCount)
            simp only [List.take_succ_cons, List.drop_succ_cons,
              List.length_cons, Nat.add_sub_add_right,
              applyCalls_cons hFix]
            simpa [List.append_assoc] using hTree

end

end Registry

end GradleMigration

------------------------------------------------------------
-- Restores Undo Fixes
------------------------------------------------------------

namespace GradleMigration

/- The backup of a file with a stamp. -/
def Backup.pathAt?
    (file : Path)
    (stamp : Int) : Option Path :=
  (file.withName (nameFor file.name stamp)).toOption

namespace FileTree

/-
  A tree with other files in one folder only is the same but
  for the paths of these.
-/
theorem sameBut_of_kept
    {before after : FileTree}
    {folder : Path}
    {place : Location}
    {file : Name}
    {stamps : List Nat}
    (hFile : before.FileIn folder place file)
    (hFits : ∀ stamp ∈ stamps,
      siblingPlace folder place
          (Backup.nameAt file (stamp : Nat)) =
        .ok (place ++ [Backup.nameAt file (stamp : Nat)]))
    (hKept : ∀ location, location ≠ place ++ [file] →
      (∀ stamp ∈ stamps, location ≠
        place ++ [Backup.nameAt file (stamp : Nat)]) →
      after.get? location = before.get? location) :
    before.SameBut after (folder.below [file] ::
      stamps.map fun (stamp : Nat) =>
        folder.below [Backup.nameAt file stamp]) := by
  intro location hOther
  apply hKept location
  · intro hEq
    apply hOther _ List.mem_cons_self
    rw [hEq]
    exact hFile.locate_eq
  · intro stamp hStamp hEq
    apply hOther _ (List.mem_cons_of_mem _
      (List.mem_map.mpr ⟨stamp, hStamp, rfl⟩))
    rw [hEq, hFile.inFolder.locate_sibling
      (Backup.nameAt_isUp file stamp)]
    exact hFits stamp hStamp

/- A file that can be read is in its folder. -/
theorem fileIn_of_read
    {tree : FileTree}
    {folder : Path}
    {file : Name}
    {bytes : List UInt8}
    (h : tree.read (folder.below [file]) = .ok bytes) :
    ∃ place, tree.FileIn folder place file := by
  rcases read_eq_ok_iff.mp h with ⟨location, hLocate, _⟩
  rcases inFolder_of_locate hLocate with ⟨place, hFolder⟩
  exact ⟨place,
    { inFolder := hFolder
      notUp := not_isUp_of_read hFolder h
      fits := (source_of_read hFolder h).1 }⟩

/- Where no backups are found, there is none in the folder. -/
theorem noBackups_of_backups
    {tree : FileTree}
    {folder : Path}
    {place : Location}
    {file : Name}
    (hFile : tree.FileIn folder place file)
    (hOrdinary : file.text.toList.all Glob.isOrdinary = true)
    (h : tree.backups (folder.below [file]) = .ok []) :
    tree.NoBackups place file := by
  rw [backups_eq hFile.inFolder hFile.locate_eq hOrdinary] at h
  injection h with hNil
  have hSorted := List.map_eq_nil_iff.mp hNil
  have hLength := congrArg List.length hSorted
  rw [List.length_mergeSort] at hLength
  exact List.length_eq_zero_iff.mp hLength

end FileTree

/- Characters that no pattern singles out are ordinary. -/
theorem Glob.all_isOrdinary
    {text : List Char}
    (h : ∀ c ∈ text, c ∉ ['[', '*', '?', '\n']) :
    text.all Glob.isOrdinary = true := by
  rw [List.all_eq_true]
  intro c hC
  have hNe := h c hC
  simp only [List.mem_cons, not_or] at hNe
  simp [Glob.isOrdinary, hNe.1, hNe.2.1, hNe.2.2.1]

namespace Registry

/-
  Restores undo fixes, the last one first.  The backups of the
  fixes get larger and larger stamps.  After some restores the
  tree is the one before as many of the last fixes: the file
  holds the bytes that it held then, the backups are those of
  the other fixes, and no other file has changed since the
  restores started or since the fixes did.
-/
theorem restores_undo_fixes
    {registry : Registry}
    {workspace last : Workspace}
    {file : Path}
    {calls : List FixCall}
    {results : List FixResult}
    (hName : ∀ c ∈ file.name.toList, c ∉ ['[', '*', '?', '\n'])
    (hNone : workspace.tree.backups file = .ok [])
    (hFile : ∀ call ∈ calls, call.finding.file = file)
    (hClock : ∀ call ∈ calls, 0 ≤ call.time)
    (hOrder : calls.Pairwise fun a b => a.time ≤ b.time)
    (hRun : registry.applyCalls workspace calls =
      (last, .ok results))
    (hDone : ∀ result ∈ results, result.success = true) :
    ∃ stamps : List Nat,
      stamps.length = calls.length ∧
      stamps.Pairwise (· < ·) ∧
      (results.map fun result => result.backup?) =
        (stamps.map fun (stamp : Nat) =>
          Backup.pathAt? file stamp) ∧
      ∀ count ≤ calls.length,
        ∃ tree remaining restored,
          last.tree.restoreTimes file count =
            .ok (tree, true) ∧
          tree = (registry.applyCalls workspace
            (calls.take (calls.length - count))).1.tree ∧
          tree.backups file = .ok remaining ∧
          remaining.length = calls.length - count ∧
          (results.map fun result => result.backup?) =
            (remaining.reverse ++ restored).map some ∧
          last.tree.SameBut tree (file :: restored) ∧
          workspace.tree.SameBut tree (file :: remaining) := by
  cases calls with
  | nil =>
      cases hRun
      refine ⟨[], rfl, List.Pairwise.nil, rfl, ?_⟩
      intro count hCount
      cases Nat.le_zero.mp hCount
      exact ⟨_, [], [], rfl, rfl, hNone, rfl, rfl,
        fun _ _ => rfl, fun _ _ => rfl⟩
  | cons call calls =>
      rcases of_applyCalls_cons hRun with
        ⟨after, result, rest, hFix, hRest, hResults⟩
      have hResult := hDone result
        (hResults ▸ List.mem_cons_self)
      rcases of_applyFix_success hFix hResult with
        ⟨backed, backup, bytes, text, hRead, hSnapshot, _, _⟩
      rw [hFile call List.mem_cons_self] at hRead hSnapshot
      rcases Path.exists_below
          (FileTree.parts_ne_nil_of_snapshot hSnapshot) with
        ⟨folder, name, hPath⟩
      subst hPath
      rw [Path.name_below_one] at hName
      have hLine : '\n' ∉ name.text.toList := by
        intro hMem
        exact hName _ hMem (by decide)
      have hOrdinary := Glob.all_isOrdinary hName
      change workspace.tree.read _ = _ at hRead
      rcases FileTree.fileIn_of_read hRead with
        ⟨place, hPlace⟩
      have hEmpty := FileTree.noBackups_of_backups hPlace
        hOrdinary hNone
      rcases stacked_of_applyCalls hEmpty hLine hOrdinary
          (FileTree.stacked_nil hPlace 0) hFile hClock hClock
          hOrder hRun hDone with
        ⟨stamps, hLength, hBackups, hTrees⟩
      have hWhole := hTrees _ (Nat.le_refl _)
      rw [List.take_length, hRun] at hWhole
      rcases hWhole.1 with ⟨_, hAll⟩
      rw [List.nil_append, List.take_of_length_le
        (Nat.le_of_eq hLength)] at hAll
      refine ⟨stamps, hLength, hAll.growing, ?_, ?_⟩
      · rw [hBackups]
        apply List.map_congr_left
        intro stamp _
        unfold Backup.pathAt?
        rw [Path.withName_below]
        rfl
      · intro count hCount
        let kept := (call :: calls).length - count
        rcases hTrees kept (Nat.sub_le _ _) with
          ⟨⟨_, hStacked⟩, hBack, hKept⟩
        rw [List.nil_append] at hStacked
        have hCountEq : (call :: calls).length - kept = count :=
          Nat.sub_sub_self hCount
        rw [hCountEq] at hBack
        refine ⟨_,
          (stamps.take kept).reverse.map fun (stamp : Nat) =>
            folder.below [Backup.nameAt name stamp],
          (stamps.drop kept).map fun (stamp : Nat) =>
            folder.below [Backup.nameAt name stamp],
          hBack, rfl,
          hStacked.backups_eq hEmpty hLine hOrdinary,
          ?_, ?_, ?_, ?_⟩
        · rw [List.length_map, List.length_reverse,
            List.length_take, hLength]
          exact Nat.min_eq_left (Nat.sub_le _ _)
        · rw [hBackups, ← List.map_reverse, List.reverse_reverse,
            ← List.map_append, List.take_append_drop,
            List.map_map]
          rfl
        · apply FileTree.sameBut_of_kept hAll.fileIn _ hKept
          intro stamp hStamp
          exact hAll.fits stamp (List.mem_of_mem_drop hStamp)
        · apply FileTree.sameBut_of_kept hPlace
          · intro stamp hStamp
            exact hStacked.fits stamp
              (List.mem_reverse.mp hStamp)
          · intro location hNe hOther
            apply hStacked.kept location hNe
            intro stamp hStamp
            exact hOther stamp (List.mem_reverse.mpr hStamp)

/- A finding in the only script, with its text and another. -/
def singleFinding
    (matched suggested : String) : Finding where
  ruleId := "EXAMPLE"
  severity := .low
  title := ""
  description := ""
  file := .parse "/p/build.gradle"
  line := 1
  matched := matched
  explanation := ""
  suggestedFix := suggested
  autoFixable := true
  modules := .empty
  id := "finding-0"

/- Two fixes at the same time. -/
def twoCalls : List FixCall :=
  [⟨7, singleFinding "a" "b"⟩, ⟨7, singleFinding "bb" "c"⟩]

/- Two restores give back the tree before two fixes. -/
theorem restores_undo_two_fixes :
    ∃ last results,
      empty.applyCalls (.single "ab") twoCalls =
          (last, .ok results) ∧
        (results.map fun result => result.success) =
          [true, true] ∧
        last.tree.restoreTimes (.parse "/p/build.gradle") 2 =
          .ok ((Workspace.single "ab").tree, true) := by
  have hSuccess :
      (empty.applyCalls (.single "ab") twoCalls).2.toOption.map
        (fun results => results.map fun result =>
          result.success) = some [true, true] := by
    decide +kernel
  rcases Option.map_eq_some_iff.mp hSuccess with
    ⟨results, hResults, hDone⟩
  have hRun :
      empty.applyCalls (.single "ab") twoCalls =
        ((empty.applyCalls (.single "ab") twoCalls).1,
          .ok results) := by
    apply Prod.ext
    · rfl
    · cases hSecond :
          (empty.applyCalls (.single "ab") twoCalls).2 with
      | error stop =>
          rw [hSecond] at hResults
          cases hResults
      | ok found =>
          rw [hSecond] at hResults
          cases hResults
          rfl
  have hAll : ∀ result ∈ results, result.success = true := by
    intro result hResult
    have hMem := List.mem_map_of_mem
      (f := fun result : FixResult => result.success) hResult
    rw [hDone] at hMem
    simpa using hMem
  have hName :
      (Path.parse "/p/build.gradle").name.toList.all
        (fun c => decide (c ∉ ['[', '*', '?', '\n'])) =
          true := by
    decide +kernel
  rcases restores_undo_fixes
      (fun c hC => of_decide_eq_true
        (List.all_eq_true.mp hName c hC))
      (by decide +kernel)
      (show ∀ call ∈ twoCalls, call.finding.file =
        .parse "/p/build.gradle" by decide +kernel)
      (by decide +kernel) (by decide +kernel) hRun hAll with
    ⟨stamps, _, _, _, hBack⟩
  rcases hBack 2 (by decide) with ⟨tree, _, _, hTimes, hTree, _⟩
  refine ⟨_, results, hRun, hDone, ?_⟩
  rw [hTimes, hTree]
  rfl

end Registry

end GradleMigration
