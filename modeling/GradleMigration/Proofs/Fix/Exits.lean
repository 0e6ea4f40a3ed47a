import GradleMigration.Proofs.Backup.Undo
import GradleMigration.Proofs.Fix.Steady

/-
  What a fix does to the tree at each of its exits.  It backs a
  file up and rewrites it, or it leaves the tree as it was,
  unless copying or writing is cut off: then the backup, or the
  file beside its whole backup, holds no more than some bytes.

  Main declarations:
    * `Registry.applyFix_cases`
    * `Registry.Backable`
    * `Workspace.Saves`
    * `Registry.Accounts`
    * `Registry.applyFix_accounts`
    * `Registry.applyFix_leaves_parts`
-/

------------------------------------------------------------
-- Stops
------------------------------------------------------------

namespace GradleMigration

namespace FileTree

/- Only a path over the limits cannot be looked up. -/
theorem of_isFile_eq_error
    {tree : FileTree}
    {path : Path}
    {fault : FileFault}
    (h : tree.isFile path = .error fault) :
    ¬ path.FitsFrom tree.directory ∧
      fault = .system .nameTooLong path := by
  refine ⟨?_, (isFile_eq_error_iff.mp h).2⟩
  intro hFits
  rcases isFile_of_fitsFrom hFits with ⟨answer, hAnswer⟩
  rw [hAnswer] at h
  cases h

end FileTree

namespace Registry

/- What may not be fixed is left alone. -/
theorem applyFix_of_not_fixable
    {registry : Registry}
    {workspace : Workspace}
    {finding : Finding}
    (hAuto : finding.autoFixable = false) :
    registry.applyFix workspace finding =
      .ok (workspace,
        ⟨finding.id, finding.file, .failed .notFixable⟩) := by
  unfold applyFix
  simp only [hAuto, Bool.false_eq_true, if_false]
  rfl

/- A fix stops at a path that cannot be resolved. -/
theorem applyFix_of_hasNull
    {registry : Registry}
    {workspace : Workspace}
    {finding : Finding}
    (hAuto : finding.autoFixable = true)
    (hNull : finding.file.hasNull = true) :
    registry.applyFix workspace finding =
      .error (.file (.system .nullInPath finding.file)) := by
  unfold applyFix fixFile
  simp only [hAuto, hNull, if_true]
  rfl

/- A fix stops at a path that cannot be looked up. -/
theorem applyFix_of_isFile_eq_error
    {registry : Registry}
    {workspace : Workspace}
    {finding : Finding}
    {fault : FileFault}
    (hAuto : finding.autoFixable = true)
    (hClean : finding.file.hasNull = false)
    (hFile :
      workspace.tree.isFile finding.file = .error fault) :
    registry.applyFix workspace finding =
      .error (.file fault) := by
  unfold applyFix fixFile
  simp only [hAuto, if_true, hClean, Bool.false_eq_true,
    if_false, hFile]
  rfl

/-
  A fix comes to a result unless the path of its file cannot
  be resolved or is over the limits of the file system, if its
  rule has no fault.
-/
theorem applyFix_cases
    {registry : Registry}
    {workspace : Workspace}
    {finding : Finding}
    (hRule : ∀ content,
      workspace.tree.readExact finding.file = .ok content →
        ∃ text, registry.migrate finding content = .ok text) :
    (finding.autoFixable = true ∧
        finding.file.hasNull = true ∧
        registry.applyFix workspace finding =
          .error (.file (.system .nullInPath finding.file))) ∨
      (finding.autoFixable = true ∧
        finding.file.hasNull = false ∧
        ¬ finding.file.FitsFrom workspace.tree.directory ∧
        registry.applyFix workspace finding =
          .error (.file (.system .nameTooLong finding.file))) ∨
      (finding.autoFixable = true →
          finding.file.hasNull = false) ∧
        ∃ after result,
          registry.applyFix workspace finding =
            .ok (after, result) := by
  cases hAuto : finding.autoFixable with
  | false =>
      exact Or.inr (Or.inr ⟨(nomatch ·), workspace, _,
        applyFix_of_not_fixable hAuto⟩)
  | true =>
      cases hNull : finding.file.hasNull with
      | true =>
          exact Or.inl ⟨rfl, rfl,
            applyFix_of_hasNull hAuto hNull⟩
      | false =>
          cases hFile : workspace.tree.isFile finding.file with
          | error fault =>
              rcases FileTree.of_isFile_eq_error hFile with
                ⟨hLimits, rfl⟩
              exact Or.inr (Or.inl ⟨rfl, rfl, hLimits,
                applyFix_of_isFile_eq_error hAuto hNull hFile⟩)
          | ok answer =>
              exact Or.inr (Or.inr ⟨fun _ => rfl,
                applyFix_of_isFile hNull ⟨answer, hFile⟩
                  hRule⟩)

end Registry

end GradleMigration

------------------------------------------------------------
-- What Is Left
------------------------------------------------------------

namespace GradleMigration

/-
  What a file holds after a fault has ended the writing of new
  bytes over the old ones.
-/
def WriteFault.remains
    (old new : List UInt8) : WriteFault → List UInt8
| .closed _ => old
| .cut _ count => new.take count

namespace FileTree

/- What a file holds when a fault has ended its writing. -/
theorem get?_setUnder
    {tree : FileTree}
    {location : Location}
    {old : List UInt8}
    (h : tree.get? location = some (.file old))
    (new : List UInt8)
    (fault : WriteFault) :
    (tree.setUnder location new (some fault)).get? location =
      some (.file (fault.remains old new)) := by
  cases fault with
  | closed message => exact h
  | cut message count =>
      exact get?_set_self (not_directory_of_file h) _

end FileTree

namespace Workspace

/-
  A new sibling of a file holds its bytes, and the file holds
  what a fault has left of its bytes and those of a text.
-/
structure Saves
    (before after : Workspace)
    (file : Path)
    (location : Location)
    (bytes : List UInt8)
    (text : List Char)
    (fault : WriteFault)
    (backup : Path)
    (copy : Location) : Prop where
  named : ∃ stamp,
    file.withName (Backup.nameFor file.name stamp) = .ok backup
  place : before.tree.locate backup = .ok copy
  changes : before.tree.Changes after.tree [location] [copy]
  left : after.tree.get? location =
    some (.file (fault.remains bytes (Utf8.encode text)))
  saved : after.tree.get? copy = some (.file bytes)

/-
  The only change is a new sibling of a file that holds the
  first of its bytes.
-/
structure Begins
    (before after : Workspace)
    (file : Path)
    (bytes : List UInt8)
    (count : Nat)
    (backup : Path)
    (copy : Location) : Prop where
  named : ∃ stamp,
    file.withName (Backup.nameFor file.name stamp) = .ok backup
  place : before.tree.locate backup = .ok copy
  changes : before.tree.Changes after.tree [] [copy]
  begun :
    after.tree.get? copy = some (.file (bytes.take count))

end Workspace

namespace Registry

/-
  A finding can be changed, and the tree has room for a backup
  of its file.
-/
structure Backable
    (registry : Registry)
    (workspace : Workspace)
    (finding : Finding)
    (location : Location)
    (bytes : List UInt8)
    (content text : List Char)
    (backup : Path) : Prop
    extends registry.Changeable workspace finding location
      bytes content text where
  backedUp : ∃ backed,
    workspace.tree.snapshot finding.file workspace.time =
      .ok (backed, backup)

/-
  What the fix of a finding leaves and what its result tells.
  Success is told exactly where nothing fails.  A backup is
  told of a failure exactly where no more than the writing has
  failed, and then the script holds what that fault has left.
  Every other failure leaves the workspace as it was, except
  that a copy that is cut off stays without being told of.
-/
structure Accounts
    (registry : Registry)
    (before after : Workspace)
    (finding : Finding)
    (result : FixResult) : Prop where
  success_iff :
    result.success = true ↔
      before.copyFault = none ∧ before.writeFault = none ∧
        ∃ location bytes content text backup,
          registry.Backable before finding location bytes
            content text backup
  rewrites :
    ∀ {location bytes content text backup},
      registry.Backable before finding location bytes content
          text backup →
        before.copyFault = none → before.writeFault = none →
          result.backup? = some backup ∧
            ∃ copy, before.Rewrites after finding.file location
              bytes text backup copy
  saved_iff :
    result.success = false ∧ result.backup? ≠ none ↔
      before.copyFault = none ∧ before.writeFault ≠ none ∧
        ∃ location bytes content text backup,
          registry.Backable before finding location bytes
            content text backup
  saves :
    ∀ {location bytes content text backup fault},
      registry.Backable before finding location bytes content
          text backup →
        before.copyFault = none →
        before.writeFault = some fault →
          result.backup? = some backup ∧
            ∃ copy, before.Saves after finding.file location
              bytes text fault backup copy
  begins :
    ∀ {location bytes content text backup message count},
      registry.Backable before finding location bytes content
          text backup →
        before.copyFault = some (.cut message count) →
          result.backup? = none ∧
            ∃ copy, before.Begins after finding.file bytes
              count backup copy
  untouched :
    result.success = false → result.backup? = none →
      after = before ∨
        ∃ location bytes content text backup message count,
          registry.Backable before finding location bytes
              content text backup ∧
            before.copyFault = some (.cut message count)
  texts :
    result.before? =
        (if result.success then some finding.matched
          else none) ∧
      result.after? =
        (if result.success then some finding.suggestedFix
          else none)

section

variable {registry : Registry} {before after : Workspace}
variable {finding : Finding} {result : FixResult}
variable {location : Location} {bytes : List UInt8}
variable {content text : List Char} {backup : Path}

/-
  How the fix of a finding ends whose file can be backed up is
  told by the faults alone.
-/
theorem Backable.ends
    (hBackable : registry.Backable before finding location
      bytes content text backup)
    (h : registry.applyFix before finding =
      .ok (after, result)) :
    match before.copyFault, before.writeFault with
    | some fault, _ =>
        result.success = false ∧ result.backup? = none ∧
          ∃ backed copy,
            before.tree.Snapshot finding.file backed backup
                copy bytes ∧
              after = before.withTree
                (before.tree.setUnder copy bytes (some fault))
    | none, some fault =>
        result.success = false ∧
          result.backup? = some backup ∧
          ∃ copy, before.Saves after finding.file location
            bytes text fault backup copy
    | none, none =>
        result.success = true ∧ result.backup? = some backup ∧
          ∃ copy, before.Rewrites after finding.file location
            bytes text backup copy := by
  have hHolds := hBackable.holds
  rcases hBackable.backedUp with ⟨made, hBackedUp⟩
  have hReplacing :=
    Workspace.replacing hHolds.place hHolds.entry text
  rw [hBackable.applyFix_eq] at h
  cases h
  generalize before.replaceScript finding text = done
    at hReplacing ⊢
  rcases done with ⟨after, outcome⟩
  dsimp only at hReplacing ⊢
  cases hReplacing with
  | noBackup hCopy =>
      cases hCopy with
      | refused hFault =>
          rw [hFault] at hBackedUp
          cases hBackedUp
      | failed hMade hSaved hFault =>
          rw [hMade] at hBackedUp
          cases hBackedUp
          have hBytes := hSaved.bytes_eq hHolds.place hHolds.entry
          subst hBytes
          simp only [hFault]
          exact ⟨rfl, rfl, _, _, hSaved, rfl⟩
  | notWritten hMade hSaved hCopy hWrite =>
      rw [hMade] at hBackedUp
      cases hBackedUp
      simp only [hCopy, hWrite]
      refine ⟨rfl, rfl, _,
        { named := hSaved.named
          place := hSaved.place
          changes := hSaved.changes_setUnder hHolds.entry _ _
          left := ?_
          saved := hSaved.get?_copy_setUnder
            hHolds.entry _ _ }⟩
      exact FileTree.get?_setUnder
        (hSaved.get?_source hHolds.entry) _ _
  | written hMade hSaved hCopy hWrite =>
      rw [hMade] at hBackedUp
      cases hBackedUp
      simp only [hCopy, hWrite]
      exact ⟨rfl, rfl, _,
        Workspace.rewrites_of_snapshot hHolds hSaved text⟩

/- Every fix that comes to a result is accounted for. -/
theorem accounts_of_applyFix
    (h : registry.applyFix before finding =
      .ok (after, result)) :
    registry.Accounts before after finding result := by
  have hExit := (exit_of_applyFix h).2.2
  refine
    { success_iff := ⟨?_, ?_⟩
      rewrites := ?_
      saved_iff := ⟨?_, ?_⟩
      saves := ?_
      begins := ?_
      untouched := ?_
      texts := ?_ }
  · intro hSuccess
    rcases result with ⟨id, file, outcome⟩
    cases hExit with
    | replaced hChange hReplaced =>
        cases hReplaced with
        | written hMade _ hCopy hWrite =>
            exact ⟨hCopy, hWrite, _, _, _, _, _,
              hChange, _, hMade⟩
        | _ => cases hSuccess
    | _ => cases hSuccess
  · rintro ⟨hCopy, hWrite, _, _, _, _, _, hBackable⟩
    have hEnd := hBackable.ends h
    rw [hCopy, hWrite] at hEnd
    exact hEnd.1
  · intro _ _ _ _ _ hBackable hCopy hWrite
    have hEnd := hBackable.ends h
    rw [hCopy, hWrite] at hEnd
    exact hEnd.2
  · rintro ⟨hFailed, hBackup⟩
    rcases result with ⟨id, file, outcome⟩
    cases hExit with
    | replaced hChange hReplaced =>
        cases hReplaced with
        | notWritten hMade _ hCopy hWrite =>
            refine ⟨hCopy, ?_, _, _, _, _, _,
              hChange, _, hMade⟩
            rw [hWrite]
            exact Option.some_ne_none _
        | written => cases hFailed
        | noBackup => exact absurd rfl hBackup
    | _ => exact absurd rfl hBackup
  · rintro ⟨hCopy, hWrite, _, _, _, _, _, hBackable⟩
    have hEnd := hBackable.ends h
    rcases Option.ne_none_iff_exists'.mp hWrite with
      ⟨fault, hFault⟩
    rw [hCopy, hFault] at hEnd
    rw [hEnd.2.1]
    exact ⟨hEnd.1, Option.some_ne_none _⟩
  · intro _ _ _ _ _ fault hBackable hCopy hWrite
    have hEnd := hBackable.ends h
    rw [hCopy, hWrite] at hEnd
    exact hEnd.2
  · intro _ _ _ _ _ _ _ hBackable hCut
    have hEnd := hBackable.ends h
    rw [hCut] at hEnd
    rcases hEnd with ⟨_, hBackup, _, copy, hSaved, hAfter⟩
    rw [hAfter]
    exact ⟨hBackup, copy,
      { named := hSaved.named
        place := hSaved.place
        changes := FileTree.changes_make hSaved.fresh _
        begun := FileTree.get?_set_self
          (FileTree.not_directory_of_none hSaved.fresh) _ }⟩
  · intro hFailed hNone
    rcases result with ⟨id, file, outcome⟩
    cases hExit with
    | replaced hChange hReplaced =>
        cases hReplaced with
        | notWritten => cases hNone
        | written => cases hFailed
        | noBackup hCopy =>
            cases hCopy with
            | refused => exact Or.inl rfl
            | @failed _ _ _ _ fault hMade _ hFault =>
                cases fault with
                | closed message => exact Or.inl rfl
                | cut message count =>
                    exact Or.inr ⟨_, _, _, _, _, message, count,
                      ⟨hChange, _, hMade⟩, hFault⟩
    | _ => exact Or.inl rfl
  · rcases result with ⟨id, file, outcome⟩
    cases hExit with
    | replaced _ hReplaced =>
        cases hReplaced with
        | _ => exact ⟨rfl, rfl⟩
    | _ => exact ⟨rfl, rfl⟩

end

/-
  In every workspace, at every time and with every setting for
  the faults of copying and writing, the fix of a finding whose
  rule has no fault is accounted for.  It has a result for
  every path that can be resolved and is within the limits of
  the file system; else it stops before anything is touched.
-/
theorem applyFix_accounts
    {registry : Registry}
    {workspace : Workspace}
    {finding : Finding}
    (hRule : ∀ content,
      workspace.tree.readExact finding.file = .ok content →
        ∃ text, registry.migrate finding content = .ok text) :
    (finding.autoFixable = true ∧
        finding.file.hasNull = true ∧
        registry.applyFix workspace finding =
          .error (.file (.system .nullInPath finding.file))) ∨
      (finding.autoFixable = true ∧
        finding.file.hasNull = false ∧
        ¬ finding.file.FitsFrom workspace.tree.directory ∧
        registry.applyFix workspace finding =
          .error (.file (.system .nameTooLong finding.file))) ∨
      (finding.autoFixable = true →
          finding.file.hasNull = false) ∧
        ∃ after result,
          registry.applyFix workspace finding =
              .ok (after, result) ∧
            result.findingId = finding.id ∧
            result.file = finding.file ∧
            registry.Accounts workspace after finding
              result := by
  rcases applyFix_cases hRule with
    hNull | hLong | ⟨hClean, after, result, hFix⟩
  · exact Or.inl hNull
  · exact Or.inr (Or.inl hLong)
  · rcases exit_of_applyFix hFix with ⟨hId, hFile, _⟩
    exact Or.inr (Or.inr ⟨hClean, after, result, hFix, hId,
      hFile, accounts_of_applyFix hFix⟩)

/-
  A script whose first two backups cannot be made, as their
  names are taken by a directory and by a file; copying and
  writing may end with faults.
-/
def takenStamps
    (copyFault writeFault : Option WriteFault) : Workspace where
  tree :=
    { directory := ⟨.slash, []⟩
      entries :=
        [([Workspace.singleProject], .directory),
         ([Workspace.singleProject, Workspace.singleScript],
          .file (Utf8.encode "ab".toList)),
         ([Workspace.singleProject,
            Backup.nameAt Workspace.singleScript 7],
          .directory),
         ([Workspace.singleProject,
            Backup.nameAt Workspace.singleScript 8],
          .file [])]
      distinct := by decide +kernel }
  time := 7
  copyFault := copyFault
  writeFault := writeFault
  idName n := "finding-" ++ toString n
  nextId := 0

/-
  What a fix of it tells, and what the script and its third
  backup hold then.
-/
def leftOfThird
    (copyFault writeFault : Option WriteFault) :
    Option (Bool × Option Path ×
      Option (List UInt8) × Option (List UInt8)) :=
  (empty.applyFix (takenStamps copyFault writeFault)
      (singleFinding "a" "b")).toOption.map
    fun (after, result) =>
      (result.success, result.backup?,
        (after.tree.read (.parse "/p/build.gradle")).toOption,
        (after.tree.read
          (.parse "/p/build.gradle.backup.9")).toOption)

theorem of_leftOfThird
    {copyFault writeFault : Option WriteFault}
    {success : Bool}
    {backup : Option Path}
    {script third : Option (List UInt8)}
    (h : leftOfThird copyFault writeFault =
      some (success, backup, script, third)) :
    ∃ after result,
      empty.applyFix (takenStamps copyFault writeFault)
          (singleFinding "a" "b") = .ok (after, result) ∧
        result.success = success ∧
        result.backup? = backup ∧
        (after.tree.read (.parse "/p/build.gradle")).toOption =
          script ∧
        (after.tree.read
          (.parse "/p/build.gradle.backup.9")).toOption =
            third := by
  rcases Option.map_eq_some_iff.mp h with
    ⟨⟨after, result⟩, hFix, hLeft⟩
  rcases Prod.mk.inj hLeft with ⟨hSuccess, hLeft⟩
  rcases Prod.mk.inj hLeft with ⟨hBackup, hLeft⟩
  rcases Prod.mk.inj hLeft with ⟨hScript, hThird⟩
  exact ⟨after, result, toOption_eq_some_iff.mp hFix,
    hSuccess, hBackup, hScript, hThird⟩

/-
  The third stamp is free: the script is rewritten, and where
  it cannot be opened for writing only its backup is made.
-/
theorem applyFix_accounts_takenStamps :
    (∃ after result,
      empty.applyFix (takenStamps none none)
          (singleFinding "a" "b") = .ok (after, result) ∧
        result.success = true ∧
        empty.Accounts (takenStamps none none) after
          (singleFinding "a" "b") result) ∧
    ∃ after result,
      empty.applyFix
          (takenStamps none (some (.closed "no permission")))
          (singleFinding "a" "b") = .ok (after, result) ∧
        result.success = false ∧
        empty.Accounts
          (takenStamps none (some (.closed "no permission")))
          after (singleFinding "a" "b") result := by
  have hAccounts {writeFault : Option WriteFault}
      {success : Bool}
      {backup : Option Path}
      {script third : Option (List UInt8)}
      (hThird : leftOfThird none writeFault =
        some (success, backup, script, third)) :
      ∃ after result,
        empty.applyFix (takenStamps none writeFault)
            (singleFinding "a" "b") = .ok (after, result) ∧
          result.success = success ∧
          empty.Accounts (takenStamps none writeFault) after
            (singleFinding "a" "b") result := by
    rcases of_leftOfThird hThird with
      ⟨after, result, hFix, hSuccess, _⟩
    have hRule : ∀ content,
        (takenStamps none writeFault).tree.readExact
            (singleFinding "a" "b").file = .ok content →
          ∃ text, empty.migrate (singleFinding "a" "b")
            content = .ok text :=
      fun content _ => ⟨_, rfl⟩
    rcases applyFix_accounts hRule with
      ⟨_, _, hStop⟩ | ⟨_, _, _, hStop⟩ |
        ⟨_, _, _, hOther, _, _, hAll⟩
    · rw [hFix] at hStop
      cases hStop
    · rw [hFix] at hStop
      cases hStop
    · rw [hFix] at hOther
      cases hOther
      exact ⟨after, result, hFix, hSuccess, hAll⟩
  have hFixed : leftOfThird none none =
      some (true, some (.parse "/p/build.gradle.backup.9"),
        some [98, 98], some [97, 98]) := by
    decide +kernel
  have hSaved :
      leftOfThird none (some (.closed "no permission")) =
        some (false, some (.parse "/p/build.gradle.backup.9"),
          some [97, 98], some [97, 98]) := by
    decide +kernel
  exact ⟨hAccounts hFixed, hAccounts hSaved⟩

/- A fix stops at a path that is too long as a whole. -/
theorem applyFix_of_tooLong
    {registry : Registry}
    {workspace : Workspace}
    {finding : Finding}
    (hAuto : finding.autoFixable = true)
    (hClean : finding.file.hasNull = false)
    (hLong : maxPathBytes < finding.file.byteSize) :
    registry.applyFix workspace finding =
      .error (.file (.system .nameTooLong finding.file)) :=
  applyFix_of_isFile_eq_error hAuto hClean
    (FileTree.isFile_of_tooLong hClean hLong)

/- A path of short names that is too long as a whole. -/
def longFile : Path where
  anchoring := .slash
  parts := List.replicate 2050 Workspace.singleProject

/- Equal letters with slashes between them. -/
theorem length_intercalate_replicate
    (c : Char)
    (n : Nat) :
    (['/'].intercalate
      (List.replicate (n + 1) [c])).length = 2 * n + 1 := by
  induction n with
  | zero => rfl
  | succ n ih =>
      rw [List.replicate_succ] at ih
      rw [List.replicate_succ, List.replicate_succ]
      simp only [List.intercalate, List.intersperse,
        List.flatten_cons, List.length_append] at ih ⊢
      rw [ih]
      simp only [List.length_singleton]
      omega

theorem longFile_isTooLong :
    maxPathBytes < longFile.byteSize := by
  have hAnchored :
      ¬ (longFile.anchoring = .relative ∧
        longFile.parts = []) := by
    rintro ⟨hRelative, _⟩
    cases hRelative
  have hLetters : Path.letters longFile.parts =
      List.replicate (2049 + 1) ['p'] := by
    simp only [Path.letters, longFile, List.map_replicate]
    rfl
  have hPrint := Path.toList_print_of_ne hAnchored
  have hBytes := Utf8.length_le_encode longFile.print.toList
  rw [hLetters] at hPrint
  unfold Path.byteSize maxPathBytes
  rw [hPrint, List.length_append,
    length_intercalate_replicate] at hBytes
  rw [hPrint]
  omega

/-
  A fix that fails may leave parts: an emptied script beside
  its backup, or a part of a backup that it does not tell of.
  And it may stop at a path whose names all fit.
-/
theorem applyFix_leaves_parts :
    (∃ after result,
      empty.applyFix
          (takenStamps none (some (.cut "disk full" 0)))
          (singleFinding "a" "b") = .ok (after, result) ∧
        result.success = false ∧
        result.backup? =
          some (.parse "/p/build.gradle.backup.9") ∧
        after.tree.read (.parse "/p/build.gradle") =
          .ok []) ∧
      (∃ after result,
        empty.applyFix
            (takenStamps (some (.cut "disk full" 1)) none)
            (singleFinding "a" "b") = .ok (after, result) ∧
          result.success = false ∧ result.backup? = none ∧
          after.tree.read
              (.parse "/p/build.gradle.backup.9") =
            .ok [97]) ∧
      (∀ name ∈ longFile.parts, name.Fits) ∧
      empty.applyFix (takenStamps none none)
          { singleFinding "a" "b" with file := longFile } =
        .error (.file (.system .nameTooLong longFile)) := by
  have hEmptied :
      leftOfThird none (some (.cut "disk full" 0)) =
        some (false, some (.parse "/p/build.gradle.backup.9"),
          some [], some [97, 98]) := by
    decide +kernel
  have hBegun :
      leftOfThird (some (.cut "disk full" 1)) none =
        some (false, none, some [97, 98], some [97]) := by
    decide +kernel
  refine ⟨?_, ?_, ?_, ?_⟩
  · rcases of_leftOfThird hEmptied with
      ⟨after, result, hFix, hSuccess, hBackup, hScript, _⟩
    exact ⟨after, result, hFix, hSuccess, hBackup,
      toOption_eq_some_iff.mp hScript⟩
  · rcases of_leftOfThird hBegun with
      ⟨after, result, hFix, hSuccess, hBackup, _, hThird⟩
    exact ⟨after, result, hFix, hSuccess, hBackup,
      toOption_eq_some_iff.mp hThird⟩
  · intro name hName
    rw [List.eq_of_mem_replicate hName]
    exact Or.inr (by decide)
  · have hClean : longFile.hasNull = false := by
      rw [Path.hasNull, List.any_eq_false]
      intro name hName
      rw [List.eq_of_mem_replicate hName]
      decide
    exact applyFix_of_tooLong rfl hClean longFile_isTooLong

end Registry

end GradleMigration
