import GradleMigration.Proofs.Fix.Writing

/-
  What one fix does to a file that can be read: it is left
  alone when its text does not change, and otherwise backed up
  and rewritten, unless the file system objects.

  Main declarations:
    * `FixResult.isSystemFault`
    * `Workspace.Rewrites`
    * `Workspace.Objects`
    * `Workspace.replaceScript_cases`
    * `Registry.Changeable`
    * `Registry.Exit` and `Registry.exit_of_applyFix`
    * `Registry.FixStep`
    * `Registry.fixStep_of_applyFix`
    * `Registry.changes_of_applyFix`
-/

------------------------------------------------------------
-- Rewriting a Script
------------------------------------------------------------

namespace GradleMigration

/- Whether the file system has kept a fix from being made. -/
def FixOutcome.isSystemFault : FixOutcome → Bool
| .failed (.unreadable (.file _)) => true
| .failed (.noBackup (.file _)) => true
| .failed (.notWritten _ _) => true
| _ => false

/- Whether a result tells of an objection of the file system. -/
def FixResult.isSystemFault
    (result : FixResult) : Bool :=
  result.outcome.isSystemFault

namespace Workspace

/-
  A file has got a new text, and a new sibling of it holds its
  old bytes.
-/
structure Rewrites
    (before after : Workspace)
    (file : Path)
    (location : Location)
    (bytes : List UInt8)
    (text : List Char)
    (backup : Path)
    (copy : Location) : Prop where
  named : ∃ stamp,
    file.withName (Backup.nameFor file.name stamp) = .ok backup
  place : before.tree.locate backup = .ok copy
  changes :
    before.tree.Changes after.tree [location] [copy]
  holds :
    after.tree.Holds file location (Utf8.encode text) text
  saved : after.tree.get? copy = some (.file bytes)

/- A script that is backed up and then written is rewritten. -/
theorem rewrites_of_snapshot
    {before : Workspace}
    {file backup : Path}
    {location copy : Location}
    {bytes : List UInt8}
    {content : List Char}
    {backed : FileTree}
    (hHolds : before.tree.Holds file location bytes content)
    (hSaved :
      before.tree.Snapshot file backed backup copy bytes)
    (text : List Char) :
    before.Rewrites
      (before.withTree
        (backed.set location (.file (Utf8.encode text))))
      file location bytes text backup copy := by
  have hBacked :=
    hSaved.changes.holds hHolds List.not_mem_nil
  have hChanges := hSaved.changes_setUnder hHolds.entry
    (Utf8.encode text) none
  exact
    { named := hSaved.named
      place := hSaved.place
      changes := hChanges
      holds :=
        { place := FileTree.locate_of_sameDirectories
            hChanges.sameDirectories hHolds.place
          entry := FileTree.get?_set_self hBacked.not_directory _
          text := Utf8.decode_encode text }
      saved := hSaved.get?_copy_setUnder hHolds.entry
        (Utf8.encode text) none }

/-
  The file system objects to the change of a file: copying or
  writing ends with a fault, or the file cannot be backed up.
-/
def Objects
    (workspace : Workspace)
    (file : Path) : Prop :=
  workspace.copyFault ≠ none ∨ workspace.writeFault ≠ none ∨
    ∃ fault,
      workspace.tree.snapshot file workspace.time =
        .error (.file fault)

/- Replacing a script rewrites it if nothing gets in the way. -/
theorem replaceScript_cases
    {workspace : Workspace}
    {finding : Finding}
    (hParts : finding.file.parts ≠ [])
    {location : Location}
    {bytes : List UInt8}
    {content : List Char}
    (hHolds :
      workspace.tree.Holds finding.file location bytes content)
    (text : List Char) :
    (workspace.Objects finding.file ∧
        (workspace.replaceScript finding text).2.isSystemFault =
          true) ∨
      ∃ after backup copy,
        workspace.replaceScript finding text =
          (after, .fixed backup finding.matched
            finding.suggestedFix) ∧
        workspace.Rewrites after finding.file location bytes
          text backup copy := by
  have hReplacing := replacing hHolds.place hHolds.entry text
  generalize hDone : workspace.replaceScript finding text = done
    at hReplacing
  rcases done with ⟨after, outcome⟩
  dsimp only at hReplacing
  cases hReplacing with
  | noBackup hCopy =>
      left
      cases hCopy with
      | @refused fault hFault =>
          rcases workspace.tree.snapshot_cases hParts
              workspace.time with
            ⟨_, _, _, _, hMade, _⟩ | ⟨other, hOther⟩
          · rw [hMade] at hFault
            cases hFault
          · rw [hOther] at hFault
            cases hFault
            exact ⟨Or.inr (Or.inr ⟨other, hOther⟩), rfl⟩
      | failed _ _ hFault =>
          exact ⟨Or.inl (by simp [hFault]), rfl⟩
  | notWritten _ _ _ hWrite =>
      exact Or.inl ⟨Or.inr (Or.inl (by simp [hWrite])), rfl⟩
  | @written backed backup copy _ hSaved =>
      exact Or.inr ⟨_, backup, copy, rfl,
        rewrites_of_snapshot hHolds hSaved text⟩

end Workspace

end GradleMigration

------------------------------------------------------------
-- Stages
------------------------------------------------------------

namespace GradleMigration

namespace Registry

/-
  A finding that may be fixed is in a file that holds a text,
  and its rule makes another text of that.
-/
structure Changeable
    (registry : Registry)
    (workspace : Workspace)
    (finding : Finding)
    (location : Location)
    (bytes : List UInt8)
    (content text : List Char) : Prop where
  auto : finding.autoFixable = true
  holds :
    workspace.tree.Holds finding.file location bytes content
  migrated : registry.migrate finding content = .ok text
  differs : text ≠ content

/-
  How the fix of a finding can end, with what it leaves and
  what it tells: one case for each stage before the script is
  replaced, in their order, and one for replacing it.
-/
inductive Exit
    (registry : Registry)
    (before : Workspace)
    (finding : Finding) : Workspace → FixOutcome → Prop
| notFixable
    (hAuto : finding.autoFixable = false) :
    Exit registry before finding before
      (.failed .notFixable)
| noFile
    (hFile : before.tree.isFile finding.file = .ok false) :
    Exit registry before finding before
      (.failed (.noFile finding.file))
| unreadable
    {fault : ReadFault}
    (hRead : before.tree.readExact finding.file =
      .error fault) :
    Exit registry before finding before
      (.failed (.unreadable fault))
| unchanged
    {content : List Char}
    (hRead : before.tree.readExact finding.file = .ok content)
    (hText : registry.migrate finding content = .ok content) :
    Exit registry before finding before
      (.failed .unchanged)
| replaced
    {location : Location}
    {bytes : List UInt8}
    {content text : List Char}
    {after : Workspace}
    {outcome : FixOutcome}
    (hChange : registry.Changeable before finding location
      bytes content text)
    (hReplaced : before.Replacing finding location bytes text
      after outcome) :
    Exit registry before finding after outcome

/- Every fix that comes to a result ends in one of these. -/
theorem exit_of_applyFix
    {registry : Registry}
    {workspace after : Workspace}
    {finding : Finding}
    {result : FixResult}
    (h : registry.applyFix workspace finding =
      .ok (after, result)) :
    result.findingId = finding.id ∧
      result.file = finding.file ∧
      registry.Exit workspace finding after result.outcome := by
  unfold applyFix at h
  rcases map_eq_ok_iff.mp h with ⟨⟨last, outcome⟩, hFix, hIs⟩
  cases hIs
  refine ⟨rfl, rfl, ?_⟩
  split at hFix
  · next hAuto =>
      unfold fixFile at hFix
      split at hFix
      · cases hFix
      · split at hFix
        · cases hFix
        · next hFile =>
            cases hFix
            exact .noFile hFile
        · split at hFix
          · next fault hRead =>
              cases hFix
              exact .unreadable hRead
          · next content hRead =>
              split at hFix
              · cases hFix
              · next text hText =>
                  rcases FileTree.readExact_eq_ok_iff.mp hRead
                    with ⟨location, bytes, hHolds⟩
                  split at hFix
                  · next hSame =>
                      cases hFix
                      rw [hSame] at hText
                      exact .unchanged hRead hText
                  · next hDiffers =>
                      have hReplaced := Workspace.replacing
                        hHolds.place hHolds.entry text
                      rw [Except.ok.inj hFix] at hReplaced
                      exact .replaced
                        ⟨hAuto, hHolds, hText, hDiffers⟩
                        hReplaced
  · next hAuto =>
      cases hFix
      exact .notFixable (Bool.eq_false_iff.mpr hAuto)

/- A finding that can be changed is fixed by replacing. -/
theorem Changeable.applyFix_eq
    {registry : Registry}
    {workspace : Workspace}
    {finding : Finding}
    {location : Location}
    {bytes : List UInt8}
    {content text : List Char}
    (h : registry.Changeable workspace finding location bytes
      content text) :
    registry.applyFix workspace finding =
      .ok ((workspace.replaceScript finding text).1,
        ⟨finding.id, finding.file,
          (workspace.replaceScript finding text).2⟩) := by
  have hRead := FileTree.readExact_eq_ok_iff.mpr
    ⟨location, bytes, h.holds⟩
  unfold applyFix fixFile
  simp only [h.auto, if_true, h.holds.hasNull_eq,
    Bool.false_eq_true, if_false, h.holds.isFile, hRead,
    h.migrated, if_neg h.differs]
  rfl

end Registry

end GradleMigration

------------------------------------------------------------
-- Fixing One Finding
------------------------------------------------------------

namespace GradleMigration

namespace Registry

/-
  What comes of fixing a finding, given what its file holds
  and what its rule makes of that.
-/
inductive FixStep
    (before after : Workspace)
    (file : Path)
    (location : Location)
    (bytes : List UInt8)
    (content text : List Char) : FixOutcome → Prop where
| unchanged
    (hSame : text = content)
    (hAfter : after = before) :
    FixStep before after file location bytes content text
      (.failed .unchanged)
| refused
    {outcome : FixOutcome}
    (hNe : text ≠ content)
    (hObjects : before.Objects file)
    (hFault : outcome.isSystemFault = true) :
    FixStep before after file location bytes content text
      outcome
| rewritten
    {backup : Path}
    {copy : Location}
    {old new : String}
    (hNe : text ≠ content)
    (hRewrites : before.Rewrites after file location bytes
      text backup copy) :
    FixStep before after file location bytes content text
      (.fixed backup old new)

/- A fix of a file that can be read is one of these steps. -/
theorem fixStep_of_applyFix
    {registry : Registry}
    {workspace : Workspace}
    {finding : Finding}
    {rule : Rule}
    (hAuto : finding.autoFixable = true)
    (hRule : registry.get? finding.ruleId = some rule)
    (hParts : finding.file.parts ≠ [])
    {location : Location}
    {bytes : List UInt8}
    {content text : List Char}
    (hHolds :
      workspace.tree.Holds finding.file location bytes content)
    (hText : rule.transform content = .ok text) :
    ∃ after outcome,
      registry.applyFix workspace finding =
        .ok (after, ⟨finding.id, finding.file, outcome⟩) ∧
      FixStep workspace after finding.file location bytes
        content text outcome := by
  have hRead :=
    FileTree.readExact_eq_ok_iff.mpr ⟨location, bytes, hHolds⟩
  have hMigrate : registry.migrate finding content = .ok text := by
    unfold migrate
    rw [hRule]
    exact hText
  unfold applyFix fixFile
  simp only [hAuto, if_true, hHolds.hasNull_eq,
    Bool.false_eq_true, if_false, hHolds.isFile, hRead,
    hMigrate]
  by_cases hSame : text = content
  · rw [if_pos hSame]
    exact ⟨workspace, _, rfl, .unchanged hSame rfl⟩
  · rw [if_neg hSame]
    refine ⟨_, _, rfl, ?_⟩
    rcases Workspace.replaceScript_cases hParts hHolds text with
      ⟨hObjects, hFault⟩ |
        ⟨after, backup, copy, hReplace, hRewrites⟩
    · exact .refused hSame hObjects hFault
    · rw [hReplace]
      exact .rewritten hSame hRewrites

end Registry

end GradleMigration

------------------------------------------------------------
-- What Fixes Write
------------------------------------------------------------

namespace GradleMigration

/- Backing a file up adds files only. -/
theorem Workspace.BackingUp.changes
    {before after : Workspace}
    {file : Path}
    {outcome : Except BackupFault Path}
    (h : before.BackingUp file after outcome) :
    ∃ added, before.tree.Changes after.tree [] added := by
  cases h with
  | refused _ => exact ⟨[], .refl _⟩
  | failed _ hSaved _ =>
      exact FileTree.changes_setUnder_of_none hSaved.fresh _ _
  | made _ hSaved _ => exact ⟨_, hSaved.changes⟩

namespace Registry

/- A fix adds and rewrites files only, wherever they are. -/
theorem changes_of_applyFix
    {registry : Registry}
    {workspace after : Workspace}
    {finding : Finding}
    {result : FixResult}
    (h : registry.applyFix workspace finding =
      .ok (after, result)) :
    ∃ changed added,
      workspace.tree.Changes after.tree changed added := by
  rcases result with ⟨id, file, outcome⟩
  cases (exit_of_applyFix h).2.2 with
  | replaced hChange hReplaced =>
      cases hReplaced with
      | noBackup hCopy => exact ⟨[], hCopy.changes⟩
      | notWritten _ hSaved _ _ =>
          exact ⟨_, _, hSaved.changes_setUnder
            hChange.holds.entry _ _⟩
      | written _ hSaved _ _ =>
          exact ⟨_, _, hSaved.changes_setUnder
            hChange.holds.entry _ none⟩
  | _ => exact ⟨[], [], .refl _⟩

end Registry

end GradleMigration

------------------------------------------------------------
-- A Workspace with One Script
------------------------------------------------------------

namespace GradleMigration

namespace Workspace

/- The names of a project and of its build script. -/
def singleProject : Name :=
  ⟨"p", by decide⟩

def singleScript : Name :=
  ⟨"build.gradle", by decide⟩

/- A workspace with nothing in it but one build script. -/
def single
    (script : String) : Workspace where
  tree :=
    { directory := ⟨.slash, []⟩
      entries :=
        [([singleProject], .directory),
         ([singleProject, singleScript],
          .file (Utf8.encode script.toList))]
      distinct := by simp [Entries.locations] }
  time := 1700000000000
  copyFault := none
  writeFault := none
  idName n := "finding-" ++ toString n
  nextId := 0

end Workspace

end GradleMigration
