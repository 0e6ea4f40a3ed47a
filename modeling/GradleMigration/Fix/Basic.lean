import GradleMigration.Report.Outcome
import GradleMigration.Rule.Registry
import GradleMigration.Workspace

/-
  Fixing findings, one whole file per finding.

  Key definitions include:
    * `Registry.migrate`
    * `Workspace.backUp`
    * `Workspace.replaceScript`
    * `Registry.applyFix`
    * `Registry.applyFixes`

  A file is written only when its backup has been made, and
  only when the fix changes it.
-/

------------------------------------------------------------
-- New Texts
------------------------------------------------------------

namespace GradleMigration

/- What stops a fix without a result. -/
inductive FixStop where
| file (fault : FileFault)
| template (fault : TemplateFault)
deriving Repr

/- The wording of a stop. -/
def FixStop.message : FixStop → String
| .file fault => fault.message
| .template fault => fault.message

namespace Registry

/-
  The text of a script after a finding has been fixed.  For an
  unknown rule the first place that holds the matched text
  gets the suggested one.
-/
def migrate
    (registry : Registry)
    (finding : Finding)
    (content : List Char) :
    Except TemplateFault (List Char) :=
  match registry.get? finding.ruleId with
  | some rule => rule.transform content
  | none =>
      if finding.matched = "" then
        .ok content
      else
        .ok (Text.replaceFirst finding.matched.toList
          finding.suggestedFix.toList content)

end Registry

end GradleMigration

------------------------------------------------------------
-- One Finding
------------------------------------------------------------

namespace GradleMigration

namespace Workspace

/-
  Back a file up and give the path of its backup.  Where the
  copy is cut off, what there is of it stays.
-/
def backUp
    (workspace : Workspace)
    (path : Path) : Workspace × Except BackupFault Path :=
  match workspace.tree.snapshot path workspace.time with
  | .error fault => (workspace, .error fault)
  | .ok (tree, backup) =>
      match workspace.copyFault with
      | none => (workspace.withTree tree, .ok backup)
      | some fault =>
          (workspace.withTree
              (workspace.tree.leftBy tree backup fault),
            .error (.file (.denied fault.message)))

/-
  Back a script up and write its new text.  When writing fails
  the backup stays.
-/
def replaceScript
    (workspace : Workspace)
    (finding : Finding)
    (text : List Char) : Workspace × FixOutcome :=
  match workspace.backUp finding.file with
  | (left, .error fault) => (left, .failed (.noBackup fault))
  | (backed, .ok backup) =>
      match backed.writeScript finding.file text with
      | (left, some fault) =>
          (left, .failed (.notWritten backup fault))
      | (written, none) =>
          (written,
            .fixed backup finding.matched
              finding.suggestedFix)

end Workspace

namespace Registry

/-
  Fix one finding that can be fixed automatically.  Its path
  is resolved first, which a null character does not allow.
-/
def fixFile
    (registry : Registry)
    (workspace : Workspace)
    (finding : Finding) :
    Except FixStop (Workspace × FixOutcome) :=
  if finding.file.hasNull then
    .error (.file (.system .nullInPath finding.file))
  else
    match workspace.tree.isFile finding.file with
    | .error fault => .error (.file fault)
    | .ok false =>
        .ok (workspace, .failed (.noFile finding.file))
    | .ok true =>
        match workspace.tree.readExact finding.file with
        | .error fault =>
            .ok (workspace, .failed (.unreadable fault))
        | .ok content =>
            match registry.migrate finding content with
            | .error fault => .error (.template fault)
            | .ok text =>
                if text = content then
                  .ok (workspace, .failed .unchanged)
                else
                  .ok (workspace.replaceScript finding text)

/- Fix one finding. -/
def applyFix
    (registry : Registry)
    (workspace : Workspace)
    (finding : Finding) :
    Except FixStop (Workspace × FixResult) :=
  let fixed : Except FixStop (Workspace × FixOutcome) :=
    if finding.autoFixable then
      registry.fixFile workspace finding
    else
      .ok (workspace, .failed .notFixable)
  fixed.map fun (after, outcome) =>
    (after, ⟨finding.id, finding.file, outcome⟩)

end Registry

end GradleMigration

------------------------------------------------------------
-- Several Findings
------------------------------------------------------------

namespace GradleMigration

namespace Registry

/-
  Fix findings one after another.  When one of them stops, the
  workspace is as the earlier ones have left it.
-/
def applyFixes
    (registry : Registry)
    (workspace : Workspace) :
    List Finding → Workspace × Except FixStop (List FixResult)
| [] => (workspace, .ok [])
| finding :: findings =>
    match registry.applyFix workspace finding with
    | .error stop => (workspace, .error stop)
    | .ok (after, result) =>
        let (last, rest) :=
          applyFixes registry after findings
        (last, rest.map (result :: ·))

/- What came of fixing findings one after another. -/
def applyBatch
    (registry : Registry)
    (workspace : Workspace)
    (findings : List Finding) :
    Workspace × Except FixStop Batch :=
  let (after, results) :=
    registry.applyFixes workspace findings
  (after, results.map Batch.mk)

end Registry

end GradleMigration
