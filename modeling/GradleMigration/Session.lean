import GradleMigration.Fix.Basic
import GradleMigration.Scan.Scanner

/-
  One analysis and the fixes applied against it.

  Key definitions include:
    * `Session`
    * `Session.analyze`
    * `SessionFault`
    * `Session.fix`
    * `Session.restore`
    * `Session.clear`

  A session holds the report of its last analysis, without the
  findings that have been fixed since.
-/

------------------------------------------------------------
-- Analysis
------------------------------------------------------------

namespace GradleMigration

namespace Workspace

/- Scan a project; its findings use up ids. -/
def scan
    (workspace : Workspace)
    (scanner : Scanner)
    (root : Path) : Except ScanFault (Workspace × Report) :=
  (scanner.scan workspace.tree root workspace.idName
    workspace.nextId).map fun report =>
      ({ workspace with
          nextId := workspace.nextId + report.total },
        report)

end Workspace

/- The rules in use and the report that is held. -/
structure Session where
  registry : Registry
  scanner : Scanner
  report : Option Report

namespace Session

/- Analyze the project at a given path and hold the report. -/
def analyze
    (session : Session)
    (workspace : Workspace)
    (given : Option String) :
    Except ScanFault (Session × Workspace × Report) :=
  match workspace.tree.projectRoot given with
  | .error fault => .error (.project fault)
  | .ok root =>
      match workspace.scan session.scanner root with
      | .error fault => .error fault
      | .ok (after, report) =>
          .ok ({ session with report := some report },
            after, report)

/- Forget the report. -/
def clear
    (session : Session) : Session :=
  { session with report := none }

end Session

end GradleMigration

------------------------------------------------------------
-- Fixes
------------------------------------------------------------

namespace GradleMigration

/- Why fixes are refused or come to no end. -/
inductive SessionFault where
| idsRequired
| noReport
| noMatch
| stopped (stop : FixStop)
deriving Repr

/- The wording of a fault. -/
def SessionFault.message : SessionFault → String
| .idsRequired => "Finding IDs are required"
| .noReport => "No project analysis found in session"
| .noMatch => "No matching findings found"
| .stopped stop => stop.message

namespace Session

/- The findings that are asked for; empty ids do not count. -/
def select
    (session : Session)
    (ids : List String) :
    Except SessionFault (Report × List Finding) :=
  let wanted := ids.filter (· != "")
  if wanted.isEmpty then
    .error .idsRequired
  else
    match session.report with
    | none => .error .noReport
    | some report =>
        let findings := report.get wanted
        if findings.isEmpty then
          .error .noMatch
        else
          .ok (report, findings)

/-
  Fix the findings with some ids and drop those that have been
  fixed from the report.
-/
def fix
    (session : Session)
    (workspace : Workspace)
    (ids : List String) :
    Session × Workspace × Except SessionFault Batch :=
  match session.select ids with
  | .error fault => (session, workspace, .error fault)
  | .ok (report, findings) =>
      match session.registry.applyBatch workspace findings with
      | (after, .error stop) =>
          (session, after, .error (.stopped stop))
      | (after, .ok batch) =>
          ({ session with
              report := some (report.discardFixed batch) },
            after, .ok batch)

/- Undo a fix by its backup; the answer says if it was done. -/
def restore
    (workspace : Workspace)
    (result : FixResult) :
    Except BackupFault (Workspace × Bool) :=
  match result.backup? with
  | none => .ok (workspace, false)
  | some backup =>
      (workspace.tree.restore backup (some result.file)
          workspace.copyFault).map
        fun (tree, done) =>
          ({ workspace with tree := tree }, done)

end Session

end GradleMigration
