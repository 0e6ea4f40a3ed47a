import GradleMigration.Backup.Basic
import GradleMigration.File.Reading
import GradleMigration.Report.Basic

/-
  What came of fixing findings.

  Key definitions include:
    * `FixFault`
    * `FixFault.message`
    * `FixOutcome`
    * `FixResult`
    * `Batch`
    * `Report.discardFixed`
-/

------------------------------------------------------------
-- Outcomes
------------------------------------------------------------

namespace GradleMigration

/-
  Why a finding is not fixed.  Only when writing fails has a
  backup been made.
-/
inductive FixFault where
| notFixable
| noFile (file : Path)
| unreadable (fault : ReadFault)
| unchanged
| noBackup (fault : BackupFault)
| notWritten (backup : Path) (fault : FileFault)
deriving DecidableEq, Repr

/- The wording of a fault. -/
def FixFault.message : FixFault → String
| .notFixable =>
    "This issue is not auto-fixable and requires " ++
      "manual intervention."
| .noFile file => s!"File not found: {file.print}"
| .unreadable fault =>
    s!"Error applying fix: {fault.message}"
| .unchanged =>
    "No changes were made. " ++
      "The pattern might have already been fixed."
| .noBackup fault => s!"Error applying fix: {fault.message}"
| .notWritten _ fault =>
    s!"Error applying fix: {fault.message}"

/-
  A file that has been fixed, with its backup and the text
  before and after, or why not.
-/
inductive FixOutcome where
| fixed (backup : Path) (before after : String)
| failed (fault : FixFault)
deriving DecidableEq, Repr

/- What came of fixing one finding. -/
structure FixResult where
  findingId : String
  file : Path
  outcome : FixOutcome
deriving DecidableEq, Repr

namespace FixResult

/- Whether the file has been fixed. -/
def success
    (result : FixResult) : Bool :=
  match result.outcome with
  | .fixed .. => true
  | .failed _ => false

/- What is said about the result. -/
def message
    (result : FixResult) : String :=
  match result.outcome with
  | .fixed .. =>
      s!"Successfully applied fix to {result.file.name}"
  | .failed fault => fault.message

/- The backup that has been made. -/
def backup?
    (result : FixResult) : Option Path :=
  match result.outcome with
  | .fixed backup _ _ => some backup
  | .failed (.notWritten backup _) => some backup
  | .failed _ => none

/- The text that has been fixed. -/
def before?
    (result : FixResult) : Option String :=
  match result.outcome with
  | .fixed _ before _ => some before
  | .failed _ => none

/- What it has been fixed to. -/
def after?
    (result : FixResult) : Option String :=
  match result.outcome with
  | .fixed _ _ after => some after
  | .failed _ => none

end FixResult

end GradleMigration

------------------------------------------------------------
-- Batches
------------------------------------------------------------

namespace GradleMigration

/- What came of fixing several findings. -/
structure Batch where
  results : List FixResult
deriving DecidableEq, Repr

namespace Batch

/- The number of findings. -/
def total
    (batch : Batch) : Nat :=
  batch.results.length

/- The number of findings that have been fixed. -/
def successes
    (batch : Batch) : Nat :=
  batch.results.countP (·.success)

/- The number of findings that have not been fixed. -/
def failures
    (batch : Batch) : Nat :=
  batch.total - batch.successes

/- The ids of the findings that have been fixed. -/
def fixedIds
    (batch : Batch) : List String :=
  (batch.results.filter (·.success)).map (·.findingId)

end Batch

/- The report without what a batch has fixed. -/
def Report.discardFixed
    (report : Report)
    (batch : Batch) : Report :=
  report.remove batch.fixedIds

end GradleMigration
