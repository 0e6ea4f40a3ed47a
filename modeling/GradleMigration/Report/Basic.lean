import GradleMigration.File.Path
import GradleMigration.Report.ModuleSet
import GradleMigration.Rule.Severity

/-
  Findings and reports.

  Key definitions include:
    * `Occurrence`
    * `Finding`
    * `Report`
    * `Report.total`
    * `Report.critical`
    * `Report.autoFixable`
    * `Report.get`
    * `Report.remove`

  The counts of a report are those of its findings.
-/

------------------------------------------------------------
-- Findings
------------------------------------------------------------

namespace GradleMigration

/- A deprecated construct in a script. -/
structure Occurrence where
  ruleId : String
  severity : Severity
  title : String
  description : String
  file : Path
  line : Int
  matched : String
  explanation : String
  suggestedFix : String
  autoFixable : Bool
  modules : ModuleSet
deriving DecidableEq, Repr

/- An occurrence that can be asked for by an id. -/
structure Finding extends Occurrence where
  id : String
deriving DecidableEq, Repr

end GradleMigration

------------------------------------------------------------
-- Reports
------------------------------------------------------------

namespace GradleMigration

/- What an analysis of a project has found. -/
structure Report where
  project : Path
  name : String
  version : String
  multiModule : Bool
  modules : List String
  findings : List Finding
  skipped : List Path
deriving DecidableEq, Repr

namespace Report

/- The number of findings. -/
def total
    (report : Report) : Nat :=
  report.findings.length

/- The number of critical findings. -/
def critical
    (report : Report) : Nat :=
  report.findings.countP (·.severity = .critical)

/- The number of findings that can be fixed automatically. -/
def autoFixable
    (report : Report) : Nat :=
  report.findings.countP (·.autoFixable)

/- The last finding with an id. -/
def find?
    (report : Report)
    (id : String) : Option Finding :=
  report.findings.reverse.find? (·.id == id)

/- The findings with some ids, in the order of the ids. -/
def get
    (report : Report)
    (ids : List String) : List Finding :=
  ids.filterMap report.find?

/- The report without the findings that have some ids. -/
def remove
    (report : Report)
    (ids : List String) : Report :=
  { report with
    findings := report.findings.filter fun finding =>
      !ids.contains finding.id }

/- How many findings a smaller report has lost. -/
def removedFrom
    (smaller report : Report) : Nat :=
  report.total - smaller.total

end Report

end GradleMigration
