import GradleMigration.Data.Schema
import GradleMigration.JsonText.Printer
import GradleMigration.JsonText.Reader
import GradleMigration.Report.Outcome

/-
  Reports and batches as data.

  Key definitions include:
    * `Finding.toDatum`
    * `Report.toDatum`
    * `Report.print`
    * `Finding.check`
    * `Report.check`
    * `Report.parse`
    * `Batch.print`

  The counts in a saved report are checked and then left
  aside: those of the findings count.
-/

------------------------------------------------------------
-- Writing
------------------------------------------------------------

namespace GradleMigration

/- Texts as data. -/
def Datum.texts
    (values : List String) : Datum :=
  .list (values.map Datum.text)

/- A text as data, nothing where there is none. -/
def Datum.text? : Option String → Datum
| none => .null
| some value => .text value

/- A count as data. -/
def Datum.count
    (n : Nat) : Datum :=
  .int n

/- The entries for an occurrence. -/
def Occurrence.toTable
    (occurrence : Occurrence) : Table :=
  [ ("rule_id", .text occurrence.ruleId),
    ("severity", .text occurrence.severity.name),
    ("title", .text occurrence.title),
    ("description", .text occurrence.description),
    ("file_path", .text occurrence.file.print),
    ("line_number", .int occurrence.line),
    ("matched_text", .text occurrence.matched),
    ("explanation", .text occurrence.explanation),
    ("suggested_fix", .text occurrence.suggestedFix),
    ("auto_fixable", .bool occurrence.autoFixable),
    ("affected_modules", .texts occurrence.modules.names) ]

/- A finding as data. -/
def Finding.toDatum
    (finding : Finding) : Datum :=
  .table
    (("id", .text finding.id) ::
      finding.toOccurrence.toTable)

namespace Report

/- A report as data. -/
def toDatum
    (report : Report) : Datum :=
  .table
    [ ("project_path", .text report.project.print),
      ("project_name", .text report.name),
      ("gradle_version", .text report.version),
      ("multi_module", .bool report.multiModule),
      ("modules", .texts report.modules),
      ("findings", .list (report.findings.map Finding.toDatum)),
      ("skipped_files",
        .texts (report.skipped.map Path.print)),
      ("total_findings", .count report.total),
      ("critical_findings", .count report.critical),
      ("auto_fixable_findings", .count report.autoFixable) ]

/- The text of a report. -/
def print
    (report : Report) : List Char :=
  JsonText.print report.toDatum

end Report

/- A result as data. -/
def FixResult.toDatum
    (result : FixResult) : Datum :=
  .table
    [ ("finding_id", .text result.findingId),
      ("file_path", .text result.file.print),
      ("success", .bool result.success),
      ("message", .text result.message),
      ("backup_path", .text? (result.backup?.map Path.print)),
      ("original_code", .text? result.before?),
      ("fixed_code", .text? result.after?) ]

namespace Batch

/- A batch as data. -/
def toDatum
    (batch : Batch) : Datum :=
  .table
    [ ("results", .list (batch.results.map FixResult.toDatum)),
      ("total_processed", .count batch.total),
      ("success_count", .count batch.successes),
      ("failure_count", .count batch.failures) ]

/- The text of a batch. -/
def print
    (batch : Batch) : List Char :=
  JsonText.print batch.toDatum

end Batch

end GradleMigration

------------------------------------------------------------
-- Reading
------------------------------------------------------------

namespace GradleMigration

namespace Schema

/- A path. -/
def path
    (datum : Datum) : Checked Path :=
  Path.parse <$> text datum

/- A set of module names. -/
def moduleSet
    (datum : Datum) : Checked ModuleSet :=
  ModuleSet.ofList <$> listOf text datum

end Schema

namespace Finding

/- The finding with an id and the parts of an occurrence. -/
def make
    (id ruleId : String)
    (severity : Severity)
    (title description : String)
    (file : Path)
    (line : Int)
    (matched explanation suggestedFix : String)
    (autoFixable : Bool)
    (modules : ModuleSet) : Finding :=
  { ruleId, severity, title, description, file, line,
    matched, explanation, suggestedFix, autoFixable,
    modules, id }

/- The schema of a finding. -/
def check
    (table : Table) : Checked Finding :=
  make
    <$> Schema.required table "id" Schema.text
    <*> Schema.required table "rule_id" Schema.text
    <*> Schema.required table "severity" Schema.severity
    <*> Schema.required table "title" Schema.text
    <*> Schema.required table "description" Schema.text
    <*> Schema.required table "file_path" Schema.path
    <*> Schema.required table "line_number" Schema.int
    <*> Schema.required table "matched_text" Schema.text
    <*> Schema.required table "explanation" Schema.text
    <*> Schema.required table "suggested_fix" Schema.text
    <*> Schema.optional table "auto_fixable" false Schema.bool
    <*> Schema.optional table "affected_modules"
      ModuleSet.empty Schema.moduleSet

end Finding

namespace Report

/- The schema of a report. -/
def check
    (table : Table) : Checked Report :=
  (fun project name version multiModule modules findings
      skipped _ _ _ =>
    Report.mk project name version multiModule modules
      findings skipped)
    <$> Schema.required table "project_path" Schema.path
    <*> Schema.required table "project_name" Schema.text
    <*> Schema.optional table "gradle_version" "unknown"
      Schema.text
    <*> Schema.optional table "multi_module" false Schema.bool
    <*> Schema.optional table "modules" []
      (Schema.listOf Schema.text)
    <*> Schema.optional table "findings" []
      (Schema.listOf (Schema.model Finding.check))
    <*> Schema.optional table "skipped_files" []
      (Schema.listOf Schema.path)
    <*> Schema.optional table "total_findings" 0 Schema.int
    <*> Schema.optional table "critical_findings" 0 Schema.int
    <*> Schema.optional table "auto_fixable_findings" 0
      Schema.int

/- The report that a text holds. -/
def parse
    (text : List Char) : Checked Report :=
  match JsonText.parse text with
  | none => .issue .jsonInvalid
  | some datum => Schema.model check datum

/- How messages call the schema of a report. -/
def schemaName : String :=
  "ReportModel"

end Report

end GradleMigration
