import GradleMigration.Command.Arguments
import GradleMigration.Command.Result
import GradleMigration.Rule.Builtin

/-
  Running commands.

  Key definitions include:
    * `Workspace.analyzeCommand`
    * `Workspace.fixCommand`
    * `Workspace.restoreCommand`
    * `Workspace.rulesCommand`
    * `Workspace.run`

  A command works on a workspace and leaves the workspace that
  its files and ids are in afterwards.  The number of workers
  changes no result.
-/

------------------------------------------------------------
-- Rules in Use
------------------------------------------------------------

namespace GradleMigration

/-
  The configuration file to use: the given one, or the one of
  the project.
-/
def Config.fileFor
    (given project : Option Path) : Option Path :=
  match given, project with
  | some file, _ => some file
  | none, some project =>
      some (project.child Config.fileName)
  | none, none => none

namespace Workspace

/- The settings of a configuration file. -/
def config
    (workspace : Workspace)
    (file : Option Path) : Except CommandFault Config :=
  (workspace.tree.config file).mapError .config

/- The rules of a configuration: its own file or the usual. -/
def registry
    (workspace : Workspace)
    (config : Config) : Except CommandFault Registry :=
  match config.rulesFile with
  | none => .ok .builtin
  | some file =>
      match workspace.tree.read file with
      | .error fault => .error (.read (.file fault))
      | .ok bytes =>
          (Registry.ofBytes file.print bytes).mapError .catalog

/- The root of the project that a path means. -/
def projectRoot
    (workspace : Workspace)
    (path : Path) : Except CommandFault Path :=
  let root : Except ProjectFault Path :=
    if path.hasNull then
      .error (.file (.system .nullInPath path))
    else
      workspace.tree.projectRoot
        (workspace.tree.directory.resolve path).print
  root.mapError fun fault => .scan (.project fault)

/- Scan a project on behalf of a command. -/
def scanProject
    (workspace : Workspace)
    (scanner : Scanner)
    (root : Path) :
    Except CommandFault (Workspace × Report) :=
  (workspace.scan scanner root).mapError .scan

end Workspace

/- The scanner of a configuration. -/
def Config.scanner
    (config : Config)
    (registry : Registry) : Scanner :=
  { rules := config.rules registry
    excludes := config.excludes }

/- A path as it is shown: from the root where it lies below. -/
def Path.shownFrom
    (path root : Path) : String :=
  match path.relativeTo root with
  | some names => (Path.mk .relative names).print
  | none => path.print

end GradleMigration

------------------------------------------------------------
-- Analyzing
------------------------------------------------------------

namespace GradleMigration

namespace Report

/- The line for a finding. -/
def findingLine
    (report : Report)
    (finding : Finding) : String :=
  let shown := finding.file.shownFrom report.project
  s!"{finding.severity.name}: {shown}:{finding.line} " ++
    s!"[{finding.ruleId}] - {finding.title}"

/- The lines of a report down to a severity. -/
def lines
    (report : Report)
    (least : Severity) : List String :=
  let reported := report.findings.filter fun finding =>
    decide (least.rank ≤ finding.severity.rank)
  let heading :=
    s!"Project: {report.name} (Gradle {report.version})"
  let modules :=
    if report.multiModule then
      ["Modules: " ++ ", ".intercalate report.modules]
    else
      []
  let skipped := report.skipped.map fun file =>
    "Skipped unreadable file: " ++
      file.shownFrom report.project
  let counts :=
    s!"Total findings: {report.total} " ++
      s!"({reported.length} reported, " ++
      s!"{report.critical} critical, " ++
      s!"{report.autoFixable} auto-fixable)"
  [heading] ++ modules ++
    reported.map report.findingLine ++ skipped ++
    ["", counts]

end Report

namespace Workspace

/- The report that `analyze` makes. -/
def analyzeProject
    (workspace : Workspace)
    (options : AnalyzeOptions)
    (config : Config) :
    Except CommandFault (Workspace × Report) := do
  let root ← workspace.projectRoot options.project
  let registry ← workspace.registry config
  workspace.scanProject (config.scanner registry) root

/- Write a report to a file, where one is asked for. -/
def saveReport
    (workspace : Workspace)
    (report : Report) :
    Option Path → Except CommandFault Workspace
| none => .ok workspace
| some file =>
    match workspace.tree.write file
        (Utf8.encode report.print) with
    | .error fault => .error (.read (.file fault))
    | .ok tree => .ok { workspace with tree := tree }

/- Scan a project and report what is found. -/
def analyzeCommand
    (workspace : Workspace)
    (options : AnalyzeOptions) : Workspace × CommandResult :=
  let file :=
    Config.fileFor options.config (some options.project)
  match workspace.config file with
  | .error fault => (workspace, .passOn fault)
  | .ok config =>
      match workspace.analyzeProject options config with
      | .error fault => (workspace, .ofFault fault)
      | .ok (scanned, report) =>
          match scanned.saveReport report options.output with
          | .error fault => (scanned, .passOn fault)
          | .ok saved =>
              let lines :=
                if options.json then
                  [String.ofList report.print]
                else
                  report.lines options.severity
              let exit := if 0 < report.critical then 1 else 0
              (saved, .printed exit lines)

end Workspace

end GradleMigration

------------------------------------------------------------
-- Fixing
------------------------------------------------------------

namespace GradleMigration

/- Whether two findings lead to the same fix. -/
def Finding.sameFix
    (a b : Finding) : Bool :=
  a.file.print == b.file.print && a.ruleId == b.ruleId

/- The first finding of every file and rule. -/
def onePerFix : List Finding → List Finding
| [] => []
| finding :: rest =>
    finding ::
      (onePerFix rest).filter (!finding.sameFix ·)

namespace Batch

/- The line for a result. -/
def resultLine
    (root : Path)
    (result : FixResult) : String :=
  let status := if result.success then "FIXED" else "FAILED"
  let shown := result.file.shownFrom root
  let backup :=
    match result.backup? with
    | none => ""
    | some backup => s!" (backup: {backup.name})"
  s!"{status}: {shown} - {result.message}{backup}"

/- The lines of a batch. -/
def lines
    (batch : Batch)
    (root : Path) : List String :=
  batch.results.map (resultLine root) ++
    ["", s!"Processed {batch.total}: " ++
      s!"{batch.successes} fixed, {batch.failures} failed"]

end Batch

/- What `fix` has done: nothing, or a batch below a root. -/
inductive FixWork where
| nothing
| done (root : Path) (batch : Batch)
deriving Repr

namespace Workspace

/- The report that a file holds. -/
def loadReport
    (workspace : Workspace)
    (file : Path) : Except CommandFault Report :=
  match workspace.tree.readText file with
  | .error fault => .error (.read fault)
  | .ok text =>
      match Report.parse text with
      | .bad issues => .error (.report issues)
      | .good report => .ok report

/-
  Fix findings of a saved report; the file keeps those that
  are still open.
-/
def fixSaved
    (workspace : Workspace)
    (registry : Registry)
    (scanner : Scanner)
    (file : Path)
    (ids : List String) :
    Workspace × Except CommandFault FixWork :=
  match workspace.loadReport file with
  | .error fault => (workspace, .error fault)
  | .ok report =>
      let session : Session :=
        ⟨registry, scanner, some report⟩
      match session.fix workspace ids with
      | (_, after, .error fault) =>
          (after, .error (.session fault))
      | (fixed, after, .ok batch) =>
          let left := fixed.report.getD report
          match after.saveReport left (some file) with
          | .error fault => (after, .error fault)
          | .ok saved =>
              (saved, .ok (.done left.project batch))

/- The findings of a report that `fix` takes on. -/
def fixable
    (report : Report)
    (rules : List String) : List Finding :=
  let wanted := rules.map Text.upperText
  onePerFix (report.findings.filter fun finding =>
    finding.autoFixable &&
      (rules.isEmpty || wanted.contains finding.ruleId))

/- Scan a project and fix what can be fixed. -/
def fixProject
    (workspace : Workspace)
    (registry : Registry)
    (scanner : Scanner)
    (project : Path)
    (rules : List String) :
    Workspace × Except CommandFault FixWork :=
  match workspace.projectRoot project with
  | .error fault => (workspace, .error fault)
  | .ok root =>
      match workspace.scanProject scanner root with
      | .error fault => (workspace, .error fault)
      | .ok (scanned, report) =>
          let findings := fixable report rules
          if findings.isEmpty then
            (scanned, .ok .nothing)
          else
            match registry.applyBatch scanned findings with
            | (after, .error stop) =>
                (after, .error (.session (.stopped stop)))
            | (after, .ok batch) =>
                (after, .ok (.done root batch))

/- The result of what `fix` has done. -/
def fixResult
    (json : Bool) : FixWork → CommandResult
| .nothing => .printed 0 ["Nothing to fix."]
| .done root batch =>
    let lines :=
      if json then
        [String.ofList batch.print]
      else
        batch.lines root
    .printed (if 0 < batch.failures then 1 else 0) lines

/- Apply automatic fixes. -/
def fixCommand
    (workspace : Workspace)
    (options : FixOptions) : Workspace × CommandResult :=
  let file := Config.fileFor options.config options.project
  match workspace.config file with
  | .error fault => (workspace, .passOn fault)
  | .ok config =>
      match workspace.registry config with
      | .error fault => (workspace, .ofFixFault fault)
      | .ok registry =>
          let scanner := config.scanner registry
          let work :=
            match options.report, options.project with
            | some report, _ =>
                some (workspace.fixSaved registry scanner
                  report options.ids)
            | none, some project =>
                some (workspace.fixProject registry scanner
                  project options.rules)
            | none, none => none
          match work with
          | none =>
              (workspace,
                .failed 2 "Provide a project path or --report")
          | some (after, .error fault) =>
              (after, .ofFixFault fault)
          | some (after, .ok work) =>
              (after, fixResult options.json work)

end Workspace

end GradleMigration

------------------------------------------------------------
-- Restoring and Listing
------------------------------------------------------------

namespace GradleMigration

namespace Workspace

/- Restore a file from a given backup. -/
def restoreFrom
    (workspace : Workspace)
    (backup : Path)
    (given : Option Path) : Workspace × CommandResult :=
  match workspace.tree.restore backup given
      workspace.copyFault with
  | .error fault => (workspace, .passOn (.backup fault))
  | .ok (tree, false) =>
      ({ workspace with tree := tree },
        .failed 1 s!"Could not restore from {backup.print}")
  | .ok (tree, true) =>
      let target :=
        match given, Backup.owner backup with
        | some path, _ => path.print
        | none, .ok (some path) => path.print
        | none, _ => ""
      ({ workspace with tree := tree },
        .printed 0
          [s!"Restored {target} from {backup.name}"])

/-
  Roll a file back: from the given backup, or from the newest
  backup of the given file.
-/
def restoreCommand
    (workspace : Workspace)
    (path : Path)
    (given : Option Path) : Workspace × CommandResult :=
  match Backup.owner path with
  | .error fault =>
      (workspace, .passOn (.backup (.name fault)))
  | .ok (some _) => workspace.restoreFrom path given
  | .ok none =>
      match workspace.tree.backups path with
      | .error fault => (workspace, .passOn (.backup fault))
      | .ok [] =>
          (workspace,
            .failed 1 s!"No backups found for {path.print}")
      | .ok (newest :: _) =>
          workspace.restoreFrom newest
            (some (given.getD path))

/- A text with blanks behind it up to a width. -/
def padded
    (width : Nat)
    (text : String) : String :=
  text ++ String.ofList
    (List.replicate (width - text.length) ' ')

/- The line for a rule. -/
def ruleLine
    (enabled : List Rule)
    (rule : Rule) : String :=
  let mode := if rule.autoFixable then "auto-fix" else "manual"
  let marker :=
    if enabled.any (·.id == rule.id) then ""
    else " (disabled)"
  s!"{padded 30 rule.id} {padded 9 rule.severity.name} " ++
    s!"{padded 9 mode} {rule.title}{marker}"

/- List the rules. -/
def rulesCommand
    (workspace : Workspace)
    (file : Option Path) : CommandResult :=
  match workspace.config file with
  | .error fault => .passOn fault
  | .ok config =>
      match workspace.registry config with
      | .error fault => .ofFault fault
      | .ok registry =>
          let enabled := config.rules registry
          .printed 0 (registry.rules.map (ruleLine enabled))

/- Run the command that a command line gives. -/
def run
    (workspace : Workspace)
    (texts : List String) : Workspace × CommandResult :=
  match Command.parse texts with
  | none => (workspace, .usage)
  | some (.analyze options) => workspace.analyzeCommand options
  | some (.fix options) => workspace.fixCommand options
  | some (.restore path target) =>
      workspace.restoreCommand path target
  | some (.rules file) => (workspace, workspace.rulesCommand file)

end Workspace

end GradleMigration
