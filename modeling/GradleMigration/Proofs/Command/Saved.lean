import GradleMigration.Proofs.Command.Failure
import GradleMigration.Proofs.Report.Named
import GradleMigration.Proofs.Session.Run

/-
  What the command `fix` does to a report that `analyze` has
  saved: a request for none of its findings changes nothing,
  and otherwise the findings that are asked for are fixed in
  turn, and the file keeps those that are still open.

  Main declarations:
    * `Workspace.loadReport_of_read`
    * `Workspace.SavedAnalysis`
    * `Workspace.SavedRequest` and `Workspace.SavedFix`
    * `Workspace.fixSaved_of_unknown`
    * `Workspace.fixSaved_of_known`
    * `Workspace.fixCommand_updates_saved_report`
-/

------------------------------------------------------------
-- Writing and Reading Again
------------------------------------------------------------

namespace GradleMigration

namespace FileTree

/- What has been written is read again. -/
theorem read_of_write
    {tree after : FileTree}
    {path : Path}
    {bytes : List UInt8}
    (h : tree.write path bytes = .ok after) :
    after.read path = .ok bytes := by
  unfold write at h
  split at h
  · cases h
  · next location hPlace =>
      split at h
      · cases h
      · next hFile =>
          cases h
          have hKept :=
            (changes_rewrite hFile bytes).sameDirectories
          exact read_eq_ok_iff.mpr
            ⟨location, locate_of_sameDirectories hKept hPlace,
              get?_set_self hFile _⟩

/- The text of a file that holds the bytes of one. -/
theorem readText_of_read
    {tree : FileTree}
    {path : Path}
    {text : List Char}
    (h : tree.read path = .ok (Utf8.encode text)) :
    tree.readText path = .ok (Text.unifyNewlines text) := by
  unfold readText readExact
  rw [h]
  dsimp only
  rw [Utf8.decode_encode]
  rfl

/- A file that can be read can be written. -/
theorem write_of_read
    {before between : FileTree}
    (hSame : before.SameDirectories between)
    {path : Path}
    {bytes : List UInt8}
    (hRead : before.read path = .ok bytes)
    (new : List UInt8) :
    ∃ after, between.write path new = .ok after := by
  rcases read_eq_ok_iff.mp hRead with ⟨location, hPlace, hFile⟩
  have hNot : between.get? location ≠ some .directory := by
    rw [Ne, hSame.directories location, hFile]
    intro hDirectory
    cases hDirectory
  unfold write
  rw [locate_of_sameDirectories hSame hPlace]
  dsimp only
  split
  · next hDirectory => exact absurd hDirectory hNot
  · exact ⟨_, rfl⟩

end FileTree

end GradleMigration

------------------------------------------------------------
-- Saving and Loading
------------------------------------------------------------

namespace GradleMigration

namespace Workspace

/- A report is loaded from a file with its text. -/
theorem loadReport_of_read
    {workspace : Workspace}
    {file : Path}
    {report : Report}
    (hStorable : report.Storable)
    (h : workspace.tree.read file =
      .ok (Utf8.encode report.print)) :
    workspace.loadReport file = .ok report := by
  unfold loadReport
  rw [FileTree.readText_of_read h]
  dsimp only
  rw [Report.parse_print hStorable.lines hStorable.total]

/-
  Saving a report to a file that could be read, after files
  have been added and rewritten.
-/
theorem saveReport_of_read
    {before between : Workspace}
    (hSame : before.tree.SameDirectories between.tree)
    {file : Path}
    {bytes : List UInt8}
    (hRead : before.tree.read file = .ok bytes)
    (report : Report) :
    ∃ after, between.saveReport report (some file) =
        .ok after ∧
      between.tree.write file (Utf8.encode report.print) =
        .ok after.tree := by
  rcases FileTree.write_of_read hSame hRead
      (Utf8.encode report.print) with
    ⟨tree, hWrite⟩
  refine ⟨{ between with tree := tree }, ?_, hWrite⟩
  simp only [saveReport, hWrite]

/- With its root and its rules known, a project is scanned. -/
theorem analyzeProject_eq
    {workspace : Workspace}
    {options : AnalyzeOptions}
    {config : Config}
    {root : Path}
    {registry : Registry}
    (hRoot : workspace.projectRoot options.project = .ok root)
    (hRegistry : workspace.registry config = .ok registry) :
    workspace.analyzeProject options config =
      workspace.scanProject (config.scanner registry) root := by
  unfold analyzeProject
  rw [hRoot, hRegistry]
  rfl

/- Without rules of its own, a configuration has the usual. -/
theorem registry_of_usual
    (workspace : Workspace)
    {config : Config}
    (h : config.rulesFile = none) :
    workspace.registry config = .ok .builtin := by
  unfold Workspace.registry
  rw [h]

/-
  A report that `analyze` has made with the rules that come
  with the program, and that the command has left in a file.
-/
structure SavedAnalysis
    (before : Workspace)
    (options : AnalyzeOptions)
    (config : Config)
    (file : Path)
    (report : Report)
    (saved : Workspace) : Prop where
  output : options.output = some file
  configured : before.config
    (Config.fileFor options.config (some options.project)) =
      .ok config
  usual : config.rulesFile = none
  analyzed : ∃ scanned,
    before.analyzeProject options config =
      .ok (scanned, report)
  ended : ∃ exit lines, before.analyzeCommand options =
    (saved, .printed exit lines)

namespace SavedAnalysis

variable {before saved : Workspace}
variable {options : AnalyzeOptions} {config : Config}
variable {file : Path} {report : Report}

/- The command ends well when the report can be written. -/
theorem of_saveReport
    (hOutput : options.output = some file)
    (hConfig : before.config
      (Config.fileFor options.config (some options.project)) =
        .ok config)
    (hUsual : config.rulesFile = none)
    {scanned : Workspace}
    (hAnalyzed : before.analyzeProject options config =
      .ok (scanned, report))
    (hSave : scanned.saveReport report (some file) =
      .ok saved) :
    SavedAnalysis before options config file report saved where
  output := hOutput
  configured := hConfig
  usual := hUsual
  analyzed := ⟨scanned, hAnalyzed⟩
  ended := by
    unfold analyzeCommand
    simp only [hConfig, hAnalyzed, hOutput, hSave]
    exact ⟨_, _, rfl⟩

/- The file holds the text of the report. -/
theorem holds
    (h : SavedAnalysis before options config file report
      saved) :
    saved.tree.read file = .ok (Utf8.encode report.print) := by
  rcases h.analyzed with ⟨scanned, hAnalyzed⟩
  rcases h.ended with ⟨exit, lines, hEnded⟩
  unfold analyzeCommand at hEnded
  simp only [h.configured, hAnalyzed, h.output, saveReport]
    at hEnded
  split at hEnded
  · cases hEnded
  · next written hSave =>
      split at hSave
      · cases hSave
      · next hWrite =>
          cases hSave
          cases hEnded
          exact FileTree.read_of_write hWrite

/- The report has been made by a scan from a root. -/
theorem scanned
    (h : SavedAnalysis before options config file report
      saved) :
    ∃ root, root.isAbsolute = true ∧
      (config.scanner .builtin).scan before.tree root
        before.idName before.nextId = .ok report := by
  rcases h.analyzed with ⟨scanned, hAnalyzed⟩
  cases hRoot : before.projectRoot options.project with
  | error fault =>
      unfold analyzeProject at hAnalyzed
      rw [hRoot] at hAnalyzed
      cases hAnalyzed
  | ok root =>
      rw [analyzeProject_eq hRoot
        (before.registry_of_usual h.usual)] at hAnalyzed
      have hScan := mapError_eq_ok_iff.mp hAnalyzed
      rcases map_eq_ok_iff.mp hScan with ⟨made, hMade, hIs⟩
      cases hIs
      exact ⟨root, (of_projectRoot hRoot).1, hMade⟩

/- No finding of the report can stop a batch. -/
theorem steady
    (h : SavedAnalysis before options config file report
      saved)
    {finding : Finding}
    (hFinding : finding ∈ report.findings) :
    Registry.builtin.Steady finding := by
  rcases h.scanned with ⟨root, hAbsolute, hScan⟩
  exact Scanner.steady_of_scan Registry.distinctIds_builtin
    (config.scanner_sublist .builtin).subset hAbsolute hScan
    hFinding

end SavedAnalysis

end Workspace

end GradleMigration

------------------------------------------------------------
-- Fixing from a Saved Report
------------------------------------------------------------

namespace GradleMigration

namespace Session

variable {report : Report} {ids : List String}

/- A session refuses what its report does not know. -/
theorem select_of_unknown
    (registry : Registry)
    (scanner : Scanner)
    (hNamed : report.Named)
    (hNone : report.asked ids = []) :
    ∃ fault,
      (mk registry scanner (some report)).select ids =
          .error fault ∧
        (fault = .idsRequired ∨ fault = .noMatch) := by
  unfold select
  simp only [hNamed.get_filter, hNone, List.isEmpty_nil]
  by_cases hIds : (ids.filter (· != "")).isEmpty = true
  · exact ⟨.idsRequired, if_pos hIds, Or.inl rfl⟩
  · exact ⟨.noMatch, if_neg hIds, Or.inr rfl⟩

/- It takes on the findings that its report knows. -/
theorem select_of_known
    (registry : Registry)
    (scanner : Scanner)
    (hNamed : report.Named)
    (hSome : report.asked ids ≠ []) :
    (mk registry scanner (some report)).select ids =
      .ok (report, report.asked ids) := by
  have hGet := hNamed.get_filter ids
  have hIds : ids.filter (· != "") ≠ [] := by
    intro hNone
    rw [hNone] at hGet
    exact hSome hGet.symm
  unfold select
  simp only [hGet, List.isEmpty_iff, if_neg hIds, if_neg hSome]

end Session

namespace Workspace

/-
  A later command to fix findings of a saved report.  Since
  the report has been saved, only its file has to be left
  alone.
-/
structure SavedRequest
    (saved later : Workspace)
    (options : FixOptions)
    (config : Config)
    (file : Path) : Prop where
  given : options.report = some file
  configured : later.config
    (Config.fileFor options.config options.project) =
      .ok config
  usual : config.rulesFile = none
  untouched : later.tree.read file = saved.tree.read file

/-
  What a request comes to that is not refused: what has become
  of the findings that are asked for, and the report that is
  left of the saved one.
-/
structure SavedFix
    (later after : Workspace)
    (options : FixOptions)
    (file : Path)
    (report left : Report)
    (results : List FixResult) : Prop where
  processed : ∃ worked,
    Registry.builtin.applyFixes later
        (report.asked options.ids) = (worked, .ok results) ∧
      worked.tree.write file (Utf8.encode left.print) =
        .ok after.tree
  answered : results.map (·.findingId) =
    options.ids.filter fun id => decide (id ∈ report.ids)
  left_eq : left =
    { report with
      findings := report.findings.filter fun finding =>
        !finding.isFixed (report.asked options.ids) results }
  loaded : after.loadReport file = .ok left
  counted : ∃ (text : List Char) (table : Table),
    after.tree.readText file = .ok text ∧
      JsonText.parse text = some (.table table) ∧
      table.get? "total_findings" =
        some (.int left.findings.length) ∧
      table.get? "critical_findings" =
        some (.int (left.findings.countP
          (·.severity = .critical))) ∧
      table.get? "auto_fixable_findings" =
        some (.int (left.findings.countP (·.autoFixable)))
  ended : later.fixCommand options =
    (after, fixResult options.json
      (.done report.project ⟨results⟩))
  exit : (later.fixCommand options).2.exit =
    if results.all (·.success) then 0 else 1

/- The command works on the report with the usual rules. -/
theorem SavedRequest.fixCommand_eq
    {saved later : Workspace}
    {options : FixOptions}
    {config : Config}
    {file : Path}
    (h : SavedRequest saved later options config file) :
    later.fixCommand options =
      match later.fixSaved .builtin (config.scanner .builtin)
          file options.ids with
      | (after, .error fault) => (after, .ofFixFault fault)
      | (after, .ok work) =>
          (after, fixResult options.json work) := by
  unfold fixCommand
  simp only [h.configured, later.registry_of_usual h.usual,
    h.given]
  split
  · next hNone => cases hNone
  · next hSome => rw [Option.some.inj hSome]
  · next hSome => rw [Option.some.inj hSome]

section

variable {registry : Registry} {scanner : Scanner}
variable {workspace : Workspace} {file : Path}
variable {report : Report} {ids : List String}

/- A request for unknown findings is refused at once. -/
theorem fixSaved_of_unknown
    (hLoaded : workspace.loadReport file = .ok report)
    (hNamed : report.Named)
    (hNone : report.asked ids = []) :
    ∃ fault, workspace.fixSaved registry scanner file ids =
        (workspace, .error (.session fault)) ∧
      (CommandFault.session fault).nature = .refusal := by
  rcases Session.select_of_unknown registry scanner hNamed
      hNone with
    ⟨fault, hSelect, hFault⟩
  refine ⟨fault, ?_, ?_⟩
  · unfold fixSaved Session.fix
    simp only [hLoaded, hSelect]
  · rcases hFault with rfl | rfl
    · rfl
    · rfl

/-
  A request for known findings fixes them, and saves the
  report without those that have been fixed.
-/
theorem fixSaved_of_known
    {bytes : List UInt8}
    (hRead : workspace.tree.read file = .ok bytes)
    (hLoaded : workspace.loadReport file = .ok report)
    (hNamed : report.Named)
    (hSteady : ∀ finding ∈ report.findings,
      registry.Steady finding)
    (hSome : report.asked ids ≠ []) :
    ∃ worked after results,
      registry.applyFixes workspace (report.asked ids) =
          (worked, .ok results) ∧
        worked.tree.write file (Utf8.encode
          (report.discardFixed ⟨results⟩).print) =
            .ok after.tree ∧
        workspace.fixSaved registry scanner file ids =
          (after, .ok (.done report.project ⟨results⟩)) := by
  have hSelect :=
    Session.select_of_known registry scanner hNamed hSome
  rcases Registry.applyFixes_of_steady
      (fun finding hFinding =>
        hSteady finding (Report.mem_of_mem_asked hFinding))
      workspace with
    ⟨worked, results, hFixes⟩
  rcases Registry.changes_of_applyFixes hFixes with
    ⟨changed, added, hChanges⟩
  rcases saveReport_of_read hChanges.sameDirectories hRead
      (report.discardFixed ⟨results⟩) with
    ⟨after, hSave, hWrite⟩
  refine ⟨worked, after, results, hFixes, hWrite, ?_⟩
  have hBatch :
      registry.applyBatch workspace (report.asked ids) =
        (worked, .ok ⟨results⟩) := by
    unfold Registry.applyBatch
    rw [hFixes]
    rfl
  unfold fixSaved Session.fix
  simp only [hLoaded, hSelect, hBatch, Option.getD_some, hSave]
  rfl

end

/-
  Fixing from a saved report with distinct ids and numbers
  that can be read again, whatever has become of the project
  since:  a request for none of its
  findings ends with the exit code 2 and changes nothing; any
  other request works on the known findings in the order of
  their ids, and the file holds the report without those that
  have been fixed.
-/
theorem fixCommand_updates_saved_report
    {before saved later : Workspace}
    {analysis : AnalyzeOptions}
    {options : FixOptions}
    {config settings : Config}
    {file : Path}
    {report : Report}
    (hSaved : SavedAnalysis before analysis config file report
      saved)
    (hNamed : report.Named)
    (hStorable : report.Storable)
    (hRequest : SavedRequest saved later options settings
      file) :
    ((∀ id ∈ options.ids, id ∉ report.ids) →
      ∃ message, later.fixCommand options =
        (later, .failed 2 message)) ∧
    ((∃ id ∈ options.ids, id ∈ report.ids) →
      ∃ after left results,
        SavedFix later after options file report left
          results) := by
  have hRead : later.tree.read file =
      .ok (Utf8.encode report.print) :=
    hRequest.untouched.trans hSaved.holds
  have hLoaded := loadReport_of_read hStorable hRead
  constructor
  · intro hUnknown
    rcases fixSaved_of_unknown hLoaded hNamed
        (Report.asked_eq_nil_iff.mpr hUnknown) with
      ⟨fault, hFix, hNature⟩
    rw [hRequest.fixCommand_eq, hFix]
    simp only [CommandResult.ofFixFault, hNature]
    exact ⟨_, rfl⟩
  · rintro ⟨id, hId, hKnown⟩
    have hSome : report.asked options.ids ≠ [] := by
      intro hNone
      exact Report.asked_eq_nil_iff.mp hNone id hId hKnown
    rcases fixSaved_of_known hRead hLoaded hNamed
        (fun finding => hSaved.steady) hSome with
      ⟨worked, after, results, hFixes, hWrite, hFix⟩
    have hStored : (report.discardFixed ⟨results⟩).Storable :=
      hStorable.remove _
    have hAgain := FileTree.read_of_write hWrite
    have hIds := Registry.ids_of_applyFixes hFixes
    have hEnded : later.fixCommand options =
        (after, fixResult options.json
          (.done report.project ⟨results⟩)) := by
      rw [hRequest.fixCommand_eq, hFix]
    refine ⟨after, report.discardFixed ⟨results⟩, results,
      { processed := ⟨worked, hFixes, hWrite⟩
        answered := hIds.trans (report.ids_asked _)
        left_eq := hNamed.discardFixed_eq
          (fun _ => Report.mem_of_mem_asked) hIds
        loaded := loadReport_of_read hStored hAgain
        counted := ?_
        ended := hEnded
        exit := ?_ }⟩
    · rcases (report.discardFixed ⟨results⟩).counts_toDatum with
        ⟨table, hTable, hCounts⟩
      refine ⟨_, table, FileTree.readText_of_read hAgain,
        ?_, hCounts⟩
      rw [Report.jsonParse_print hStored.lines hStored.total,
        hTable]
    · rw [hEnded]
      apply exit_of_failures
      exact (Batch.failures_eq results).trans List.countP_map

end Workspace

end GradleMigration

------------------------------------------------------------
-- A Saved Report of One Script
------------------------------------------------------------

namespace GradleMigration

namespace Workspace

/- The command to save the report of the script. -/
def overlapAnalysis : AnalyzeOptions where
  project := overlapRoot
  severity := .low
  json := false
  output := some overlapFile
  config := none
  workers := none

/- A command to fix findings of the report. -/
def overlapRequest
    (ids : List String) : FixOptions where
  project := none
  rules := []
  report := some overlapFile
  ids := ids
  json := false
  config := none
  workers := none

theorem of_fixesOnce
    {registry : Registry}
    (h : fixesOnce registry = true) :
    ∃ scanned report saved worked results,
      overlap.scanProject (Config.standard.scanner registry)
          overlapRoot = .ok (scanned, report) ∧
        scanned.saveReport report (some overlapFile) =
          .ok saved ∧
        registry.applyFixes saved (report.asked overlapIds) =
          (worked, .ok results) ∧
        report.ids = ["finding-0", "finding-1"] ∧
        (∀ finding ∈ report.findings, finding.line = 2) ∧
        results.map (·.success) = [true, false, false] := by
  unfold fixesOnce at h
  split at h
  · cases h
  · next scanned report hScan =>
      split at h
      · cases h
      · next saved hSave =>
          split at h
          · cases h
          · next worked results hFixes =>
              simp only [Bool.and_eq_true, beq_iff_eq,
                List.all_eq_true] at h
              exact ⟨scanned, report, saved, worked, results,
                hScan, hSave, hFixes, h.1.1, h.1.2, h.2⟩

/- The report is saved, asked in vain, and worked off. -/
theorem fixCommand_updates_overlap_report :
    ∃ report saved,
      SavedAnalysis overlap overlapAnalysis .standard
          overlapFile report saved ∧
        (∃ message, saved.fixCommand
            (overlapRequest ["", "finding-7"]) =
              (saved, .failed 2 message)) ∧
        ∃ after left results,
          SavedFix saved after (overlapRequest overlapIds)
              overlapFile report left results ∧
            results.map (·.success) = [true, false, false] ∧
            (saved.fixCommand
              (overlapRequest overlapIds)).2.exit = 1 := by
  rcases of_fixesOnce overlap_builtin.2 with
    ⟨scanned, report, saved, worked, done, hScan, hSave, hFixes,
      hIds, hLines, hSuccess⟩
  rw [← analyzeProject_eq
    (show overlap.projectRoot overlapAnalysis.project =
      .ok overlapRoot from rfl)
    (overlap.registry_of_usual rfl)] at hScan
  have hSaved : SavedAnalysis overlap overlapAnalysis .standard
      overlapFile report saved :=
    .of_saveReport rfl rfl rfl hScan hSave
  have hNamed : report.Named := by
    constructor
    · rw [hIds]
      decide
    · rw [hIds]
      decide
  have hStorable : report.Storable := by
    constructor
    · intro finding hFinding
      rw [hLines finding hFinding]
      decide
    · have hTotal : report.total = 2 := by
        have hLength := congrArg List.length hIds
        rw [Report.ids, List.length_map] at hLength
        exact hLength
      rw [hTotal]
      decide
  have hRequest : ∀ ids, SavedRequest saved saved
      (overlapRequest ids) .standard overlapFile :=
    fun ids =>
      { given := rfl
        configured := rfl
        usual := rfl
        untouched := rfl }
  refine ⟨report, saved, hSaved, ?_, ?_⟩
  · apply (fixCommand_updates_saved_report hSaved hNamed
      hStorable (hRequest ["", "finding-7"])).1
    rw [hIds]
    decide
  · have hKnown : ∃ id ∈ overlapIds, id ∈ report.ids := by
      rw [hIds]
      decide
    rcases (fixCommand_updates_saved_report hSaved hNamed
        hStorable (hRequest overlapIds)).2 hKnown with
      ⟨after, left, results, hFix⟩
    have hResults : results = done := by
      rcases hFix.processed with ⟨last, hLast, -⟩
      have hSame := hLast.symm.trans hFixes
      cases hSame
      rfl
    subst hResults
    have hSome : results.all (·.success) = false := by
      have hAll := congrArg (List.all · id) hSuccess
      rw [List.all_map] at hAll
      exact hAll
    refine ⟨after, left, results, hFix, hSuccess, ?_⟩
    rw [hFix.exit, hSome]
    rfl

end Workspace

end GradleMigration
