import GradleMigration.Fix.Basic
import GradleMigration.Proofs.Rule.Loading
import GradleMigration.Proofs.Scan.Listing
import GradleMigration.Proofs.Scan.Origin

/-
  Findings whose fix always comes to a result, and never
  stops the fixes after it.

  Main declarations:
    * `Registry.Steady`
    * `Registry.applyFix_of_steady`
    * `Registry.applyBatch_of_steady`
    * `Scanner.steady_of_scan`
-/

------------------------------------------------------------
-- Fixes That Come to a Result
------------------------------------------------------------

namespace GradleMigration

namespace Registry

/-
  A finding that stops no batch: its file has a path that the
  file system accepts, and its rule changes every text
  without a fault.
-/
structure Steady
    (registry : Registry)
    (finding : Finding) : Prop where
  file : finding.file.Fits
  rule : ∀ content, ∃ text,
    registry.migrate finding content = .ok text

/-
  A fix has a result where its path can be resolved and it is
  known whether its file is there, and its rule has no fault.
-/
theorem applyFix_of_isFile
    {registry : Registry}
    {workspace : Workspace}
    {finding : Finding}
    (hClean : finding.file.hasNull = false)
    (hFile : ∃ answer,
      workspace.tree.isFile finding.file = .ok answer)
    (hRule : ∀ content,
      workspace.tree.readExact finding.file = .ok content →
        ∃ text, registry.migrate finding content = .ok text) :
    ∃ after result,
      registry.applyFix workspace finding =
        .ok (after, result) := by
  have hFixed :
      ∃ outcome,
        registry.fixFile workspace finding = .ok outcome := by
    unfold fixFile
    rcases hFile with ⟨answer, hAnswer⟩
    simp only [hClean, Bool.false_eq_true, if_false, hAnswer]
    cases answer with
    | false => exact ⟨_, rfl⟩
    | true =>
        cases hRead :
            workspace.tree.readExact finding.file with
        | error fault => exact ⟨_, rfl⟩
        | ok content =>
            rcases hRule content hRead with ⟨text, hText⟩
            simp only [hText]
            by_cases hSame : text = content
            · exact ⟨_, if_pos hSame⟩
            · exact ⟨_, if_neg hSame⟩
  rcases hFixed with ⟨⟨after, outcome⟩, hOutcome⟩
  unfold applyFix
  by_cases hAuto : finding.autoFixable = true
  · exact ⟨_, _, by
      simp only [hAuto, if_true, hOutcome]
      rfl⟩
  · exact ⟨_, _, by
      simp only [hAuto]
      rfl⟩

/- Fixing a steady finding has a result in every workspace. -/
theorem applyFix_of_steady
    {registry : Registry}
    {finding : Finding}
    (h : registry.Steady finding)
    (workspace : Workspace) :
    ∃ after result,
      registry.applyFix workspace finding =
        .ok (after, result) :=
  applyFix_of_isFile h.file.clean
    (FileTree.isFile_of_fits h.file workspace.tree)
    fun content _ => h.rule content

/- Fixing steady findings gives one result for each. -/
theorem applyFixes_of_steady
    {registry : Registry}
    {findings : List Finding}
    (h : ∀ finding ∈ findings, registry.Steady finding)
    (workspace : Workspace) :
    ∃ after results,
      registry.applyFixes workspace findings =
        (after, .ok results) := by
  induction findings generalizing workspace with
  | nil => exact ⟨workspace, [], rfl⟩
  | cons finding rest ih =>
      rcases applyFix_of_steady
          (h finding List.mem_cons_self) workspace with
        ⟨after, result, hFirst⟩
      rcases ih
          (fun other hOther =>
            h other (List.mem_cons_of_mem _ hOther))
          after with
        ⟨last, results, hRest⟩
      refine ⟨last, result :: results, ?_⟩
      simp only [applyFixes, hFirst, hRest]
      rfl

/- A batch of steady findings is never stopped. -/
theorem applyBatch_of_steady
    {registry : Registry}
    {findings : List Finding}
    (h : ∀ finding ∈ findings, registry.Steady finding)
    (workspace : Workspace) :
    ∃ after batch,
      registry.applyBatch workspace findings =
        (after, .ok batch) := by
  rcases applyFixes_of_steady h workspace with
    ⟨after, results, hResults⟩
  refine ⟨after, ⟨results⟩, ?_⟩
  simp only [applyBatch, hResults]
  rfl

end Registry

end GradleMigration

------------------------------------------------------------
-- Findings of a Scan
------------------------------------------------------------

namespace GradleMigration

namespace Scanner

/- The file of a finding was found when it was scanned. -/
theorem locate_of_scan
    {scanner : Scanner}
    {tree : FileTree}
    {root : Path}
    {idName : Nat → String}
    {next : Nat}
    {report : Report}
    (h : scanner.scan tree root idName next = .ok report)
    {finding : Finding}
    (hFinding : finding ∈ report.findings) :
    ∃ location, tree.locate finding.file = .ok location := by
  rcases origin_of_scan h hFinding with
    ⟨files, content, rule, hit, hFiles, hOrigin⟩
  rcases FileTree.readExact_eq_ok_iff.mp hOrigin.isText with
    ⟨location, _, hHolds⟩
  exact ⟨location, hHolds.place⟩

/-
  The findings of a scan have rules without faults in the
  registry that the rules of the scanner are from.
-/
theorem migrate_of_scan
    {scanner : Scanner}
    {registry : Registry}
    {tree : FileTree}
    {root : Path}
    {idName : Nat → String}
    {next : Nat}
    {report : Report}
    (hDistinct : registry.DistinctIds)
    (hRules : scanner.rules ⊆ registry.rules)
    (h : scanner.scan tree root idName next = .ok report)
    {finding : Finding}
    (hFinding : finding ∈ report.findings)
    (content : List Char) :
    ∃ text, registry.migrate finding content = .ok text := by
  rcases origin_of_scan h hFinding with
    ⟨files, origin, rule, hit, hFiles, hOrigin⟩
  rcases Rule.of_occurrence hOrigin.isFound with
    ⟨hId, _, _, hTotal⟩
  have hGet : registry.get? finding.ruleId = some rule := by
    rw [hId]
    exact Registry.get?_of_mem hDistinct
      (hRules hOrigin.isRule)
  rcases hTotal content with ⟨text, hText⟩
  exact ⟨text, by simp [Registry.migrate, hGet, hText]⟩

/-
  The findings of a scan from an absolute root are steady
  for the registry that the rules of the scanner are from.
-/
theorem steady_of_scan
    {scanner : Scanner}
    {registry : Registry}
    {tree : FileTree}
    {root : Path}
    {idName : Nat → String}
    {next : Nat}
    {report : Report}
    (hDistinct : registry.DistinctIds)
    (hRules : scanner.rules ⊆ registry.rules)
    (hRoot : root.isAbsolute = true)
    (h : scanner.scan tree root idName next = .ok report)
    {finding : Finding}
    (hFinding : finding ∈ report.findings) :
    registry.Steady finding := by
  rcases origin_of_scan h hFinding with
    ⟨files, _, _, _, hFiles, hOrigin⟩
  rcases locate_of_scan h hFinding with ⟨location, hPlace⟩
  have hAbsolute : finding.file.isAbsolute = true := by
    have hAnchoring :=
      anchoring_of_scripts hFiles hOrigin.isFile
    unfold Path.isAbsolute at hRoot ⊢
    rw [hAnchoring, hRoot]
  exact ⟨FileTree.fits_of_locate hAbsolute hPlace,
    migrate_of_scan hDistinct hRules h hFinding⟩

end Scanner

end GradleMigration
