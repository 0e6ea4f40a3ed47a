import GradleMigration.Proofs.Fix.Step
import GradleMigration.Proofs.Rule.Catalog
import GradleMigration.Proofs.Scan.Listing
import GradleMigration.Proofs.Scan.Origin

/-
  Findings that are called fixable are fixed.

  Main declarations:
    * `Registry.success_of_agrees`
    * `Registry.fixable_findings_are_fixed`
-/

------------------------------------------------------------
-- Fixing Fresh Findings
------------------------------------------------------------

namespace GradleMigration

namespace Registry

/-
  A finding of a scan whose rule agrees with itself is fixed
  where its file still has the text that was scanned.
-/
theorem success_of_agrees
    {registry : Registry}
    (hDistinct : registry.DistinctIds)
    (hAgrees : ∀ rule ∈ registry.rules, rule.Agrees)
    {scanner : Scanner}
    (hRules : scanner.rules ⊆ registry.rules)
    {tree : FileTree}
    {root : Path}
    {idName : Nat → String}
    {next : Nat}
    {report : Report}
    (hScan : scanner.scan tree root idName next = .ok report)
    {finding : Finding}
    (hFinding : finding ∈ report.findings)
    (hAuto : finding.autoFixable = true)
    {workspace : Workspace}
    (hSame : workspace.tree.readExact finding.file =
      tree.readExact finding.file)
    (hAccepts : ¬ workspace.Objects finding.file) :
    ∃ after result,
      registry.applyFix workspace finding =
        .ok (after, result) ∧ result.success = true := by
  rcases Scanner.origin_of_scan hScan hFinding with
    ⟨files, content, rule, hit, hFiles, hOrigin⟩
  rcases Rule.of_occurrence hOrigin.isFound with
    ⟨hId, _, hFixable, _⟩
  rw [hAuto] at hFixable
  have hRule := hRules hOrigin.isRule
  rcases hAgrees rule hRule content hit hFixable with
    ⟨text, hText, hNe⟩
  rw [hOrigin.isText] at hSame
  rcases FileTree.readExact_eq_ok_iff.mp hSame with
    ⟨location, bytes, hHolds⟩
  have hGet : registry.get? finding.ruleId = some rule := by
    rw [hId]
    exact get?_of_mem hDistinct hRule
  rcases fixStep_of_applyFix hAuto hGet
      (Scanner.parts_ne_nil_of_scripts hFiles hOrigin.isFile)
      hHolds hText with
    ⟨after, outcome, hApply, hStep⟩
  refine ⟨after, _, hApply, ?_⟩
  cases hStep with
  | unchanged hEq => exact absurd hEq hNe
  | refused _ hObjects => exact absurd hObjects hAccepts
  | rewritten => rfl

/-
  With the catalog of the program, detector and fixer agree:
  where an occurrence is fixable the whole text changes, so a
  finding that is called fixable in a fresh scan is fixed as
  long as its file is unchanged and can be written.
-/
theorem fixable_findings_are_fixed :
    (∀ rule ∈ builtin.rules, ∀ content,
        ∀ hit ∈ rule.hits content,
          rule.isFixable content hit = .ok true →
            ∃ text, rule.transform content = .ok text ∧
              text ≠ content) ∧
      ∀ (scanner : Scanner) (tree : FileTree) (root : Path)
        (idName : Nat → String) (next : Nat) (report : Report),
        scanner.rules ⊆ builtin.rules →
        scanner.scan tree root idName next = .ok report →
        ∀ finding ∈ report.findings,
          finding.autoFixable = true →
          ∀ workspace : Workspace,
            workspace.tree.readExact finding.file =
              tree.readExact finding.file →
            ¬ workspace.Objects finding.file →
            ∃ after result,
              builtin.applyFix workspace finding =
                .ok (after, result) ∧
              result.success = true := by
  refine ⟨?_, ?_⟩
  · intro rule hRule content hit _ hFixable
    exact agrees_of_mem_builtin hRule content hit hFixable
  · intro scanner tree root idName next report hRules hScan
      finding hFinding hAuto workspace hSame hAccepts
    exact success_of_agrees distinctIds_builtin
      (fun _ => agrees_of_mem_builtin) hRules hScan hFinding
      hAuto hSame hAccepts

end Registry

end GradleMigration

------------------------------------------------------------
-- A Fresh Finding
------------------------------------------------------------

namespace GradleMigration

namespace Registry

/-
  Whether the scan for the rule of one entry calls something
  in a file fixable that can be backed up.
-/
def promises
    (entry : RuleEntry)
    (workspace : Workspace)
    (root : Path) : Bool :=
  match entry.build with
  | .error _ => false
  | .ok rule =>
      match (Scanner.mk [rule] []).scan workspace.tree root
          workspace.idName workspace.nextId with
      | .error _ => false
      | .ok report =>
          report.findings.any fun finding =>
            finding.autoFixable &&
              (workspace.tree.snapshot finding.file
                workspace.time).toOption.isSome

/- What such a scan has found. -/
theorem of_promises
    {entry : RuleEntry}
    {workspace : Workspace}
    {root : Path}
    (hCopy : workspace.copyFault = none)
    (hWrite : workspace.writeFault = none)
    (h : promises entry workspace root = true) :
    ∃ rule report finding,
      entry.build = .ok rule ∧
        (Scanner.mk [rule] []).scan workspace.tree root
          workspace.idName workspace.nextId = .ok report ∧
        finding ∈ report.findings ∧
        finding.autoFixable = true ∧
        ¬ workspace.Objects finding.file := by
  unfold promises at h
  split at h
  · cases h
  · next rule hRule =>
      split at h
      · cases h
      · next report hReport =>
          rcases List.any_eq_true.mp h with
            ⟨finding, hFinding, hBoth⟩
          rw [Bool.and_eq_true] at hBoth
          refine ⟨rule, report, finding, hRule, hReport,
            hFinding, hBoth.1, ?_⟩
          rintro (hCut | hDenied | ⟨fault, hFault⟩)
          · exact hCut hCopy
          · exact hDenied hWrite
          · rw [hFault] at hBoth
            cases hBoth.2

/- The single output directory of a source set is renamed. -/
theorem fixable_findings_are_fixed_single :
    ∃ rule report finding after result,
      Builtin.sourcesetOutput.build = .ok rule ∧
        (Scanner.mk [rule] []).scan
          (Workspace.single
            "x = sourceSets.main.output.classesDir").tree
          (.parse "/p") (fun n => "finding-" ++ toString n) 0 =
            .ok report ∧
        finding ∈ report.findings ∧
        finding.autoFixable = true ∧
        builtin.applyFix
          (Workspace.single
            "x = sourceSets.main.output.classesDir") finding =
              .ok (after, result) ∧
        result.success = true := by
  rcases of_promises rfl rfl
      (show promises Builtin.sourcesetOutput
        (.single "x = sourceSets.main.output.classesDir")
        (.parse "/p") = true by
          rw [promises, RuleEntry.build_eq_decoded]
          decide +kernel) with
    ⟨rule, report, finding, hRule, hReport, hFinding, hAuto,
      hAccepts⟩
  have hRules :
      (Scanner.mk [rule] []).rules ⊆ builtin.rules := by
    intro other hOther
    cases List.mem_singleton.mp hOther
    exact mem_builtin_of_build (by simp [Builtin.entries]) hRule
  rcases fixable_findings_are_fixed.2 _ _ _ _ _ report hRules
      hReport finding hFinding hAuto _ rfl hAccepts with
    ⟨after, result, hApply, hSuccess⟩
  exact ⟨rule, report, finding, after, result, hRule, hReport,
    hFinding, hAuto, hApply, hSuccess⟩

end Registry

end GradleMigration
