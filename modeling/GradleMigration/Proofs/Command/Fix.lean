import GradleMigration.Command.Run
import GradleMigration.Proofs.Fix.Project
import GradleMigration.Proofs.Fix.Steady
import GradleMigration.Proofs.Report.Named
import GradleMigration.Proofs.Rule.Catalog

/-
  What the command `fix` does to a project with the rules that
  come with the program.

  Main declarations:
    * `Workspace.FixRequest` and `Workspace.FixAnswer`
    * `Workspace.FixRequest.projectFix`
    * `Workspace.fixCommand_migrates_project`
-/

------------------------------------------------------------
-- The Command
------------------------------------------------------------

namespace GradleMigration

/- The results of what `fix` has done. -/
def FixWork.results : FixWork → List FixResult
| .nothing => []
| .done _ batch => batch.results

/- The rules of a scanner come from the registry. -/
theorem Config.scanner_sublist
    (config : Config)
    (registry : Registry) :
    (config.scanner registry).rules.Sublist registry.rules :=
  List.filter_sublist

namespace Workspace

/- A command works on the root of a project. -/
theorem of_projectRoot
    {workspace : Workspace}
    {path root : Path}
    (h : workspace.projectRoot path = .ok root) :
    root.isAbsolute = true ∧
      workspace.tree.isDirectory root = .ok true ∧
      workspace.tree.isProject root = .ok true := by
  have hRoot := mapError_eq_ok_iff.mp h
  split at hRoot
  · cases hRoot
  · exact FileTree.of_projectRoot hRoot

/- A scanned project is fixed by fixing what it calls for. -/
theorem fixProject_of_scan
    {registry : Registry}
    (hDistinct : registry.DistinctIds)
    {scanner : Scanner}
    (hRules : scanner.rules ⊆ registry.rules)
    {workspace : Workspace}
    {project root : Path}
    (hRoot : workspace.projectRoot project = .ok root)
    (hAbsolute : root.isAbsolute = true)
    {report : Report}
    (hScan : scanner.scan workspace.tree root workspace.idName
      workspace.nextId = .ok report)
    (rules : List String) :
    ∃ scanned after work,
      scanned.tree = workspace.tree ∧
        workspace.fixProject registry scanner project rules =
          (after, .ok work) ∧
        registry.applyFixes scanned (fixable report rules) =
          (after, .ok work.results) := by
  have hProject : workspace.scanProject scanner root =
      .ok ({ workspace with
        nextId := workspace.nextId + report.total },
        report) := by
    unfold scanProject Workspace.scan
    rw [hScan]
    rfl
  have hSteady : ∀ finding ∈ fixable report rules,
      registry.Steady finding := by
    intro finding hFinding
    exact Scanner.steady_of_scan hDistinct hRules hAbsolute
      hScan (mem_of_mem_fixable hFinding).1
  unfold fixProject
  simp only [hRoot, hProject]
  refine ⟨{ workspace with
    nextId := workspace.nextId + report.total }, ?_⟩
  by_cases hNone : (fixable report rules).isEmpty = true
  · refine ⟨_, .nothing, rfl, if_pos hNone, ?_⟩
    rw [List.isEmpty_iff.mp hNone]
    rfl
  · rcases Registry.applyFixes_of_steady hSteady
        { workspace with
          nextId := workspace.nextId + report.total } with
      ⟨after, results, hResults⟩
    refine ⟨after, .done root ⟨results⟩, rfl, ?_, hResults⟩
    rw [if_neg hNone]
    unfold Registry.applyBatch
    rw [hResults]
    rfl

/-
  A command to fix a project with the rules of a registry.
  No entry of the tree is named like a step up, and the file
  system does not object to the scan.
-/
structure FixRequest
    (registry : Registry)
    (workspace : Workspace)
    (options : FixOptions)
    (project root : Path)
    (config : Config) : Prop where
  unsaved : options.report = none
  given : options.project = some project
  configured : workspace.config
    (Config.fileFor options.config options.project) = .ok config
  loaded : workspace.registry config = .ok registry
  rooted : workspace.projectRoot project = .ok root
  regular : workspace.tree.Regular
  scannable : ∀ fault,
    (config.scanner registry).scan workspace.tree root
      workspace.idName workspace.nextId ≠
        .error (.project (.file fault))

/- What a request comes to, with the results for findings. -/
structure FixAnswer
    (registry : Registry)
    (workspace : Workspace)
    (options : FixOptions)
    (project root : Path)
    (config : Config)
    (files : List Path)
    (report : Report)
    (after : Workspace)
    (work : FixWork) : Prop where
  listed :
    (config.scanner registry).scripts workspace.tree root =
      .ok files
  scanned :
    (config.scanner registry).scan workspace.tree root
      workspace.idName workspace.nextId = .ok report
  worked :
    workspace.fixProject registry (config.scanner registry)
      project options.rules = (after, .ok work)
  ended : workspace.fixCommand options =
    (after, fixResult options.json work)

namespace FixRequest

variable {registry : Registry} {workspace : Workspace}
variable {options : FixOptions} {project root : Path}
variable {config : Config}

/-
  A request with total rules is answered by fixing what the
  scan calls for.
-/
theorem fixAnswer
    (h : FixRequest registry workspace options project root
      config)
    (hDistinct : registry.DistinctIds)
    (hTotal : ∀ rule ∈ registry.rules, rule.Total) :
    ∃ files report scanned after work,
      FixAnswer registry workspace options project root config
          files report after work ∧
        scanned.tree = workspace.tree ∧
        registry.applyFixes scanned
          (fixable report options.rules) =
            (after, .ok work.results) := by
  have hRules := (config.scanner_sublist registry).subset
  rcases of_projectRoot h.rooted with
    ⟨hAbsolute, hDirectory, hProject⟩
  rcases Scanner.scan_of_total
      (fun rule hRule => hTotal rule (hRules hRule))
      hDirectory hProject workspace.idName
      workspace.nextId with
    ⟨report, hScan⟩ | ⟨fault, hFault⟩
  · rcases Scanner.of_scan hScan with
      ⟨_, files, _, hFiles, _, _⟩
    rcases fixProject_of_scan hDistinct hRules h.rooted
        hAbsolute hScan options.rules with
      ⟨scanned, after, work, hScanned, hFix, hRun⟩
    have hConfig := h.configured
    rw [h.given] at hConfig
    have hCommand : workspace.fixCommand options =
        (after, fixResult options.json work) := by
      unfold fixCommand
      simp only [hConfig, h.loaded, h.unsaved, h.given, hFix]
    exact ⟨files, report, scanned, after, work,
      ⟨hFiles, hScan, hFix, hCommand⟩, hScanned, hRun⟩
  · exact absurd hFault (h.scannable fault)

/- The project is fixed if the file system never objects. -/
theorem projectFix
    (h : FixRequest registry workspace options project root
      config)
    (hDistinct : registry.DistinctIds)
    (hTotal : ∀ rule ∈ registry.rules, rule.Total) :
    ∃ files report after work,
      FixAnswer registry workspace options project root config
          files report after work ∧
        ((∀ result ∈ work.results,
            result.isSystemFault = false) →
          ProjectFix (config.scanner registry) options.rules
            root files workspace.tree after.tree
            (fixable report options.rules) work.results) := by
  rcases h.fixAnswer hDistinct hTotal with
    ⟨files, report, scanned, after, work, hAnswer, hScanned,
      hRun⟩
  refine ⟨files, report, after, work, hAnswer, ?_⟩
  intro hCalm
  have hAbsolute := (of_projectRoot h.rooted).1
  have hTree := h.regular
  have hScan := hAnswer.scanned
  have hFiles := hAnswer.listed
  rw [← hScanned] at hTree hScan hFiles ⊢
  have hRules := config.scanner_sublist registry
  exact projectFix_of_applyFixes hDistinct hRules
    (fun rule hRule => hTotal rule (hRules.subset hRule))
    hTree hAbsolute hScan hFiles hRun hCalm

end FixRequest

/-
  What the command does to a project with the rules that come
  with the program, if the file system never objects.
-/
theorem fixCommand_migrates_project
    {workspace : Workspace}
    {options : FixOptions}
    {project root : Path}
    {config : Config}
    (h : FixRequest .builtin workspace options project root
      config) :
    ∃ files report after work,
      FixAnswer .builtin workspace options project root config
          files report after work ∧
        ((∀ result ∈ work.results,
            result.isSystemFault = false) →
          ProjectFix (config.scanner .builtin) options.rules
            root files workspace.tree after.tree
            (fixable report options.rules) work.results) :=
  h.projectFix Registry.distinctIds_builtin
    (fun _ hRule => Registry.total_of_mem_builtin hRule)

end Workspace

end GradleMigration

------------------------------------------------------------
-- Two Rules for One Place
------------------------------------------------------------

namespace GradleMigration

namespace Workspace

/- A script in which two rules want to fix the same call. -/
def overlap : Workspace :=
  .single "dependencies \x7b\n    compile ('a:b:1')\n\x7d\n"

/- The project of the script, and the command to fix it. -/
def overlapRoot : Path :=
  .parse "/p"

def overlapFix : FixOptions where
  project := some overlapRoot
  rules := []
  report := none
  ids := []
  json := false
  config := none
  workers := none

/- Whether the second of the two fixes is in vain. -/
def overlaps
    (registry : Registry) : Bool :=
  match overlap.fixProject registry
      (Config.standard.scanner registry) overlapRoot [] with
  | (_, .error _) => false
  | (_, .ok work) =>
      work.results.all (!·.isSystemFault) &&
        work.results.map (·.success) == [true, false]

theorem of_overlaps
    {registry : Registry}
    (h : overlaps registry = true) :
    ∃ after work,
      overlap.fixProject registry
          (Config.standard.scanner registry) overlapRoot [] =
            (after, .ok work) ∧
        (∀ result ∈ work.results,
          result.isSystemFault = false) ∧
        work.results.map (·.success) = [true, false] := by
  unfold overlaps at h
  split at h
  · cases h
  · next after work hFix =>
      rw [Bool.and_eq_true, beq_iff_eq, List.all_eq_true] at h
      refine ⟨after, work, hFix, ?_, h.2⟩
      intro result hResult
      simpa using h.1 result hResult

/- Where the report of the script with two rules is saved. -/
def overlapFile : Path :=
  .parse "/p/report.json"

/- Ids with a repeated, an empty and an unknown one. -/
def overlapIds : List String :=
  ["finding-1", "", "finding-7", "finding-0", "finding-1"]

/- Whether the first of the fixes leaves none to be done. -/
def fixesOnce
    (registry : Registry) : Bool :=
  match overlap.scanProject (Config.standard.scanner registry)
      overlapRoot with
  | .error _ => false
  | .ok (scanned, report) =>
      match scanned.saveReport report (some overlapFile) with
      | .error _ => false
      | .ok saved =>
          match registry.applyFixes saved
              (report.asked overlapIds) with
          | (_, .error _) => false
          | (_, .ok results) =>
              report.ids == ["finding-0", "finding-1"] &&
                report.findings.all (·.line == 2) &&
                results.map (·.success) ==
                  [true, false, false]

/-
  All rules of the catalog are tried on the script here, for
  both commands at once since the rules have to be compiled.
-/
theorem overlap_builtin :
    overlaps .builtin = true ∧ fixesOnce .builtin = true := by
  have hBoth :
      (overlaps .builtin && fixesOnce .builtin) = true := by
    rw [Registry.builtin_eq_decoded]
    decide +kernel
  rwa [Bool.and_eq_true] at hBoth

/- A project that has been fixed has been scanned. -/
theorem scan_of_fixProject
    {registry : Registry}
    {scanner : Scanner}
    {workspace after : Workspace}
    {project root : Path}
    (hRoot : workspace.projectRoot project = .ok root)
    {rules : List String}
    {work : FixWork}
    (h : workspace.fixProject registry scanner project rules =
      (after, .ok work)) :
    ∃ report, scanner.scan workspace.tree root
      workspace.idName workspace.nextId = .ok report := by
  unfold fixProject at h
  simp only [hRoot] at h
  split at h
  · cases h
  · next scanned report hScan =>
      have hMade := mapError_eq_ok_iff.mp hScan
      rcases map_eq_ok_iff.mp hMade with ⟨found, hFound, _⟩
      exact ⟨found, hFound⟩

theorem overlap_request :
    FixRequest .builtin overlap overlapFix overlapRoot
      overlapRoot .standard := by
  have hRoot :
      overlap.projectRoot overlapRoot = .ok overlapRoot := by
    rfl
  refine
    { unsaved := rfl
      given := rfl
      configured := rfl
      loaded := rfl
      rooted := hRoot
      regular := by decide
      scannable := ?_ }
  intro fault hFault
  rcases of_overlaps overlap_builtin.1 with ⟨after, work, hFix, _⟩
  rcases scan_of_fixProject hRoot hFix with ⟨report, hReport⟩
  rw [hReport] at hFault
  cases hFault

/- The script is fixed once, by the first of the two rules. -/
theorem fixCommand_migrates_overlap :
    ∃ files report after work,
      FixAnswer .builtin overlap overlapFix overlapRoot
          overlapRoot .standard files report after work ∧
        ProjectFix (Config.standard.scanner .builtin) []
          overlapRoot files overlap.tree after.tree
          (fixable report []) work.results ∧
        work.results.map (·.success) = [true, false] := by
  rcases of_overlaps overlap_builtin.1 with
    ⟨last, done, hFix, hCalm, hSuccess⟩
  rcases fixCommand_migrates_project overlap_request with
    ⟨files, report, after, work, hAnswer, hProject⟩
  cases hFix.symm.trans hAnswer.worked
  exact ⟨files, report, _, _, hAnswer, hProject hCalm, hSuccess⟩

end Workspace

end GradleMigration
