import GradleMigration.Proofs.Command.Fix

/-
  When the command `fix` fails on a project that it has just
  scanned: the rules of a script change its text in turn, so
  one that comes later may have nothing left to fix.

  Main declarations:
    * `Scanner.changes_of_find?_turns`
    * `Workspace.FailsInVain`
    * `Workspace.ProjectFix.failsInVain`
    * `Workspace.fixCommand_fails_only_in_vain`
    * `Workspace.fixCommand_fails_on_overlap`
-/

------------------------------------------------------------
-- Fixes in Vain
------------------------------------------------------------

namespace GradleMigration

/- A rule changes a text where it can be fixed. -/
theorem Candidate.changes_of_isFixable
    {turn : Candidate}
    (hAgrees : turn.rule.Agrees)
    {hit : Hit}
    (h : turn.rule.isFixable turn.content hit = .ok true) :
    turn.changes = true := by
  rcases hAgrees turn.content hit h with ⟨text, hText, hNe⟩
  unfold changes Rule.migrated
  rw [hText]
  exact bne_iff_ne.mpr hNe

theorem Candidate.changes_of_isDue
    {turn : Candidate}
    (hAgrees : turn.rule.Agrees)
    (h : turn.rule.isDue turn.content = true) :
    turn.changes = true := by
  rcases List.any_eq_true.mp h with ⟨hit, _, hFixes⟩
  unfold Rule.fixes at hFixes
  split at hFixes
  · next fixable hFixable =>
      rw [hFixes] at hFixable
      exact changes_of_isFixable hAgrees hFixable
  · cases hFixes

/- The first turn in a file is that of the first rule. -/
theorem Rule.of_find?_turns
    {file other : Path}
    {rules : List Rule}
    {content : List Char}
    {turn : Candidate}
    (h : (turns file rules content).find?
      (fun turn => decide (turn.file = other)) = some turn) :
    turn.rule ∈ rules ∧ turn.content = content := by
  cases rules with
  | nil => cases h
  | cons rule rest =>
      have hFile := (of_mem_turns (List.mem_of_find?_eq_some h)).1
      have hOther := List.find?_some h
      rw [decide_eq_true_eq, hFile] at hOther
      rw [turns, List.find?_cons_of_pos (by simpa)] at h
      cases h
      exact ⟨List.mem_cons_self, rfl⟩

/- The first turn in each file changes its text. -/
theorem Scanner.changes_of_find?_turns
    {scanner : Scanner}
    (hAgrees : ∀ rule ∈ scanner.rules, rule.Agrees)
    {rules : List String}
    {tree : FileTree}
    {files : List Path}
    {other : Path}
    {turn : Candidate}
    (h : (scanner.turns rules tree files).find?
      (fun turn => decide (turn.file = other)) = some turn) :
    turn.changes = true := by
  induction files with
  | nil => cases h
  | cons file files ih =>
      unfold turns at h
      rw [List.flatMap_cons, List.find?_append,
        Option.or_eq_some_iff] at h
      rcases h with hHere | ⟨_, hLater⟩
      · cases hRead : tree.readExact file with
        | error fault => simp [hRead] at hHere
        | ok content =>
            rw [hRead] at hHere
            rcases Rule.of_find?_turns hHere with
              ⟨hRule, hContent⟩
            rcases List.mem_filter.mp hRule with
              ⟨hMem, hDue⟩
            rw [Bool.and_eq_true, ← hContent] at hDue
            exact Candidate.changes_of_isDue
              (hAgrees turn.rule hMem) hDue.2
      · exact ih hLater

/- The failures of a batch are what has not succeeded. -/
theorem Batch.failures_eq
    (results : List FixResult) :
    (Batch.mk results).failures =
      (results.map FixResult.success).countP (!·) := by
  have hSplit := List.length_eq_countP_add_countP
    (p := FixResult.success) (l := results)
  have hFailures : (Batch.mk results).failures =
      results.length - results.countP FixResult.success := rfl
  have hRest : (results.map FixResult.success).countP (!·) =
      results.countP fun result => !result.success :=
    List.countP_map
  simp only [Bool.not_eq_true, Bool.decide_eq_false] at hSplit
  omega

namespace Workspace

/-
  Findings are answered in the turns of their rules, and fail
  only in vain: where nothing that the rule could fix is left
  in the text when its turn has come.
-/
structure FailsInVain
    (turns : List Candidate)
    (findings : List Finding)
    (results : List FixResult) : Prop where
  ids : results.map (·.findingId) = findings.map (·.id)
  answers :
    (findings.zip results).map
        (Prod.map Finding.key FixResult.success) =
      turns.map fun turn => (turn.key, turn.changes)
  vain : ∀ turn ∈ turns, turn.changes = false → ∀ hit,
    turn.rule.isFixable turn.content hit ≠ .ok true
  first : ∀ file result,
    results.find? (fun other => decide (other.file = file)) =
        some result →
      result.success = true
  message : ∀ result ∈ results, result.success = false →
    result.message = "No changes were made. " ++
      "The pattern might have already been fixed."
  failures : (Batch.mk results).failures =
    turns.countP fun turn => !turn.changes

namespace ProjectFix

variable {scanner : Scanner} {rules : List String}
variable {root : Path} {files : List Path}
variable {before after : FileTree}
variable {findings : List Finding} {results : List FixResult}

/- The results of the turns, with their files. -/
theorem outcomes_eq
    (h : ProjectFix scanner rules root files before after
      findings results) :
    results.map (fun result => (result.file, result.success)) =
      (scanner.turns rules before files).map fun turn =>
        (turn.file, turn.changes) := by
  have hLength : findings.length = results.length := by
    simpa using (congrArg List.length h.ids).symm
  have hKeys := congrArg (List.map Prod.fst) h.answers
  have hSuccess := congrArg (List.map Prod.snd) h.answers
  rw [← List.zip_map, List.map_fst_zip (by simp [hLength]),
    List.map_map] at hKeys
  rw [← List.zip_map, List.map_snd_zip (by simp [hLength]),
    List.map_map] at hSuccess
  have hFiles := congrArg (List.map Prod.fst) hKeys
  rw [List.map_map, List.map_map] at hFiles
  have hPlaces :
      results.map (·.file) =
        (scanner.turns rules before files).map (·.file) :=
    h.places.trans hFiles
  rw [← List.zip_map', ← List.zip_map', hPlaces]
  exact congrArg (List.zip _) hSuccess

/- Rules that agree with themselves fail only in vain. -/
theorem failsInVain
    (h : ProjectFix scanner rules root files before after
      findings results)
    (hAgrees : ∀ rule ∈ scanner.rules, rule.Agrees) :
    FailsInVain (scanner.turns rules before files) findings
      results where
  ids := h.ids
  answers := h.answers
  vain turn hTurn hFailed hit hFixable := by
    have hRule := (Scanner.of_mem_turns hTurn).2
    rw [Candidate.changes_of_isFixable
      (hAgrees turn.rule hRule) hFixable] at hFailed
    cases hFailed
  first file result hFirst := by
    have hMapped := congrArg
      (List.find? fun pair => decide (pair.1 = file))
      h.outcomes_eq
    rw [List.find?_map, List.find?_map] at hMapped
    have hSome := hMapped.symm.trans
      (congrArg (Option.map _) hFirst)
    rcases Option.map_eq_some_iff.mp hSome with
      ⟨turn, hTurn, hEq⟩
    injection hEq with _ hSame
    rw [← hSame]
    exact Scanner.changes_of_find?_turns hAgrees hTurn
  message result hResult hFailed := by
    unfold FixResult.message
    rw [h.failures result hResult hFailed]
    rfl
  failures := by
    have hSuccess :
        results.map FixResult.success =
          (scanner.turns rules before files).map
            Candidate.changes := by
      have hPairs := congrArg (List.map Prod.snd) h.outcomes_eq
      rw [List.map_map, List.map_map] at hPairs
      exact hPairs
    rw [Batch.failures_eq, hSuccess]
    exact List.countP_map

end ProjectFix

end Workspace

end GradleMigration

------------------------------------------------------------
-- Exits
------------------------------------------------------------

namespace GradleMigration

namespace Workspace

/- What `fix` exits with depends on the failures. -/
theorem exit_of_fixResult
    (json : Bool)
    (work : FixWork) :
    (fixResult json work).exit =
      if 0 < (Batch.mk work.results).failures then 1 else 0 := by
  cases work with
  | nothing => rfl
  | done root batch => rfl

/- A fault is exited with where a turn is in vain. -/
theorem exit_of_failures
    {work : FixWork}
    {α : Type}
    {turns : List α}
    {changes : α → Bool}
    (h : (Batch.mk work.results).failures =
      turns.countP fun turn => !changes turn)
    (json : Bool) :
    (fixResult json work).exit =
      if turns.all changes then 0 else 1 := by
  rw [exit_of_fixResult, h]
  by_cases hAll : turns.all changes = true
  · have hNone : turns.countP (fun turn => !changes turn) = 0 := by
      rw [List.countP_eq_zero]
      intro turn hTurn
      simp [List.all_eq_true.mp hAll turn hTurn]
    rw [hNone, if_neg (Nat.lt_irrefl 0), if_pos hAll]
  · have hSome : 0 < turns.countP fun turn => !changes turn := by
      rw [List.countP_pos_iff]
      simpa using hAll
    rw [if_pos hSome, if_neg hAll]

/-
  The command fails only in vain, and exits with a fault if
  one of the rules has come to its turn in vain.
-/
theorem fixCommand_fails_only_in_vain
    {workspace : Workspace}
    {options : FixOptions}
    {project root : Path}
    {config : Config}
    (h : FixRequest .builtin workspace options project root
      config) :
    ∃ files report after work,
      FixAnswer .builtin workspace options project root config
          files report after work ∧
        ((∀ result ∈ work.results,
            result.isSystemFault = false) →
          FailsInVain
              ((config.scanner .builtin).turns options.rules
                workspace.tree files)
              (fixable report options.rules) work.results ∧
            (fixResult options.json work).exit =
              if ((config.scanner .builtin).turns options.rules
                  workspace.tree files).all Candidate.changes
              then 0 else 1) := by
  rcases h.projectFix Registry.distinctIds_builtin
      (fun _ hRule => Registry.total_of_mem_builtin hRule) with
    ⟨files, report, after, work, hAnswer, hFix⟩
  refine ⟨files, report, after, work, hAnswer, ?_⟩
  intro hCalm
  have hVain := (hFix hCalm).failsInVain fun _ hRule =>
    Registry.agrees_of_mem_builtin
      ((config.scanner_sublist _).subset hRule)
  exact ⟨hVain, exit_of_failures hVain.failures options.json⟩

/- One of the two fixes has failed. -/
theorem failures_of_overlaps
    {results : List FixResult}
    (h : results.map (·.success) = [true, false]) :
    (Batch.mk results).failures = 1 := by
  rw [Batch.failures_eq]
  exact congrArg (List.countP (!·)) h

/- The second of the two rules comes to its turn in vain. -/
theorem fixCommand_fails_in_vain_on_overlap :
    ∃ files report after work,
      FixAnswer .builtin overlap overlapFix overlapRoot
          overlapRoot .standard files report after work ∧
        FailsInVain
          ((Config.standard.scanner .builtin).turns []
            overlap.tree files)
          (fixable report []) work.results ∧
        (Batch.mk work.results).failures = 1 := by
  rcases of_overlaps overlap_builtin.1 with
    ⟨last, done, hFix, hCalm, hSuccess⟩
  rcases fixCommand_fails_only_in_vain overlap_request with
    ⟨files, report, after, work, hAnswer, hVain⟩
  cases hFix.symm.trans hAnswer.worked
  exact ⟨files, report, _, _, hAnswer, (hVain hCalm).1,
    failures_of_overlaps hSuccess⟩

/-
  Not every fix of a fresh scan succeeds, even if the file
  system never objects.
-/
theorem fixCommand_fails_on_overlap :
    ∃ after work,
      overlap.fixProject .builtin
          (Config.standard.scanner .builtin) overlapRoot [] =
            (after, .ok work) ∧
        (∀ result ∈ work.results,
          result.isSystemFault = false) ∧
        ¬ (∀ result ∈ work.results, result.success = true) ∧
        (Batch.mk work.results).failures = 1 ∧
        (overlap.fixCommand overlapFix).2.exit = 1 := by
  rcases of_overlaps overlap_builtin.1 with
    ⟨after, work, hFix, hCalm, hSuccess⟩
  have hFailures := failures_of_overlaps hSuccess
  refine ⟨after, work, hFix, hCalm, ?_, hFailures, ?_⟩
  · intro hAll
    have hFailed : false ∈ work.results.map (·.success) := by
      rw [hSuccess]
      exact List.mem_cons_of_mem _ List.mem_cons_self
    rcases List.mem_map.mp hFailed with
      ⟨result, hResult, hFalse⟩
    rw [hAll result hResult] at hFalse
    cases hFalse
  · rcases overlap_request.projectFix
        Registry.distinctIds_builtin
        (fun _ hRule => Registry.total_of_mem_builtin hRule) with
      ⟨_, _, _, _, hAnswer, _⟩
    cases hFix.symm.trans hAnswer.worked
    rw [hAnswer.ended, exit_of_fixResult, hFailures]
    rfl

end Workspace

end GradleMigration
