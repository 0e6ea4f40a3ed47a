import GradleMigration.Proofs.Fix.Steady
import GradleMigration.Proofs.Fix.Step
import GradleMigration.Rule.Builtin
import GradleMigration.Session

/-
  Whole runs of a session: analyses, fixes, restores and
  clearing in any order, while the files around the session
  change as they like.

  The report that is held is the last analysis without what
  has been fixed since, and a call that is refused changes
  nothing.

  Main declarations:
    * `SessionEvent` and `SessionAnswer`
    * `SessionState.step` and `SessionState.run`
    * `History`
    * `SessionState.Tracks`
    * `SessionState.tracks_step`
    * `SessionState.tracks_run`
    * `SessionState.held_report_of_run`
-/

------------------------------------------------------------
-- Events and Runs
------------------------------------------------------------

namespace GradleMigration

/-
  What a caller asks of a session, or what becomes of the
  surroundings without its doing: files are written and
  deleted, and time goes by.
-/
inductive SessionEvent where
| analyze (given : Option String)
| fix (ids : List String)
| restore (result : FixResult)
| clear
| elsewhere (workspace : Workspace)

/- What an event answers. -/
inductive SessionAnswer where
| analyzed (answer : Except ScanFault Report)
| fixed (answer : Except SessionFault Batch)
| restored (answer : Except BackupFault Bool)
| none

/- Whether an analysis or a fix has been refused. -/
def SessionAnswer.isRefusal : SessionAnswer → Bool
| .analyzed (.error _) => true
| .fixed (.error _) => true
| _ => false

/- A session and the workspace around it. -/
structure SessionState where
  session : Session
  workspace : Workspace

namespace SessionState

/- A session that has analyzed nothing yet. -/
def start
    (registry : Registry)
    (scanner : Scanner)
    (workspace : Workspace) : SessionState :=
  ⟨⟨registry, scanner, none⟩, workspace⟩

/- What an event does and answers. -/
def step
    (state : SessionState) :
    SessionEvent → SessionState × SessionAnswer
| .analyze given =>
    match state.session.analyze state.workspace given with
    | .error fault => (state, .analyzed (.error fault))
    | .ok (session, workspace, report) =>
        (⟨session, workspace⟩, .analyzed (.ok report))
| .fix ids =>
    let (session, workspace, answer) :=
      state.session.fix state.workspace ids
    (⟨session, workspace⟩, .fixed answer)
| .restore result =>
    match Session.restore state.workspace result with
    | .error fault => (state, .restored (.error fault))
    | .ok (workspace, done) =>
        ({ state with workspace := workspace },
          .restored (.ok done))
| .clear =>
    ({ state with session := state.session.clear }, .none)
| .elsewhere workspace =>
    ({ state with workspace := workspace }, .none)

/- Events one after another, with all their answers. -/
def run
    (state : SessionState) :
    List SessionEvent → SessionState × List SessionAnswer
| [] => (state, [])
| event :: events =>
    let (next, answer) := state.step event
    let (last, answers) := run next events
    (last, answer :: answers)

end SessionState

end GradleMigration

------------------------------------------------------------
-- What a Run Has Answered
------------------------------------------------------------

namespace GradleMigration

/-
  The report that the last successful analysis returned, and
  the batches that fixes have returned since.
-/
structure History where
  analysis : Option Report
  batches : List Batch

namespace History

/- Nothing has been answered. -/
def empty : History :=
  ⟨none, []⟩

/- Take one more answer into account. -/
def add
    (history : History) : SessionAnswer → History
| .analyzed (.ok report) => ⟨some report, []⟩
| .fixed (.ok batch) =>
    { history with batches := history.batches ++ [batch] }
| _ => history

/- What answers tell, in their order. -/
def ofAnswers
    (answers : List SessionAnswer) : History :=
  answers.foldl add empty

/-
  Some fix since the last analysis has returned a success
  that carries an id.
-/
def HasFixed
    (history : History)
    (id : String) : Prop :=
  ∃ batch ∈ history.batches,
    ∃ result ∈ batch.results,
      result.success = true ∧ result.findingId = id

/- The ids that fixes since the last analysis have fixed. -/
def fixedIds
    (history : History) : List String :=
  history.batches.flatMap Batch.fixedIds

theorem mem_fixedIds_iff
    {history : History}
    {id : String} :
    id ∈ history.fixedIds ↔ history.HasFixed id := by
  simp [fixedIds, HasFixed, Batch.fixedIds, and_assoc]

end History

end GradleMigration

------------------------------------------------------------
-- One Step
------------------------------------------------------------

namespace GradleMigration

/- Removing ids one after another removes them together. -/
theorem Report.findings_remove_remove
    (report : Report)
    (ids more : List String) :
    ((report.remove ids).remove more).findings =
      (report.remove (ids ++ more)).findings := by
  simp only [remove, List.filter_filter]
  apply List.filter_congr
  intro finding _
  rw [List.contains_eq_mem, List.contains_eq_mem,
    List.contains_eq_mem, Bool.eq_iff_iff]
  simp [and_comm]

/- A report finds nothing but its own findings. -/
theorem Report.mem_of_mem_get
    {report : Report}
    {ids : List String}
    {finding : Finding}
    (h : finding ∈ report.get ids) :
    finding ∈ report.findings := by
  rcases List.mem_filterMap.mp h with ⟨id, _, hFind⟩
  exact List.mem_reverse.mp (List.mem_of_find?_eq_some hFind)

/- What fixes are asked for are findings of the held report. -/
theorem Session.of_select
    {session : Session}
    {ids : List String}
    {report : Report}
    {findings : List Finding}
    (h : session.select ids = .ok (report, findings)) :
    session.report = some report ∧
      ∀ finding ∈ findings, finding ∈ report.findings := by
  unfold select at h
  simp only at h
  split at h
  · cases h
  · split at h
    · cases h
    · next held hHeld =>
        split at h
        · cases h
        · cases h
          exact ⟨hHeld, fun _ => Report.mem_of_mem_get⟩

namespace SessionState

variable {registry : Registry} {scanner : Scanner}

/-
  The invariant of a run: the registry and the scanner stay,
  a held report is what the last analysis returned without
  what has been fixed since, and none of its findings can
  stop a batch.
-/
structure Tracks
    (registry : Registry)
    (scanner : Scanner)
    (state : SessionState)
    (history : History) : Prop where
  registry_eq : state.session.registry = registry
  scanner_eq : state.session.scanner = scanner
  report_eq :
    ∀ report, state.session.report = some report →
      ∃ analysis, history.analysis = some analysis ∧
        report.findings =
          (analysis.remove history.fixedIds).findings
  steady :
    ∀ report, state.session.report = some report →
      ∀ finding ∈ report.findings, registry.Steady finding

/- A session that has analyzed nothing tracks nothing. -/
theorem tracks_start
    (registry : Registry)
    (scanner : Scanner)
    (workspace : Workspace) :
    (start registry scanner workspace).Tracks registry scanner
      .empty where
  registry_eq := rfl
  scanner_eq := rfl
  report_eq := by
    intro report hReport
    cases hReport
  steady := by
    intro report hReport
    cases hReport

/- The invariant does not speak about the workspace. -/
theorem Tracks.with_workspace
    {state : SessionState}
    {history : History}
    (h : state.Tracks registry scanner history)
    (workspace : Workspace) :
    ({ state with workspace := workspace } :
      SessionState).Tracks registry scanner history where
  registry_eq := h.registry_eq
  scanner_eq := h.scanner_eq
  report_eq := h.report_eq
  steady := h.steady

/- An analysis starts the history of its report. -/
theorem tracks_analyze
    (hDistinct : registry.DistinctIds)
    (hRules : scanner.rules ⊆ registry.rules)
    {state : SessionState}
    {history : History}
    (h : state.Tracks registry scanner history)
    (given : Option String) :
    (state.step (.analyze given)).1.Tracks registry scanner
      (history.add (state.step (.analyze given)).2) := by
  unfold step
  simp only
  split
  · exact h
  · next session workspace report hAnalyze =>
      unfold Session.analyze at hAnalyze
      split at hAnalyze
      · cases hAnalyze
      · next root hRoot =>
          split at hAnalyze
          · cases hAnalyze
          · next after scanned hScan =>
              cases hAnalyze
              rcases map_eq_ok_iff.mp hScan with
                ⟨report, hMade, hEq⟩
              cases hEq
              rw [h.scanner_eq] at hMade
              refine
                { registry_eq := h.registry_eq
                  scanner_eq := h.scanner_eq
                  report_eq := ?_
                  steady := ?_ }
              · intro report hReport
                cases hReport
                refine ⟨_, rfl, ?_⟩
                -- Nothing has been fixed since this analysis.
                exact (List.filter_eq_self.mpr
                  (fun _ _ => rfl)).symm
              · intro report hReport finding hFinding
                cases hReport
                exact Scanner.steady_of_scan hDistinct hRules
                  (FileTree.of_projectRoot hRoot).1
                  hMade hFinding

/-
  A fix of a tracked session is refused before anything has
  been done, or it returns a batch whose successes leave the
  held report.
-/
theorem fix_cases
    {state : SessionState}
    {history : History}
    (h : state.Tracks registry scanner history)
    (ids : List String) :
    (∃ fault, state.session.fix state.workspace ids =
      (state.session, state.workspace, .error fault)) ∨
    ∃ report workspace batch,
      state.session.report = some report ∧
        state.session.fix state.workspace ids =
          ({ state.session with
              report := some (report.discardFixed batch) },
            workspace, .ok batch) := by
  unfold Session.fix
  cases hSelect : state.session.select ids with
  | error fault => exact Or.inl ⟨fault, rfl⟩
  | ok selected =>
      obtain ⟨report, findings⟩ := selected
      rcases Session.of_select hSelect with
        ⟨hReport, hFindings⟩
      have hSteady :
          ∀ finding ∈ findings,
            state.session.registry.Steady finding := by
        intro finding hFinding
        rw [h.registry_eq]
        exact h.steady report hReport finding
          (hFindings finding hFinding)
      rcases Registry.applyBatch_of_steady hSteady
          state.workspace with
        ⟨after, batch, hBatch⟩
      refine Or.inr ⟨report, after, batch, hReport, ?_⟩
      simp only [hBatch]

/- The step of a fix is that of its session. -/
theorem step_fix
    {state : SessionState}
    {ids : List String}
    {session : Session}
    {workspace : Workspace}
    {answer : Except SessionFault Batch}
    (h : state.session.fix state.workspace ids =
      (session, workspace, answer)) :
    state.step (.fix ids) =
      (⟨session, workspace⟩, .fixed answer) := by
  simp only [step, h]

/- A fix adds its batch to the history. -/
theorem tracks_fix
    {state : SessionState}
    {history : History}
    (h : state.Tracks registry scanner history)
    (ids : List String) :
    (state.step (.fix ids)).1.Tracks registry scanner
      (history.add (state.step (.fix ids)).2) := by
  rcases fix_cases h ids with
    ⟨fault, hFix⟩ | ⟨report, workspace, batch, hHeld, hFix⟩
  · rw [step_fix hFix]
    exact h
  · rw [step_fix hFix]
    refine
      { registry_eq := h.registry_eq
        scanner_eq := h.scanner_eq
        report_eq := ?_
        steady := ?_ }
    · intro left hLeft
      cases hLeft
      rcases h.report_eq report hHeld with
        ⟨analysis, hAnalysis, hFindings⟩
      refine ⟨analysis, hAnalysis, ?_⟩
      have hIds :
          (history.add (.fixed (.ok batch))).fixedIds =
            history.fixedIds ++ batch.fixedIds := by
        simp [History.add, History.fixedIds]
      rw [hIds, ← Report.findings_remove_remove]
      simp only [Report.discardFixed, Report.remove] at *
      rw [hFindings]
    · intro left hLeft finding hFinding
      cases hLeft
      exact h.steady report hHeld finding
        (List.mem_filter.mp hFinding).1

/- Every event keeps the invariant. -/
theorem tracks_step
    (hDistinct : registry.DistinctIds)
    (hRules : scanner.rules ⊆ registry.rules)
    {state : SessionState}
    {history : History}
    (h : state.Tracks registry scanner history)
    (event : SessionEvent) :
    (state.step event).1.Tracks registry scanner
      (history.add (state.step event).2) := by
  cases event with
  | analyze given => exact tracks_analyze hDistinct hRules h given
  | fix ids => exact tracks_fix h ids
  | restore result =>
      unfold step
      simp only
      split
      · exact h
      · exact h.with_workspace _
  | clear =>
      refine
        { registry_eq := h.registry_eq
          scanner_eq := h.scanner_eq
          report_eq := ?_
          steady := ?_ }
      · intro report hReport
        cases hReport
      · intro report hReport
        cases hReport
  | elsewhere workspace => exact h.with_workspace workspace

/- A refused event of a tracked session changes nothing. -/
theorem step_of_isRefusal
    {state : SessionState}
    {history : History}
    (h : state.Tracks registry scanner history)
    {event : SessionEvent}
    (hRefusal : (state.step event).2.isRefusal = true) :
    (state.step event).1 = state := by
  cases event with
  | analyze given =>
      unfold step at hRefusal ⊢
      simp only at hRefusal ⊢
      split at hRefusal
      · rfl
      · cases hRefusal
  | fix ids =>
      rcases fix_cases h ids with
        ⟨fault, hFix⟩ | ⟨report, workspace, batch, _, hFix⟩
      · rw [step_fix hFix]
      · rw [step_fix hFix] at hRefusal
        cases hRefusal
  | restore result =>
      unfold step at hRefusal
      simp only at hRefusal
      split at hRefusal
      · cases hRefusal
      · cases hRefusal
  | clear => cases hRefusal
  | elsewhere workspace => cases hRefusal

end SessionState

end GradleMigration

------------------------------------------------------------
-- Whole Runs
------------------------------------------------------------

namespace GradleMigration

namespace SessionState

variable {registry : Registry} {scanner : Scanner}

/- A run keeps the invariant, whatever its events are. -/
theorem tracks_run
    (hDistinct : registry.DistinctIds)
    (hRules : scanner.rules ⊆ registry.rules)
    {state : SessionState}
    {history : History}
    (h : state.Tracks registry scanner history)
    (events : List SessionEvent) :
    (state.run events).1.Tracks registry scanner
      ((state.run events).2.foldl History.add history) := by
  induction events generalizing state history with
  | nil => exact h
  | cons event rest ih =>
      exact ih (tracks_step hDistinct hRules h event)

/-
  After any run of a session whose scanner looks for rules of
  its registry:  a held report has the findings of the last
  successful analysis in their order, and exactly those are
  missing whose id a success since then carries; and whatever
  analysis or fix is refused next leaves the report and the
  file tree as they are.
-/
theorem held_report_of_run
    {source : String}
    {entries : List RuleEntry}
    (hLoaded : Registry.ofEntries source entries = .ok registry)
    (hRules : scanner.rules ⊆ registry.rules)
    (workspace : Workspace)
    (events : List SessionEvent) :
    let reached :=
      ((start registry scanner workspace).run events).1
    let history := History.ofAnswers
      ((start registry scanner workspace).run events).2
    (∀ report, reached.session.report = some report →
      ∃ analysis, history.analysis = some analysis ∧
        report.findings.Sublist analysis.findings ∧
        ∀ finding ∈ analysis.findings,
          finding ∉ report.findings ↔
            history.HasFixed finding.id) ∧
    ∀ event, (reached.step event).2.isRefusal = true →
      (reached.step event).1.session.report =
          reached.session.report ∧
        (reached.step event).1.workspace.tree =
          reached.workspace.tree := by
  intro reached history
  have hTracks :
      reached.Tracks registry scanner history :=
    tracks_run (Registry.distinctIds_of_ofEntries hLoaded)
      hRules (tracks_start registry scanner workspace) events
  refine ⟨?_, ?_⟩
  · intro report hReport
    rcases hTracks.report_eq report hReport with
      ⟨analysis, hAnalysis, hFindings⟩
    refine ⟨analysis, hAnalysis, ?_, ?_⟩
    · rw [hFindings]
      exact List.filter_sublist
    · intro finding hFinding
      rw [hFindings, ← History.mem_fixedIds_iff]
      simp [Report.remove, hFinding]
  · intro event hRefusal
    rw [step_of_isRefusal hTracks hRefusal]
    exact ⟨rfl, rfl⟩

end SessionState

end GradleMigration

------------------------------------------------------------
-- A Run on One Script
------------------------------------------------------------

namespace GradleMigration

namespace SessionState

/- A session for some rules in a workspace with one script. -/
def single
    (registry : Registry) : SessionState :=
  start registry ⟨registry.rules, []⟩
    (.single "x = sourceSets.main.output.classesDir")

/- An unknown path, an analysis, a fix, and fixes in vain. -/
def singleEvents : List SessionEvent :=
  [.analyze (some "/q"), .analyze (some "/p"),
   .fix ["finding-0", "finding-0", ""], .fix ["finding-0"],
   .fix []]

/- Whether the only finding of the run has been fixed. -/
def fixesSingle
    (entries : List RuleEntry) : Bool :=
  match Registry.ofEntries "single" entries with
  | .error _ => false
  | .ok registry =>
      let (reached, answers) := (single registry).run singleEvents
      reached.session.report.map (·.findings.length) == some 0 &&
        answers.map (·.isRefusal) ==
          [true, false, false, true, true]

theorem of_fixesSingle
    {entries : List RuleEntry}
    (h : fixesSingle entries = true) :
    ∃ registry,
      Registry.ofEntries "single" entries = .ok registry ∧
        ((single registry).run
            singleEvents).1.session.report.map
              (·.findings.length) = some 0 ∧
        ((single registry).run singleEvents).2.map
            (·.isRefusal) =
          [true, false, false, true, true] := by
  unfold fixesSingle at h
  split at h
  · cases h
  · next registry hLoaded =>
      refine ⟨registry, hLoaded, ?_⟩
      -- What the run comes to does not matter here.
      generalize (single registry).run singleEvents = run at h ⊢
      rw [Bool.and_eq_true, beq_iff_eq, beq_iff_eq] at h
      exact h

/- The run holds a report without its only finding. -/
theorem held_report_of_single_run :
    ∃ registry,
      Registry.ofEntries "single" [Builtin.sourcesetOutput] =
          .ok registry ∧
        (((single registry).run
            singleEvents).1.session.report.map
              (·.findings.length) = some 0 ∧
          ((single registry).run singleEvents).2.map
              (·.isRefusal) =
            [true, false, false, true, true]) ∧
        ∃ analysis,
          (History.ofAnswers
            ((single registry).run singleEvents).2).analysis =
              some analysis ∧
          ∀ finding ∈ analysis.findings,
            (History.ofAnswers
              ((single registry).run singleEvents).2).HasFixed
                finding.id := by
  rcases of_fixesSingle
      (show fixesSingle [Builtin.sourcesetOutput] = true by
        rw [fixesSingle, Registry.ofEntries_eq_decoded]
        decide +kernel) with
    ⟨registry, hLoaded, hFacts⟩
  rcases Option.map_eq_some_iff.mp hFacts.1 with
    ⟨report, hReport, hNone⟩
  rcases (held_report_of_run hLoaded (fun _ hRule => hRule)
      _ singleEvents).1 report hReport with
    ⟨analysis, hAnalysis, _, hMissing⟩
  refine ⟨registry, hLoaded, hFacts, analysis, hAnalysis, ?_⟩
  intro finding hFinding
  apply (hMissing finding hFinding).mp
  rw [List.length_eq_zero_iff.mp hNone]
  exact List.not_mem_nil

end SessionState

end GradleMigration
