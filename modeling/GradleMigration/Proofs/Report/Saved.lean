import GradleMigration.Proofs.Data.Schema
import GradleMigration.Proofs.File.Print
import GradleMigration.Proofs.JsonText.Limits
import GradleMigration.Report.Saved

/-
  Saved reports are read back: a report from its own text, and
  whatever a text is read as from the text written for it.

  Main declarations:
    * `ModuleSet.ofList_names`
    * `Finding.check_toDatum`
    * `Report.check_toDatum`
    * `Report.readable_toDatum`
    * `Report.parse_print`
    * `Report.admits_line_of_parse`
    * `Report.saved_again`
-/

------------------------------------------------------------
-- Parts of Findings
------------------------------------------------------------

namespace GradleMigration

namespace ModuleSet

/- A least name is put in front. -/
theorem insertName_of_lt
    {name : String}
    {names : List String}
    (h : ∀ other ∈ names, name < other) :
    insertName name names = name :: names := by
  cases names with
  | nil => rfl
  | cons other rest =>
      have hLess := h other List.mem_cons_self
      have hNot : name ≠ other := by
        rintro rfl
        exact String.lt_irrefl _ hLess
      rw [insertName, if_neg hNot, if_pos hLess]

/- Names in order make up the set with just these names. -/
theorem names_ofList
    {names : List String}
    (h : names.Pairwise (· < ·)) :
    (ofList names).names = names := by
  induction names with
  | nil => rfl
  | cons name rest ih =>
      rw [List.pairwise_cons] at h
      rw [ofList, insert]
      dsimp only
      rw [ih h.2, insertName_of_lt h.1]

/- The names of a set make up the set. -/
theorem ofList_names
    (set : ModuleSet) :
    ofList set.names = set := by
  have hNames := names_ofList set.sorted
  cases hSet : ofList set.names with
  | mk others hSorted =>
      rw [hSet] at hNames
      subst hNames
      rfl

end ModuleSet

namespace Schema

theorem severity_name
    (severity : Severity) :
    Schema.severity (.text severity.name) =
      .good severity := by
  cases severity with
  | critical => rfl
  | high => rfl
  | medium => rfl
  | low => rfl

theorem path_print
    (path : Path) :
    Schema.path (.text path.print) = .good path := by
  rw [Schema.path]
  apply Checked.map_eq_good_iff.mpr
  exact ⟨path.print, rfl, path.parse_print⟩

theorem listOf_texts
    (values : List String) :
    listOf text (.texts values) = .good values := by
  have hText : ∀ value ∈ values,
      text (.text value) = .good value :=
    fun _ _ => rfl
  exact itemsFrom_map hText 0

theorem moduleSet_names
    (set : ModuleSet) :
    moduleSet (.texts set.names) = .good set := by
  rw [moduleSet]
  apply Checked.map_eq_good_iff.mpr
  exact ⟨set.names, listOf_texts set.names, set.ofList_names⟩

theorem listOf_paths
    (paths : List Path) :
    listOf path (.texts (paths.map Path.print)) =
      .good paths := by
  rw [Datum.texts, List.map_map]
  exact itemsFrom_map (fun p _ => path_print p) 0

end Schema

end GradleMigration

------------------------------------------------------------
-- Checking What Was Written
------------------------------------------------------------

namespace GradleMigration

/- A finding passes the schema as itself. -/
theorem Finding.check_toDatum
    (finding : Finding) :
    Schema.model Finding.check finding.toDatum =
      .good finding := by
  simp [Finding.toDatum, Occurrence.toTable, Schema.model,
    Finding.check, Schema.required, Schema.optional,
    Table.get?, List.lookup_cons, Schema.text,
    Schema.severity_name, Schema.path_print, Schema.int,
    Schema.bool, Schema.moduleSet_names, Checked.under]
  rfl

/- A report passes the schema as itself. -/
theorem Report.check_toDatum
    (report : Report) :
    Schema.model Report.check report.toDatum =
      .good report := by
  have hFindings :
      Schema.listOf (Schema.model Finding.check)
          (.list (report.findings.map Finding.toDatum)) =
        .good report.findings :=
    Schema.itemsFrom_map
      (fun finding _ => finding.check_toDatum) 0
  simp [Report.toDatum, Schema.model, Report.check,
    Schema.required, Schema.optional, Table.get?,
    List.lookup_cons, Schema.text, Schema.path_print, Schema.int,
    Schema.bool, Schema.listOf_texts, Schema.listOf_paths,
    hFindings, Datum.count, Checked.under]
  rfl

end GradleMigration

------------------------------------------------------------
-- Reading What Was Written
------------------------------------------------------------

namespace GradleMigration

theorem Datum.readable_texts
    (depth : Nat)
    (values : List String) :
    (Datum.texts values).Readable (depth + 1) := by
  apply Datum.Readable.list
  intro item hMem
  rcases List.mem_map.mp hMem with ⟨value, -, rfl⟩
  exact .text value

/- Findings with admitted line numbers can be read back. -/
theorem Finding.readable_toDatum
    {finding : Finding}
    (h : JsonText.Admits finding.line)
    (depth : Nat) :
    finding.toDatum.Readable (depth + 2) := by
  apply Datum.Readable.table
  · simp only [Occurrence.toTable, List.forall_mem_cons]
    exact ⟨.text _, .text _, .text _, .text _, .text _,
      .text _, .int h, .text _, .text _, .text _, .bool _,
      Datum.readable_texts depth _,
      fun entry hMem => absurd hMem List.not_mem_nil⟩
  · simp only [Occurrence.toTable, List.map_cons,
      List.map_nil]
    decide

namespace Report

/- The greatest count of a report is that of its findings. -/
theorem admits_count
    {report : Report}
    (h : JsonText.Admits report.total)
    {n : Nat}
    (hLess : n ≤ report.findings.length) :
    JsonText.Admits n := by
  rw [JsonText.admits_iff, Int.natAbs_natCast] at h ⊢
  exact Nat.lt_of_le_of_lt hLess h

/-
  Reports can be read back when the limit of digits admits
  their line numbers and their number of findings.
-/
theorem readable_toDatum
    {report : Report}
    (hLines : ∀ finding ∈ report.findings,
      JsonText.Admits finding.line)
    (hTotal : JsonText.Admits report.total) :
    report.toDatum.Readable JsonText.maxDepth := by
  have hFindings :
      (Datum.list (report.findings.map
        Finding.toDatum)).Readable 199 := by
    apply Datum.Readable.list
    intro item hMem
    rcases List.mem_map.mp hMem with ⟨finding, hFinding, rfl⟩
    exact Finding.readable_toDatum (hLines finding hFinding)
      196
  apply Datum.Readable.table
  · simp only [List.forall_mem_cons]
    exact ⟨.text _, .text _, .text _, .bool _,
      Datum.readable_texts 198 _, hFindings,
      Datum.readable_texts 198 _,
      .int hTotal,
      .int (admits_count hTotal List.countP_le_length),
      .int (admits_count hTotal List.countP_le_length),
      fun entry hMem => absurd hMem List.not_mem_nil⟩
  · simp only [List.map_cons, List.map_nil]
    decide

/- The text of a report holds the data of the report. -/
theorem jsonParse_print
    {report : Report}
    (hLines : ∀ finding ∈ report.findings,
      JsonText.Admits finding.line)
    (hTotal : JsonText.Admits report.total) :
    JsonText.parse (Text.unifyNewlines report.print) =
      some report.toDatum := by
  have hReadable := readable_toDatum hLines hTotal
  rw [print, JsonText.unifyNewlines_print hReadable,
    JsonText.parse_print hReadable]

/- A report is read back from its text. -/
theorem parse_print
    {report : Report}
    (hLines : ∀ finding ∈ report.findings,
      JsonText.Admits finding.line)
    (hTotal : JsonText.Admits report.total) :
    parse (Text.unifyNewlines report.print) =
      .good report := by
  rw [parse, jsonParse_print hLines hTotal]
  exact report.check_toDatum

end Report

end GradleMigration

------------------------------------------------------------
-- Line Numbers That Are Read
------------------------------------------------------------

namespace GradleMigration

/- The line number of a finding is the one in its table. -/
theorem Finding.line_of_check
    {table : Table}
    {finding : Finding}
    (h : Finding.check table = .good finding) :
    Schema.required table "line_number" Schema.int =
      .good finding.line := by
  unfold Finding.check at h
  -- the parts are taken off from the last to the first
  rcases Checked.seq_eq_good_iff.mp h with
    ⟨_, modules, h₁, -, rfl⟩
  rcases Checked.seq_eq_good_iff.mp h₁ with
    ⟨_, autoFixable, h₂, -, rfl⟩
  rcases Checked.seq_eq_good_iff.mp h₂ with
    ⟨_, suggestedFix, h₃, -, rfl⟩
  rcases Checked.seq_eq_good_iff.mp h₃ with
    ⟨_, explanation, h₄, -, rfl⟩
  rcases Checked.seq_eq_good_iff.mp h₄ with
    ⟨_, matched, h₅, -, rfl⟩
  rcases Checked.seq_eq_good_iff.mp h₅ with
    ⟨_, line, h₆, hLine, rfl⟩
  rcases Checked.seq_eq_good_iff.mp h₆ with
    ⟨_, file, h₇, -, rfl⟩
  rcases Checked.seq_eq_good_iff.mp h₇ with
    ⟨_, description, h₈, -, rfl⟩
  rcases Checked.seq_eq_good_iff.mp h₈ with
    ⟨_, title, h₉, -, rfl⟩
  rcases Checked.seq_eq_good_iff.mp h₉ with
    ⟨_, severity, h₁₀, -, rfl⟩
  rcases Checked.seq_eq_good_iff.mp h₁₀ with
    ⟨_, ruleId, h₁₁, -, rfl⟩
  rcases Checked.map_eq_good_iff.mp h₁₁ with ⟨id, -, rfl⟩
  exact hLine

/- The line number of a checked finding is admitted. -/
theorem Finding.admits_line_of_check
    {datum : Datum}
    (hLimited : datum.Limited)
    {finding : Finding}
    (h : Schema.model Finding.check datum = .good finding) :
    JsonText.Admits finding.line := by
  cases hLimited with
  | @table table hEntries =>
      rcases Schema.required_eq_good_iff.mp
        (Finding.line_of_check h) with ⟨line, hThere, hLine⟩
      exact Schema.admits_of_int
        (hEntries _ (Table.mem_of_get? hThere)) hLine
  | _ => cases h

namespace Report

/- The findings of a report are those in its table. -/
theorem findings_of_check
    {table : Table}
    {report : Report}
    (h : Report.check table = .good report) :
    Schema.optional table "findings" []
        (Schema.listOf (Schema.model Finding.check)) =
      .good report.findings := by
  unfold Report.check at h
  rcases Checked.seq_eq_good_iff.mp h with
    ⟨_, autoFixable, h₁, -, rfl⟩
  rcases Checked.seq_eq_good_iff.mp h₁ with
    ⟨_, critical, h₂, -, rfl⟩
  rcases Checked.seq_eq_good_iff.mp h₂ with
    ⟨_, total, h₃, -, rfl⟩
  rcases Checked.seq_eq_good_iff.mp h₃ with
    ⟨_, skipped, h₄, -, rfl⟩
  rcases Checked.seq_eq_good_iff.mp h₄ with
    ⟨_, findings, h₅, hFindings, rfl⟩
  rcases Checked.seq_eq_good_iff.mp h₅ with
    ⟨_, modules, h₆, -, rfl⟩
  rcases Checked.seq_eq_good_iff.mp h₆ with
    ⟨_, multiModule, h₇, -, rfl⟩
  rcases Checked.seq_eq_good_iff.mp h₇ with
    ⟨_, version, h₈, -, rfl⟩
  rcases Checked.seq_eq_good_iff.mp h₈ with
    ⟨_, name, h₉, -, rfl⟩
  rcases Checked.map_eq_good_iff.mp h₉ with ⟨project, -, rfl⟩
  exact hFindings

/- Every line number that is read from a text is admitted. -/
theorem admits_line_of_parse
    {text : List Char}
    {report : Report}
    (h : parse text = .good report) :
    ∀ finding ∈ report.findings,
      JsonText.Admits finding.line := by
  intro finding hMem
  unfold parse at h
  split at h
  · cases h
  · next datum hDatum =>
      cases JsonText.limited_of_parse hDatum with
      | @table table hEntries =>
          rcases (Schema.optional_eq_good_iff
            fun _ _ => Iff.rfl).mp (findings_of_check h) with
            ⟨-, hNone⟩ | ⟨part, hThere, hList⟩
          · rw [hNone] at hMem
            cases hMem
          · have hPart :=
              hEntries _ (Table.mem_of_get? hThere)
            rcases Schema.exists_of_mem_listOf hList hMem with
              ⟨items, rfl, item, hItem, hFinding⟩
            cases hPart with
            | list hItems =>
                exact Finding.admits_line_of_check
                  (hItems item hItem) hFinding
      | _ => cases h

end Report

end GradleMigration

------------------------------------------------------------
-- Saving Again
------------------------------------------------------------

namespace GradleMigration

namespace Report

/- The counts in the data of a report are its own. -/
theorem counts_toDatum
    (report : Report) :
    ∃ table : Table, report.toDatum = .table table ∧
      table.get? "total_findings" =
        some (.int report.findings.length) ∧
      table.get? "critical_findings" =
        some (.int (report.findings.countP
          (·.severity = .critical))) ∧
      table.get? "auto_fixable_findings" =
        some (.int (report.findings.countP
          (·.autoFixable))) :=
  ⟨_, rfl, rfl, rfl, rfl⟩

/-
  A report is read back from its own text.  What another text
  is read as, whatever counts it holds, is read back from the
  text written for it, and the counts written there are those
  of the findings.  The counts are integers of the text like
  the line numbers; the number of findings is the greatest.
-/
theorem saved_again :
    (∀ report : Report,
      (∀ finding ∈ report.findings,
        JsonText.Admits finding.line) →
      JsonText.Admits report.total →
      parse (Text.unifyNewlines report.print) =
        .good report) ∧
    (∀ (text : List Char) (report : Report),
      parse text = .good report →
      JsonText.Admits report.total →
      parse (Text.unifyNewlines report.print) =
        .good report ∧
      ∃ table : Table,
        JsonText.parse (Text.unifyNewlines report.print) =
          some (.table table) ∧
        table.get? "total_findings" =
          some (.int report.findings.length) ∧
        table.get? "critical_findings" =
          some (.int (report.findings.countP
            (·.severity = .critical))) ∧
        table.get? "auto_fixable_findings" =
          some (.int (report.findings.countP
            (·.autoFixable)))) := by
  constructor
  · intro report hLines hTotal
    exact parse_print hLines hTotal
  · intro text report hParse hTotal
    have hLines := admits_line_of_parse hParse
    rcases report.counts_toDatum with
      ⟨table, hTable, hCounts⟩
    refine ⟨parse_print hLines hTotal, table, ?_, hCounts⟩
    rw [jsonParse_print hLines hTotal, hTable]

/- A report with line ends, quotes and an odd line number. -/
def oddReport : Report where
  project := .parse "/p"
  name := "a\"b\\c\r\n"
  version := "8.5"
  multiModule := true
  modules := ["", "b"]
  findings :=
    [ { id := "f1"
        ruleId := "R1"
        severity := .critical
        title := "t\x0b"
        description := ""
        file := .parse "../x.gradle"
        line := -3
        matched := "\r"
        explanation := "é"
        suggestedFix := ""
        autoFixable := true
        modules := .ofList ["b", "a"] } ]
  skipped := [.parse "."]

/- A text that holds nine findings by its count and none. -/
def miscounted : List Char :=
  ("\x7b\"project_path\": \"/p//q\", " ++
    "\"project_name\": \"\\r\\u000b\", " ++
    "\"total_findings\": 9\x7d").toList

/- The report that the text is read as. -/
def recounted : Report where
  project := .parse "/p/q"
  name := "\r\x0b"
  version := "unknown"
  multiModule := false
  modules := []
  findings := []
  skipped := []

theorem saved_again_miscounted :
    parse (Text.unifyNewlines oddReport.print) =
      .good oddReport ∧
    parse miscounted = .good recounted ∧
    parse (Text.unifyNewlines recounted.print) =
      .good recounted ∧
    ∃ table : Table,
      JsonText.parse (Text.unifyNewlines recounted.print) =
        some (.table table) ∧
      table.get? "total_findings" = some (.int 0) := by
  have hOdd : ∀ finding ∈ oddReport.findings,
      JsonText.Admits finding.line :=
    List.forall_mem_singleton.mpr (by decide)
  have hText : parse miscounted = .good recounted := by
    decide +kernel
  rcases saved_again.2 miscounted recounted hText
    (by decide) with ⟨hAgain, table, hTable, hTotal, -⟩
  exact ⟨saved_again.1 oddReport hOdd (by decide), hText,
    hAgain, table, hTable, hTotal⟩

end Report

end GradleMigration
