import GradleMigration.Proofs.Report.Saved
import GradleMigration.Report.Outcome
import Mathlib.Data.List.Forall2
import Mathlib.Data.List.Nodup

/-
  Findings by their ids: what some ids ask for, and what is
  left of a report once findings have been fixed.

  Main declarations:
    * `Report.asked`
    * `Report.Named` and `Report.Storable`
    * `Report.Named.get_filter`
    * `Report.Named.discardFixed_eq`
-/

------------------------------------------------------------
-- Findings by Id
------------------------------------------------------------

namespace GradleMigration

namespace Report

/- The ids of the findings of a report. -/
def ids
    (report : Report) : List String :=
  report.findings.map (·.id)

/- The findings that some ids ask for, in the order of the ids. -/
def asked
    (report : Report)
    (ids : List String) : List Finding :=
  ids.filterMap fun id => report.findings.find? (·.id == id)

/- Every finding has an id of its own, and no empty one. -/
structure Named
    (report : Report) : Prop where
  distinct : report.ids.Nodup
  nonempty : "" ∉ report.ids

/-
  The line numbers and the number of findings have no more
  digits than a saved report may have.
-/
structure Storable
    (report : Report) : Prop where
  lines : ∀ finding ∈ report.findings,
    JsonText.Admits finding.line
  total : JsonText.Admits report.total

variable {report : Report}

/- Findings of a report with the same id are the same. -/
theorem Named.eq_of_id_eq
    (h : report.Named)
    {a b : Finding}
    (hA : a ∈ report.findings)
    (hB : b ∈ report.findings)
    (hId : a.id = b.id) :
    a = b :=
  List.inj_on_of_nodup_map h.distinct hA hB hId

theorem find?_eq_none_iff
    {id : String} :
    report.findings.find? (·.id == id) = none ↔
      id ∉ report.ids := by
  simp [ids]

/- A finding is found by its id if no other one has it. -/
theorem find?_eq_some_iff
    {findings : List Finding}
    (h : (findings.map (·.id)).Nodup)
    {id : String}
    {finding : Finding} :
    findings.find? (·.id == id) = some finding ↔
      finding ∈ findings ∧ finding.id = id := by
  constructor
  · intro hFind
    have hId := List.find?_some hFind
    exact ⟨List.mem_of_find?_eq_some hFind, by simpa using hId⟩
  · rintro ⟨hMem, rfl⟩
    cases hFind : findings.find? (·.id == finding.id) with
    | none =>
        rw [List.find?_eq_none] at hFind
        exact absurd (beq_self_eq_true _) (hFind finding hMem)
    | some other =>
        have hId := List.find?_some hFind
        rw [beq_iff_eq] at hId
        rw [List.inj_on_of_nodup_map h
          (List.mem_of_find?_eq_some hFind) hMem hId]

/- With distinct ids the last finding is the only one. -/
theorem Named.find?_eq
    (h : report.Named)
    (id : String) :
    report.find? id = report.findings.find? (·.id == id) := by
  have hReverse :
      (report.findings.reverse.map (·.id)).Nodup := by
    rw [List.map_reverse, List.nodup_reverse]
    exact h.distinct
  apply Option.ext
  intro finding
  rw [find?, find?_eq_some_iff hReverse, List.mem_reverse,
    find?_eq_some_iff h.distinct]

/- Empty ids ask for nothing. -/
theorem Named.get_filter
    (h : report.Named)
    (ids : List String) :
    report.get (ids.filter (· != "")) = report.asked ids := by
  unfold get asked
  rw [List.filterMap_filter]
  apply List.filterMap_congr
  intro id _
  rw [h.find?_eq]
  split
  · rfl
  · next hEmpty =>
      have hId : id = "" := by simpa using hEmpty
      rw [hId, find?_eq_none_iff.mpr h.nonempty]

theorem mem_of_mem_asked
    {ids : List String}
    {finding : Finding}
    (h : finding ∈ report.asked ids) :
    finding ∈ report.findings := by
  rcases List.mem_filterMap.mp h with ⟨id, -, hFind⟩
  exact List.mem_of_find?_eq_some hFind

/- Nothing is asked for by ids that the report does not know. -/
theorem asked_eq_nil_iff
    {ids : List String} :
    report.asked ids = [] ↔ ∀ id ∈ ids, id ∉ report.ids := by
  simp only [asked, List.filterMap_eq_nil_iff,
    find?_eq_none_iff]

/- The known ids are asked for in their order. -/
theorem ids_asked
    (report : Report)
    (ids : List String) :
    (report.asked ids).map (·.id) =
      ids.filter fun id => decide (id ∈ report.ids) := by
  induction ids with
  | nil => rfl
  | cons id rest ih =>
      simp only [asked, List.filterMap_cons] at ih ⊢
      cases hFind : report.findings.find? (·.id == id) with
      | none =>
          have hUnknown := find?_eq_none_iff.mp hFind
          rw [List.filter_cons_of_neg (by simpa using hUnknown)]
          exact ih
      | some finding =>
          have hId := List.find?_some hFind
          rw [beq_iff_eq] at hId
          have hKnown : id ∈ report.ids :=
            List.mem_map.mpr
              ⟨finding, List.mem_of_find?_eq_some hFind, hId⟩
          rw [List.filter_cons_of_pos (by simpa using hKnown),
            ← ih, List.map_cons, hId]

/- A smaller report can be stored too. -/
theorem Storable.remove
    (h : report.Storable)
    (ids : List String) :
    (report.remove ids).Storable where
  lines finding hFinding :=
    h.lines finding (List.mem_filter.mp hFinding).1
  total := admits_count h.total (List.length_filter_le _ _)

end Report

/- Whether one of the results for a finding is a success. -/
def Finding.isFixed
    (finding : Finding)
    (findings : List Finding)
    (results : List FixResult) : Bool :=
  (findings.zip results).any fun (other, result) =>
    other == finding && result.success

/-
  The ids of the successes are those of the findings that have
  been fixed.
-/
theorem Report.Named.contains_fixedIds
    {report : Report}
    (h : report.Named)
    {findings : List Finding}
    (hKnown : findings ⊆ report.findings)
    {results : List FixResult}
    (hIds : results.map (·.findingId) = findings.map (·.id))
    {finding : Finding}
    (hFinding : finding ∈ report.findings) :
    (Batch.mk results).fixedIds.contains finding.id =
      finding.isFixed findings results := by
  have hPairs : List.Forall₂
      (fun (other : Finding) (result : FixResult) =>
        other.id = result.findingId) findings results := by
    rw [← List.forall₂_map_right_iff, hIds,
      List.forall₂_map_right_iff]
    exact List.forall₂_same.mpr fun _ _ => rfl
  rw [List.forall₂_iff_zip] at hPairs
  rw [Bool.eq_iff_iff, List.contains_iff_mem,
    Finding.isFixed, List.any_eq_true]
  constructor
  · intro hMem
    rcases List.mem_map.mp hMem with ⟨result, hResult, hId⟩
    rcases List.mem_filter.mp hResult with ⟨hIn, hSuccess⟩
    rw [← List.map_snd_zip (Nat.le_of_eq hPairs.1.symm)] at hIn
    rcases List.mem_map.mp hIn with ⟨⟨other, _⟩, hPair, rfl⟩
    have hSame : other = finding :=
      h.eq_of_id_eq (hKnown (List.of_mem_zip hPair).1) hFinding
        ((hPairs.2 hPair).trans hId)
    refine ⟨_, hPair, ?_⟩
    simp only [hSame, beq_self_eq_true, Bool.true_and]
    exact hSuccess
  · rintro ⟨⟨other, result⟩, hPair, hFixed⟩
    rw [Bool.and_eq_true, beq_iff_eq] at hFixed
    rcases hFixed with ⟨rfl, hSuccess⟩
    exact List.mem_map.mpr
      ⟨result, List.mem_filter.mpr
        ⟨(List.of_mem_zip hPair).2, hSuccess⟩,
        (hPairs.2 hPair).symm⟩

/- What is left of a report are the findings not fixed. -/
theorem Report.Named.discardFixed_eq
    {report : Report}
    (h : report.Named)
    {findings : List Finding}
    (hKnown : findings ⊆ report.findings)
    {results : List FixResult}
    (hIds : results.map (·.findingId) = findings.map (·.id)) :
    report.discardFixed ⟨results⟩ =
      { report with
        findings := report.findings.filter fun finding =>
          !finding.isFixed findings results } := by
  unfold discardFixed remove
  congr 1
  apply List.filter_congr
  intro finding hFinding
  rw [h.contains_fixedIds hKnown hIds hFinding]

end GradleMigration
