import GradleMigration.Proofs.Scan.Exact

/-
  What a scanner does not look for, or where it does not look,
  makes no difference to the rest: a scan with fewer rules and
  more directories left out reports what is left of the wider
  scan.

  Main declarations:
    * `Project.isClear`
    * `Scanner.filter_of_sublist`
    * `Script.occurrences_filter`
    * `Scanner.keeps`
    * `Scanner.scanFiles_of_narrower`
    * `Scanner.scripts_of_narrower`
    * `Scanner.scan_of_narrower`
-/

------------------------------------------------------------
-- Fewer Rules
------------------------------------------------------------

namespace GradleMigration

namespace Scanner

/-
  Some of the rules, in their order, are those whose ids are
  among them.
-/
theorem filter_of_sublist
    {kept rules : List Rule}
    (h : kept.Sublist rules)
    (hIds : (rules.map Rule.id).Nodup) :
    rules.filter (fun rule =>
      (kept.map Rule.id).contains rule.id) = kept := by
  induction h with
  | slnil => rfl
  | @cons kept rest rule hRest ih =>
      rcases List.nodup_cons.mp hIds with ⟨hRule, hIds⟩
      have hOut : rule.id ∉ kept.map Rule.id :=
        fun hMem => hRule ((hRest.map Rule.id).subset hMem)
      rw [List.filter_cons_of_neg (by simpa using hOut)]
      exact ih hIds
  | @cons_cons kept rest rule hRest ih =>
      rcases List.nodup_cons.mp hIds with ⟨hRule, hIds⟩
      rw [List.filter_cons_of_pos (by simp)]
      congr 1
      refine (List.filter_congr ?_).trans (ih hIds)
      intro other hOther
      have hNe : other.id ≠ rule.id :=
        fun hEq => hRule (hEq ▸ List.mem_map_of_mem hOther)
      simp [hNe]

end Scanner

/- What a rule finds has the id of the rule. -/
theorem Rule.ruleId_of_occurrences
    {rule : Rule}
    {place : ScriptPlace}
    {content : List Char}
    {all : List Occurrence}
    (h : rule.occurrences place content = .ok all)
    {found : Occurrence}
    (hFound : found ∈ all) :
    found.ruleId = rule.id := by
  rcases mem_occurrencesOf h hFound with ⟨hit, _, hIs⟩
  exact (of_occurrence hIs).1

/- Each rule finds what it finds without the others. -/
theorem Script.occurrences_filter
    {place : ScriptPlace}
    {content : List Char}
    {rules : List Rule}
    {all : List Occurrence}
    (h : occurrences place content rules = .ok all)
    (keep : String → Bool) :
    occurrences place content
        (rules.filter fun rule => keep rule.id) =
      .ok (all.filter fun found => keep found.ruleId) := by
  induction rules generalizing all with
  | nil =>
      cases h
      rfl
  | cons rule rest ih =>
      rcases of_occurrences_cons h with
        ⟨here, more, hHere, hMore, hEq⟩
      subst hEq
      have hIds : ∀ found ∈ here, found.ruleId = rule.id :=
        fun _ => Rule.ruleId_of_occurrences hHere
      rw [List.filter_append]
      cases hKeep : keep rule.id with
      | false =>
          have hNone : here.filter
              (fun found => keep found.ruleId) = [] := by
            rw [List.filter_eq_nil_iff]
            intro found hFound
            simp [hIds found hFound, hKeep]
          rw [List.filter_cons_of_neg (by simp [hKeep]), hNone]
          exact ih hMore
      | true =>
          have hAll : here.filter
              (fun found => keep found.ruleId) = here := by
            rw [List.filter_eq_self]
            intro found hFound
            simp [hIds found hFound, hKeep]
          rw [List.filter_cons_of_pos (by simp [hKeep]),
            hAll, occurrences, hHere, ih hMore]

end GradleMigration

------------------------------------------------------------
-- Fewer Directories
------------------------------------------------------------

namespace GradleMigration

namespace Project

/-
  Whether no directory on the way from a root to a path is one
  of those that are left out.
-/
def isClear
    (root : Path)
    (excludes : List String)
    (path : Path) : Bool :=
  match path.relativeTo root with
  | none => false
  | some names => names.dropLast.all fun folder =>
      !excludes.contains folder.text

theorem isScannable_eq
    (path root : Path)
    (excludes : List String) :
    isScannable path root excludes =
      (isScriptName path.name &&
        isClear root excludes path) := by
  unfold isScannable isClear
  cases path.relativeTo root with
  | none => rfl
  | some names => simp [List.not_any_eq_all_not]

/- What is clear of more directories is clear of fewer. -/
theorem isClear_of_subset
    {root path : Path}
    {fewer more : List String}
    (h : fewer ⊆ more)
    (hClear : isClear root more path = true) :
    isClear root fewer path = true := by
  unfold isClear at hClear ⊢
  split at hClear
  · cases hClear
  · next names _ =>
      simp only [List.all_eq_true, Bool.not_eq_true',
        List.contains_eq_mem, decide_eq_false_iff_not]
        at hClear ⊢
      intro folder hFolder hMem
      exact hClear folder hFolder (h hMem)

end Project

namespace Scanner

variable {wide narrow : Scanner}
variable {tree : FileTree}
variable {root : Path}

/- The scripts of a scan that leaves out more directories. -/
theorem scripts_of_narrower
    (hExcludes : wide.excludes ⊆ narrow.excludes)
    {files : List Path}
    (h : wide.scripts tree root = .ok files) :
    narrow.scripts tree root =
      .ok (files.filter
        (Project.isClear root narrow.excludes)) := by
  unfold scripts at h ⊢
  split at h
  · cases h
  · next below _ =>
      cases h
      rw [List.filter_filter]
      congr 1
      apply List.filter_congr
      intro file _
      rw [Project.isScannable_eq, Project.isScannable_eq]
      cases hClear :
          Project.isClear root narrow.excludes file with
      | false => simp
      | true =>
          rw [Project.isClear_of_subset hExcludes hClear]
          simp

end Scanner

end GradleMigration

------------------------------------------------------------
-- Narrower Scans
------------------------------------------------------------

namespace GradleMigration

namespace Scanner

variable {wide narrow : Scanner}
variable {tree : FileTree}
variable {root : Path}

/-
  Whether a scanner reports an occurrence of a wider scan: it
  looks for the rule and into the directories of the file.
-/
def keeps
    (scanner : Scanner)
    (root : Path)
    (found : Occurrence) : Bool :=
  (scanner.rules.map Rule.id).contains found.ruleId &&
    Project.isClear root scanner.excludes found.file

/- What is found in a file is in that file. -/
theorem file_of_occurrences
    {place : ScriptPlace}
    {content : List Char}
    {rules : List Rule}
    {all : List Occurrence}
    (h : Script.occurrences place content rules = .ok all)
    {found : Occurrence}
    (hFound : found ∈ all) :
    found.file = place.file := by
  rcases Script.mem_occurrences h hFound with
    ⟨rule, _, hit, _, hIs⟩
  exact (Rule.of_occurrence hIs).2.1

/-
  A narrower scanner harvests what it keeps of the harvest of
  the wider one.  A file that is not clear loses all it has
  shown; any other loses what other rules have found.
-/
theorem scanFiles_of_narrower
    (hIds : (wide.rules.map Rule.id).Nodup)
    (hRules : narrow.rules.Sublist wide.rules)
    {files : List Path}
    {harvest : Harvest}
    (h : wide.scanFiles tree root files = .ok harvest) :
    narrow.scanFiles tree root
        (files.filter
          (Project.isClear root narrow.excludes)) =
      .ok
        { occurrences :=
            harvest.occurrences.filter (narrow.keeps root)
          skipped := harvest.skipped.filter
            (Project.isClear root narrow.excludes) } := by
  induction files generalizing harvest with
  | nil =>
      cases h
      rfl
  | cons file rest ih =>
      rw [scanFiles_cons] at h
      cases hRead : tree.readExact file with
      | error fault =>
          rw [hRead] at h
          rcases map_eq_ok_iff.mp h with ⟨later, hLater, hEq⟩
          subst hEq
          cases hClear :
              Project.isClear root narrow.excludes file with
          | false =>
              rw [List.filter_cons_of_neg (by simp [hClear]),
                ih hLater]
              simp [hClear]
          | true =>
              rw [List.filter_cons_of_pos hClear,
                scanFiles_cons, hRead, ih hLater]
              simp [hClear, Except.map]
      | ok content =>
          simp only [hRead] at h
          split at h
          · cases h
          · next found hFound =>
              rcases map_eq_ok_iff.mp h with
                ⟨later, hLater, hEq⟩
              subst hEq
              have hFile : ∀ one ∈ found, one.file = file :=
                fun _ => file_of_occurrences hFound
              rw [List.filter_append]
              cases hClear :
                  Project.isClear root narrow.excludes file with
              | false =>
                  have hNone :
                      found.filter (narrow.keeps root) = [] := by
                    rw [List.filter_eq_nil_iff]
                    intro one hOne
                    simp [keeps, hFile one hOne, hClear]
                  rw [List.filter_cons_of_neg (by simp [hClear]),
                    ih hLater, hNone]
                  rfl
              | true =>
                  have hKept :
                      found.filter (narrow.keeps root) =
                        found.filter fun one =>
                          (narrow.rules.map Rule.id).contains
                            one.ruleId := by
                    apply List.filter_congr
                    intro one hOne
                    simp [keeps, hFile one hOne, hClear]
                  have hHere := Script.occurrences_filter hFound
                    fun id =>
                      (narrow.rules.map Rule.id).contains id
                  rw [filter_of_sublist hRules hIds] at hHere
                  rw [List.filter_cons_of_pos hClear,
                    scanFiles_cons, hRead, ih hLater, hKept]
                  simp only [hHere]
                  rfl

/-
  A scan with fewer rules and more directories left out.  It
  fails where the wider one does, which is at a path that is
  too long; otherwise it says the same about the project, and
  of the findings and the skipped files those that it keeps.
-/
theorem scan_of_narrower
    (hIds : (wide.rules.map Rule.id).Nodup)
    (hTotal : ∀ rule ∈ wide.rules, rule.Total)
    (hRules : narrow.rules.Sublist wide.rules)
    (hExcludes : wide.excludes ⊆ narrow.excludes)
    (hRoot : tree.isDirectory root = .ok true)
    (hProject : tree.isProject root = .ok true)
    (idName otherName : Nat → String)
    (next other : Nat) :
    (∃ names, (root.below names).isTooLong = true ∧
      wide.scan tree root idName next =
        .error (.project (.file
          (.system .nameTooLong (root.below names)))) ∧
      narrow.scan tree root otherName other =
        .error (.project (.file
          (.system .nameTooLong (root.below names))))) ∨
    ∃ report smaller,
      wide.scan tree root idName next = .ok report ∧
      narrow.scan tree root otherName other = .ok smaller ∧
      smaller.findings.map Finding.toOccurrence =
        (report.findings.map Finding.toOccurrence).filter
          (narrow.keeps root) ∧
      smaller.skipped =
        report.skipped.filter
          (Project.isClear root narrow.excludes) ∧
      smaller.project = report.project ∧
      smaller.name = report.name ∧
      smaller.version = report.version ∧
      smaller.modules = report.modules ∧
      smaller.multiModule = report.multiModule := by
  rcases scan_cases hRoot hProject with
    ⟨names, hLong, hFault⟩ | ⟨place, modules, version, hReach⟩
  · exact Or.inl ⟨names, hLong, hFault wide idName next,
      hFault narrow otherName other⟩
  · rcases hReach.exists_scripts wide with ⟨files, hScripts⟩
    rcases scanFiles_of_total hTotal tree root files with
      ⟨harvest, hHarvest⟩
    have hWide := scan_of_harvest hRoot hProject hReach.modules
      hReach.version hScripts hHarvest idName next
    have hNarrow := scan_of_harvest hRoot hProject
      hReach.modules hReach.version
      (scripts_of_narrower hExcludes hScripts)
      (scanFiles_of_narrower hIds hRules hHarvest)
      otherName other
    refine Or.inr ⟨_, _, hWide, hNarrow, ?_, rfl, rfl, rfl, rfl,
      rfl, rfl⟩
    simp only [map_number]

/- One of two rules, without the directory that is built. -/
theorem scan_of_narrower_mixedProject :
    ∃ first second report smaller,
      Builtin.sourcesetOutput.build = .ok first ∧
      Builtin.archiveName.build = .ok second ∧
      (Scanner.mk [first, second] []).scan mixedProject
        (.parse "/p") toString 0 = .ok report ∧
      (mixedScanner [second]).scan mixedProject
        (.parse "/p") toString 7 = .ok smaller ∧
      smaller.findings.map Finding.toOccurrence =
        (report.findings.map Finding.toOccurrence).filter
          ((mixedScanner [second]).keeps (.parse "/p")) ∧
      smaller.skipped = report.skipped.filter
        (Project.isClear (.parse "/p") ["build"]) := by
  rcases exists_rule_of_entry
      (show Builtin.sourcesetOutput ∈ _ by
        simp [Builtin.entries])
      (by rw [RuleEntry.build_eq_decoded]; decide +kernel) with
    ⟨first, hFirst, hFirstId, hFirstTotal⟩
  rcases exists_rule_of_entry
      (show Builtin.archiveName ∈ _ by simp [Builtin.entries])
      (by rw [RuleEntry.build_eq_decoded]; decide +kernel) with
    ⟨second, hSecond, hSecondId, hSecondTotal⟩
  have hIds : ([first, second].map Rule.id).Nodup := by
    rw [List.map_cons, List.map_cons, hFirstId, hSecondId]
    decide
  have hTotal : ∀ rule ∈ [first, second], rule.Total := by
    simp [hFirstTotal, hSecondTotal]
  rcases scan_mixedProject
      (show ∀ rule ∈ (Scanner.mk [first, second] []).rules,
        rule.Total from hTotal) with
    ⟨whole, hWhole⟩
  rcases scan_of_narrower
      (show ((Scanner.mk [first, second] []).rules.map
        Rule.id).Nodup from hIds)
      hTotal
      (show (mixedScanner [second]).rules.Sublist _ from
        List.sublist_cons_self _ _)
      (List.nil_subset _)
      inReach_mixedProject.isDirectory
      inReach_mixedProject.isProject
      toString toString 0 7 with
    ⟨_, _, hFault, _⟩ |
      ⟨report, smaller, hReport, hSmaller, hFindings, hSkipped,
        _⟩
  · rw [hWhole] at hFault
    cases hFault
  · exact ⟨first, second, report, smaller, hFirst, hSecond,
      hReport, hSmaller, hFindings, hSkipped⟩

end Scanner

end GradleMigration
