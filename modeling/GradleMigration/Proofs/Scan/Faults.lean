import GradleMigration.Proofs.Fix.Step
import GradleMigration.Proofs.Rule.Templates
import GradleMigration.Proofs.Scan.Origin

/-
  When a rule stops a scan.

  A rule that breaks does no harm as long as it has no hit:
  its replacements are only looked at for a hit that is to be
  reported.  A scan stops for the sake of a rule exactly when
  a rule that breaks has a hit in a script that can be read.

  Main declarations:
    * `Rule.occurrences_eq_ok_iff`
    * `Script.occurrences_eq_ok_iff`
    * `Scanner.scanFiles_eq_ok_iff`
    * `Scanner.Surveyed`
    * `Scanner.scan_eq_template_iff`
    * `Registry.loaded_rules_answer_or_break`
-/

------------------------------------------------------------
-- Hits that Cannot Be Reported
------------------------------------------------------------

namespace GradleMigration

/- A rule reports its hits unless it breaks and has some. -/
theorem Rule.occurrences_eq_ok_iff
    {rule : Rule}
    (place : ScriptPlace)
    {content : List Char} :
    (∃ all, rule.occurrences place content = .ok all) ↔
      (rule.hits content = [] ∨ rule.Total) := by
  unfold occurrences
  cases hHits : rule.hits content with
  | nil => simp [occurrencesOf]
  | cons hit rest =>
      simp only [reduceCtorEq, false_or]
      constructor
      · rintro ⟨all, hAll⟩
        simp only [maxFindingsPerRule, List.take_succ_cons,
          occurrencesOf] at hAll
        split at hAll
        · cases hAll
        · next found hFound => exact (of_occurrence hFound).2.2.2
      · intro hTotal
        exact occurrencesOf_of_total hTotal place content _

/- All rules report what they find in a text. -/
theorem Script.occurrences_eq_ok_iff
    (place : ScriptPlace)
    (content : List Char)
    (rules : List Rule) :
    (∃ all, occurrences place content rules = .ok all) ↔
      ∀ rule ∈ rules,
        rule.hits content = [] ∨ rule.Total := by
  induction rules with
  | nil => simp [occurrences]
  | cons rule rest ih =>
      rw [List.forall_mem_cons, ← ih,
        ← Rule.occurrences_eq_ok_iff place, occurrences]
      cases rule.occurrences place content with
      | error fault => simp
      | ok found =>
          cases occurrences place content rest with
          | error fault => simp
          | ok more => simp

end GradleMigration

------------------------------------------------------------
-- Scans that Stop for a Rule
------------------------------------------------------------

namespace GradleMigration

namespace Scanner

/- Looking into scripts ends with a harvest or at a rule. -/
theorem scanFiles_cases
    (scanner : Scanner)
    (tree : FileTree)
    (root : Path)
    (files : List Path) :
    (∃ harvest,
        scanner.scanFiles tree root files = .ok harvest) ∨
      ∃ fault, scanner.scanFiles tree root files =
        .error (.template fault) := by
  induction files with
  | nil => exact Or.inl ⟨_, rfl⟩
  | cons file rest ih =>
      rw [scanFiles_cons]
      split
      · rcases ih with ⟨later, hLater⟩ | ⟨fault, hFault⟩
        · rw [hLater]
          exact Or.inl ⟨_, rfl⟩
        · rw [hFault]
          exact Or.inr ⟨fault, rfl⟩
      · split
        · next fault _ => exact Or.inr ⟨fault, rfl⟩
        · rcases ih with ⟨later, hLater⟩ | ⟨fault, hFault⟩
          · rw [hLater]
            exact Or.inl ⟨_, rfl⟩
          · rw [hFault]
            exact Or.inr ⟨fault, rfl⟩

/-
  There is a harvest when every rule with a hit in a script
  that can be read is able to change texts.
-/
theorem scanFiles_eq_ok_iff
    (scanner : Scanner)
    (tree : FileTree)
    (root : Path)
    (files : List Path) :
    (∃ harvest,
        scanner.scanFiles tree root files = .ok harvest) ↔
      ∀ file ∈ files, ∀ content,
        tree.readExact file = .ok content →
          ∀ rule ∈ scanner.rules,
            rule.hits content = [] ∨ rule.Total := by
  induction files with
  | nil => exact ⟨fun _ => by simp, fun _ => ⟨_, rfl⟩⟩
  | cons file rest ih =>
      rw [List.forall_mem_cons, ← ih, scanFiles_cons]
      cases tree.readExact file with
      | error fault => simp [map_eq_ok_iff]
      | ok content =>
          simp only [Except.ok.injEq, forall_eq']
          rw [← Script.occurrences_eq_ok_iff
            ⟨file, Project.moduleOf file root⟩]
          cases Script.occurrences
              ⟨file, Project.moduleOf file root⟩ content
              scanner.rules with
          | error fault => simp
          | ok found => simp [map_eq_ok_iff]

/- The scripts in which a rule stops the scan. -/
theorem scanFiles_eq_template_iff
    (scanner : Scanner)
    (tree : FileTree)
    (root : Path)
    (files : List Path) :
    (∃ fault, scanner.scanFiles tree root files =
        .error (.template fault)) ↔
      ∃ file ∈ files, ∃ content,
        tree.readExact file = .ok content ∧
          ∃ rule ∈ scanner.rules,
            rule.hits content ≠ [] ∧ ¬ rule.Total := by
  have hOk := scanner.scanFiles_eq_ok_iff tree root files
  constructor
  · rintro ⟨fault, hFault⟩
    by_contra hNone
    push Not at hNone
    rcases hOk.mpr (fun file hFile content hRead rule hRule =>
        or_iff_not_imp_left.mpr
          (hNone file hFile content hRead rule hRule)) with
      ⟨harvest, hHarvest⟩
    rw [hFault] at hHarvest
    cases hHarvest
  · rintro ⟨file, hFile, content, hRead, rule, hRule, hHits,
      hTotal⟩
    rcases scanner.scanFiles_cases tree root files with
      hHarvest | hFault
    · rcases hOk.mp hHarvest file hFile content hRead rule
          hRule with hNil | hYes
      · exact absurd hNil hHits
      · exact absurd hYes hTotal
    · exact hFault

/-
  A project whose files the file system gives access to: what
  a scan reads before it looks into scripts.
-/
structure Surveyed
    (scanner : Scanner)
    (tree : FileTree)
    (root : Path)
    (files : List Path) : Prop where
  directory : tree.isDirectory root = .ok true
  project : tree.isProject root = .ok true
  modules : ∃ modules, tree.modules root = .ok modules
  version : ∃ version, tree.version root = .ok version
  scripts : scanner.scripts tree root = .ok files

/- The way in which a scan stops for the sake of a rule. -/
theorem scan_eq_template_iff
    (scanner : Scanner)
    (tree : FileTree)
    (root : Path)
    (idName : Nat → String)
    (next : Nat) :
    (∃ fault, scanner.scan tree root idName next =
        .error (.template fault)) ↔
      ∃ files, scanner.Surveyed tree root files ∧
        ∃ file ∈ files, ∃ content,
          tree.readExact file = .ok content ∧
            ∃ rule ∈ scanner.rules,
              rule.hits content ≠ [] ∧ ¬ rule.Total := by
  constructor
  · rintro ⟨fault, hScan⟩
    unfold scan survey at hScan
    simp only at hScan
    split at hScan
    · cases hScan
    · cases hScan
    · next hIsRoot =>
        split at hIsRoot
        · cases hIsRoot
        · cases hIsRoot
        · next hDirectory =>
            split at hScan
            · cases hScan
            · cases hScan
            · cases hScan
            · next modules version files hModules hVersion
                  hFiles =>
                refine ⟨files,
                  { directory := hDirectory
                    project := hIsRoot
                    modules := ⟨modules, hModules⟩
                    version := ⟨version, hVersion⟩
                    scripts := hFiles },
                  (scanner.scanFiles_eq_template_iff tree root
                    files).mp ⟨fault, ?_⟩⟩
                cases hHarvest :
                    scanner.scanFiles tree root files with
                | ok harvest =>
                    rw [hHarvest] at hScan
                    cases hScan
                | error other =>
                    rw [hHarvest] at hScan
                    cases hScan
                    rfl
  · rintro ⟨files, hSurveyed, hFile⟩
    rcases (scanner.scanFiles_eq_template_iff tree root
        files).mpr hFile with
      ⟨fault, hFault⟩
    rcases hSurveyed.modules with ⟨modules, hModules⟩
    rcases hSurveyed.version with ⟨version, hVersion⟩
    refine ⟨fault, ?_⟩
    unfold scan survey
    simp only [hSurveyed.directory, hSurveyed.project, hModules,
      hVersion, hSurveyed.scripts, hFault]
    rfl

end Scanner

end GradleMigration

------------------------------------------------------------
-- Accepted Catalogs
------------------------------------------------------------

namespace GradleMigration

namespace Registry

/-
  The rules of a catalog that is accepted.  Those of entries
  that can be filled in answer whatever they are asked, and
  all others break; a scan with rules of the catalog stops for
  one of them exactly when it breaks and has a hit in a script
  that can be read.
-/
theorem loaded_rules_answer_or_break
    {source : String}
    {text : List Char}
    {registry : Registry}
    (h : ofText source text = .ok registry) :
    ∃ table entries,
      Toml.parse text = some table ∧
      RuleEntry.checkAll table = .good entries ∧
      List.Forall₂
        (fun entry rule =>
          entry.build = .ok rule ∧
            (entry.Fillable → rule.Answers) ∧
            (¬ entry.Fillable → rule.Breaks))
        entries registry.rules ∧
      ∀ scanner : Scanner,
        (∀ rule ∈ scanner.rules, rule ∈ registry.rules) →
        ∀ tree root idName next,
          (∃ fault, scanner.scan tree root idName next =
              .error (.template fault)) ↔
            ∃ files, scanner.Surveyed tree root files ∧
              ∃ file ∈ files, ∃ content,
                tree.readExact file = .ok content ∧
                ∃ rule ∈ scanner.rules,
                  rule.hits content ≠ [] ∧
                  ∃ entry ∈ entries,
                    entry.build = .ok rule ∧
                      ¬ entry.Fillable := by
  rcases entries_of_ofText h with
    ⟨table, entries, hTable, hEntries, hRules⟩
  refine ⟨table, entries, hTable, hEntries, ?_, ?_⟩
  · refine hRules.imp ?_
    intro entry rule hBuild
    exact ⟨hBuild, (RuleEntry.answers_iff_of_build hBuild).mpr,
      RuleEntry.breaks_of_build hBuild⟩
  · intro scanner hScanner tree root idName next
    have hEntry : ∀ rule ∈ scanner.rules,
        (¬ rule.Total ↔ ∃ entry ∈ entries,
          entry.build = .ok rule ∧ ¬ entry.Fillable) := by
      intro rule hRule
      constructor
      · intro hTotal
        rcases exists_entry_of_mem hRules
            (hScanner rule hRule) with
          ⟨entry, hMem, hBuild⟩
        exact ⟨entry, hMem, hBuild,
          mt (RuleEntry.total_iff_fillable hBuild).mpr hTotal⟩
      · rintro ⟨entry, _, hBuild, hNot⟩
        exact mt (RuleEntry.total_iff_fillable hBuild).mp hNot
    rw [scanner.scan_eq_template_iff]
    constructor
    · rintro ⟨files, hFiles, file, hFile, content, hRead, rule,
        hRule, hHits, hTotal⟩
      exact ⟨files, hFiles, file, hFile, content, hRead, rule,
        hRule, hHits, (hEntry rule hRule).mp hTotal⟩
    · rintro ⟨files, hFiles, file, hFile, content, hRead, rule,
        hRule, hHits, hSome⟩
      exact ⟨files, hFiles, file, hFile, content, hRead, rule,
        hRule, hHits, (hEntry rule hRule).mpr hSome⟩

/-
  A catalog of two rules; the replacement of the second refers
  to a group that its pattern does not have.
-/
def mixedCatalog : String :=
  "[[rules]]\nid='A'\nseverity='LOW'\ntitle=''\n" ++
    "description=''\npattern='a'\n" ++
    "substitutions=[['(a)','\\1b']]\n" ++
    "[[rules]]\nid='Z'\nseverity='LOW'\ntitle=''\n" ++
    "description=''\npattern='z'\n" ++
    "substitutions=[['z','\\1']]\n"

/- A scan for some rules of a project with one script. -/
def scanMixed
    (registry : Registry) : Except ScanFault Report :=
  (Scanner.mk registry.rules []).scan
    (Workspace.single "a z").tree (.parse "/p") toString 0

/- Whether the second of two rules breaks and stops a scan. -/
def isMixed
    (text : String) : Bool :=
  match ofText "catalog.toml" text.toList with
  | .error _ => false
  | .ok registry =>
      (match registry.rules with
        | [first, second] =>
            (first.transform []).toOption.isSome &&
              (second.transform []).toOption.isNone
        | _ => false) &&
        match scanMixed registry with
        | .error (.template _) => true
        | _ => false

theorem of_isMixed
    {text : String}
    (h : isMixed text = true) :
    ∃ registry first second,
      ofText "catalog.toml" text.toList = .ok registry ∧
        registry.rules = [first, second] ∧
        ¬ first.Breaks ∧ ¬ second.Answers ∧
        ∃ fault,
          scanMixed registry = .error (.template fault) := by
  unfold isMixed at h
  split at h
  · cases h
  · next registry hLoaded =>
      rw [Bool.and_eq_true] at h
      rcases h with ⟨hRules, hScan⟩
      split at hRules
      · next first second hPair =>
          rw [Bool.and_eq_true] at hRules
          refine ⟨registry, first, second, hLoaded, hPair, ?_,
            ?_, ?_⟩
          · intro hBreaks
            rcases hBreaks.transform [] with ⟨fault, hFault⟩
            rw [hFault] at hRules
            cases hRules.1
          · intro hAnswers
            rcases hAnswers.transform [] with ⟨changed, hText⟩
            rw [hText] at hRules
            cases hRules.2
          · split at hScan
            · next fault hFault => exact ⟨fault, hFault⟩
            · cases hScan
      · cases hRules

/- The catalog is read and the script scanned here. -/
theorem isMixed_mixedCatalog :
    isMixed mixedCatalog = true := by
  rw [isMixed, Text.toList_eq_decoded]
  decide +kernel

/- The first rule answers, and the second stops the scan. -/
theorem loaded_rules_answer_or_break_mixed :
    ∃ registry first second,
      ofText "catalog.toml" mixedCatalog.toList =
          .ok registry ∧
        registry.rules = [first, second] ∧
        first.Answers ∧ second.Breaks ∧
        ∃ files,
          (Scanner.mk registry.rules []).Surveyed
            (Workspace.single "a z").tree (.parse "/p") files ∧
          ∃ file ∈ files, ∃ content,
            (Workspace.single "a z").tree.readExact file =
                .ok content ∧
              second.hits content ≠ [] := by
  rcases of_isMixed isMixed_mixedCatalog with
    ⟨registry, first, second, hLoaded, hPair, hFirst, hSecond,
      hScan⟩
  rcases loaded_rules_answer_or_break hLoaded with
    ⟨_, entries, _, _, hRules, hStops⟩
  have hAll : ∀ rule ∈ registry.rules, ∃ entry ∈ entries,
      entry.build = .ok rule ∧
        (entry.Fillable → rule.Answers) ∧
        (¬ entry.Fillable → rule.Breaks) :=
    fun _ hRule => exists_entry_of_mem hRules hRule
  have hAnswers : first.Answers := by
    rcases hAll first (by simp [hPair]) with
      ⟨entry, _, _, hAnswers, hBreaks⟩
    by_cases hFillable : entry.Fillable
    · exact hAnswers hFillable
    · exact absurd (hBreaks hFillable) hFirst
  refine ⟨registry, first, second, hLoaded, hPair, hAnswers,
    ?_, ?_⟩
  · rcases hAll second (by simp [hPair]) with
      ⟨entry, _, _, hAnswers, hBreaks⟩
    exact hBreaks (mt hAnswers hSecond)
  · rcases (hStops ⟨registry.rules, []⟩ (fun _ hRule => hRule)
        _ _ _ _).mp hScan with
      ⟨files, hFiles, file, hFile, content, hRead, rule, hRule,
        hHits, entry, _, hBuild, hNot⟩
    refine ⟨files, hFiles, file, hFile, content, hRead, ?_⟩
    rw [hPair] at hRule
    rcases List.mem_cons.mp hRule with hIs | hIs
    · subst hIs
      exact absurd
        ((RuleEntry.answers_iff_of_build hBuild).mp hAnswers)
        hNot
    · cases List.mem_singleton.mp hIs
      exact hHits

/-
  A catalog is accepted although one of its rules fails on
  every text and stops a scan.
-/
theorem accepted_catalog_stops_scan :
    ∃ registry,
      ofText "catalog.toml" mixedCatalog.toList =
          .ok registry ∧
        (∃ rule ∈ registry.rules, ¬ rule.Answers) ∧
        ∃ fault,
          scanMixed registry = .error (.template fault) := by
  rcases of_isMixed isMixed_mixedCatalog with
    ⟨registry, first, second, hLoaded, hPair, _, hSecond,
      hScan⟩
  exact ⟨registry, hLoaded,
    ⟨second, by simp [hPair], hSecond⟩, hScan⟩

end Registry

end GradleMigration
