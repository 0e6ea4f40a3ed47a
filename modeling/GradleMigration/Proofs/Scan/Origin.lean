import GradleMigration.Proofs.Data.Outcome
import GradleMigration.Proofs.Rule.Transform
import GradleMigration.Scan.Scanner

/-
  Where the findings of a scan come from: each is a hit of
  one of the rules in the text of one of the scripts.  A scan
  with rules that can change every text comes to an end,
  unless the file system objects.

  Main declarations:
    * `Rule.of_occurrence`
    * `Script.mem_occurrences`
    * `Scanner.Origin`
    * `Scanner.of_scan`
    * `Scanner.scan_of_harvest`
    * `Scanner.origin_of_scan`
    * `Scanner.scan_of_total`
-/

------------------------------------------------------------
-- Occurrences in One Text
------------------------------------------------------------

namespace GradleMigration

namespace Rule

/-
  What an occurrence tells about the hit it was made from,
  and that its rule was able to change a text.
-/
theorem of_occurrence
    {rule : Rule}
    {place : ScriptPlace}
    {content : List Char}
    {hit : Hit}
    {found : Occurrence}
    (h : rule.occurrence place content hit = .ok found) :
    found.ruleId = rule.id ∧
      found.file = place.file ∧
      rule.isFixable content hit = .ok found.autoFixable ∧
      rule.Total := by
  unfold occurrence at h
  simp only at h
  split at h
  · cases h
  · next suggestion hSuggestion =>
      split at h
      · cases h
      · next fixable hFixable =>
          cases h
          exact ⟨rfl, rfl, hFixable,
            total_of_suggestFix hSuggestion⟩

/- The line and the suggestion of an occurrence. -/
theorem line_of_occurrence
    {rule : Rule}
    {place : ScriptPlace}
    {content : List Char}
    {hit : Hit}
    {found : Occurrence}
    (h : rule.occurrence place content hit = .ok found) :
    found.line = (Text.lineNumber content hit.start : Int) ∧
      ∃ suggestion,
        rule.suggestFix (Text.trim hit.text)
            (some (Text.lineOf content hit.start hit.stop)) =
          .ok suggestion ∧
        found.suggestedFix = String.ofList suggestion := by
  unfold occurrence at h
  simp only at h
  split at h
  · cases h
  · next suggestion hSuggestion =>
      split at h
      · cases h
      · cases h
        exact ⟨rfl, suggestion, hSuggestion, rfl⟩

/- The first of some hits is an occurrence, so are the rest. -/
theorem of_occurrencesOf_cons
    {rule : Rule}
    {place : ScriptPlace}
    {content : List Char}
    {hit : Hit}
    {rest : List Hit}
    {all : List Occurrence}
    (h : rule.occurrencesOf place content (hit :: rest) =
      .ok all) :
    ∃ found more,
      rule.occurrence place content hit = .ok found ∧
        rule.occurrencesOf place content rest = .ok more ∧
          all = found :: more := by
  unfold occurrencesOf at h
  split at h
  · cases h
  · next found hFound =>
      split at h
      · cases h
      · next more hMore =>
          exact ⟨found, more, hFound, hMore,
            (Except.ok.inj h).symm⟩

/- Occurrences are made from hits. -/
theorem mem_occurrencesOf
    {rule : Rule}
    {place : ScriptPlace}
    {content : List Char}
    {hits : List Hit}
    {all : List Occurrence}
    (h : rule.occurrencesOf place content hits = .ok all)
    {found : Occurrence}
    (hFound : found ∈ all) :
    ∃ hit ∈ hits,
      rule.occurrence place content hit = .ok found := by
  induction hits generalizing all with
  | nil =>
      cases h
      cases hFound
  | cons hit rest ih =>
      rcases of_occurrencesOf_cons h with
        ⟨first, more, hFirst, hMore, hAll⟩
      subst hAll
      rcases List.mem_cons.mp hFound with hHere | hRest
      · exact ⟨hit, List.mem_cons_self, hHere ▸ hFirst⟩
      · rcases ih hMore hRest with ⟨other, hOther, hEq⟩
        exact ⟨other, List.mem_cons_of_mem _ hOther, hEq⟩

end Rule

namespace Script

/- The first of some rules has occurrences, so have the rest. -/
theorem of_occurrences_cons
    {place : ScriptPlace}
    {content : List Char}
    {rule : Rule}
    {rest : List Rule}
    {all : List Occurrence}
    (h : occurrences place content (rule :: rest) = .ok all) :
    ∃ here more,
      rule.occurrences place content = .ok here ∧
        occurrences place content rest = .ok more ∧
          all = here ++ more := by
  unfold occurrences at h
  split at h
  · cases h
  · next here hHere =>
      split at h
      · cases h
      · next more hMore =>
          exact ⟨here, more, hHere, hMore,
            (Except.ok.inj h).symm⟩

/- Occurrences are made from the hits of some rule. -/
theorem mem_occurrences
    {place : ScriptPlace}
    {content : List Char}
    {rules : List Rule}
    {all : List Occurrence}
    (h : occurrences place content rules = .ok all)
    {found : Occurrence}
    (hFound : found ∈ all) :
    ∃ rule ∈ rules,
      ∃ hit ∈ (rule.hits content).take maxFindingsPerRule,
        rule.occurrence place content hit = .ok found := by
  induction rules generalizing all with
  | nil =>
      cases h
      cases hFound
  | cons rule rest ih =>
      rcases of_occurrences_cons h with
        ⟨here, more, hHere, hMore, hAll⟩
      subst hAll
      rcases List.mem_append.mp hFound with hFirst | hRest
      · exact ⟨rule, List.mem_cons_self,
          Rule.mem_occurrencesOf hHere hFirst⟩
      · rcases ih hMore hRest with ⟨other, hOther, hHit⟩
        exact ⟨other, List.mem_cons_of_mem _ hOther, hHit⟩

end Script

end GradleMigration

------------------------------------------------------------
-- Findings of a Project
------------------------------------------------------------

namespace GradleMigration

namespace Scanner

/-
  Where an occurrence comes from: one of the files, which is
  readable, one of the rules, and one of the first hits of
  the rule in the text of the file.
-/
structure Origin
    (scanner : Scanner)
    (tree : FileTree)
    (root : Path)
    (files : List Path)
    (found : Occurrence)
    (content : List Char)
    (rule : Rule)
    (hit : Hit) : Prop where
  isFile : found.file ∈ files
  isText : tree.readExact found.file = .ok content
  isRule : rule ∈ scanner.rules
  isHit : hit ∈ (rule.hits content).take maxFindingsPerRule
  isFound :
    rule.occurrence
      ⟨found.file, Project.moduleOf found.file root⟩
      content hit = .ok found

/- What a scanned file shows has its origin there. -/
theorem origin_of_scanFile
    {scanner : Scanner}
    {tree : FileTree}
    {file root : Path}
    {all : List Occurrence}
    (h : scanner.scanFile tree file root = .ok all)
    {found : Occurrence}
    (hFound : found ∈ all) :
    ∃ content rule hit,
      scanner.Origin tree root [file] found
        content rule hit := by
  unfold scanFile at h
  split at h
  · cases h
  · next content hContent =>
      rcases Script.mem_occurrences
          (mapError_eq_ok_iff.mp h) hFound with
        ⟨rule, hRule, hit, hHit, hOccurrence⟩
      have hFile : found.file = file :=
        (Rule.of_occurrence hOccurrence).2.1
      exact ⟨content, rule, hit,
        { isFile := List.mem_singleton.mpr hFile
          isText := hFile ▸ hContent
          isRule := hRule
          isHit := hHit
          isFound := hFile ▸ hOccurrence }⟩

/-
  Of several files the first is skipped, or stops the scan, or
  shows what comes before all else.
-/
theorem scanFiles_cons
    (scanner : Scanner)
    (tree : FileTree)
    (root file : Path)
    (rest : List Path) :
    scanner.scanFiles tree root (file :: rest) =
      match tree.readExact file with
      | .error _ =>
          (scanner.scanFiles tree root rest).map fun later =>
            { later with skipped := file :: later.skipped }
      | .ok content =>
          match Script.occurrences
              ⟨file, Project.moduleOf file root⟩ content
              scanner.rules with
          | .error fault => .error (.template fault)
          | .ok found =>
              (scanner.scanFiles tree root rest).map fun later =>
                { later with
                  occurrences := found ++ later.occurrences } := by
  rw [scanFiles.eq_def]
  dsimp only
  unfold scanFile
  cases tree.readExact file with
  | error fault => rfl
  | ok content =>
      dsimp only
      cases Script.occurrences
          ⟨file, Project.moduleOf file root⟩ content
          scanner.rules with
      | error fault => rfl
      | ok found => rfl

/- What scanned files show has its origin in one of them. -/
theorem origin_of_scanFiles
    {scanner : Scanner}
    {tree : FileTree}
    {root : Path}
    {files : List Path}
    {harvest : Harvest}
    (h : scanner.scanFiles tree root files = .ok harvest)
    {found : Occurrence}
    (hFound : found ∈ harvest.occurrences) :
    ∃ content rule hit,
      scanner.Origin tree root files found
        content rule hit := by
  induction files generalizing harvest with
  | nil =>
      cases h
      cases hFound
  | cons file rest ih =>
      have hTail :
          ∀ {later : Harvest},
            scanner.scanFiles tree root rest = .ok later →
            found ∈ later.occurrences →
            ∃ content rule hit,
              scanner.Origin tree root (file :: rest) found
                content rule hit := by
        intro later hLater hMem
        rcases ih hLater hMem with
          ⟨content, rule, hit, hOrigin⟩
        exact ⟨content, rule, hit,
          { hOrigin with
            isFile :=
              List.mem_cons_of_mem _ hOrigin.isFile }⟩
      unfold scanFiles at h
      split at h
      · rcases map_eq_ok_iff.mp h with ⟨later, hLater, hEq⟩
        subst hEq
        exact hTail hLater hFound
      · cases h
      · next all hAll =>
          rcases map_eq_ok_iff.mp h with
            ⟨later, hLater, hEq⟩
          subst hEq
          rcases List.mem_append.mp hFound with hHere | hRest
          · rcases origin_of_scanFile hAll hHere with
              ⟨content, rule, hit, hOrigin⟩
            exact ⟨content, rule, hit,
              { hOrigin with
                isFile :=
                  List.mem_cons.mpr (Or.inl
                    (List.mem_singleton.mp
                      hOrigin.isFile)) }⟩
          · exact hTail hLater hRest

/- Giving ids changes nothing else. -/
theorem map_number
    (idName : Nat → String)
    (next : Nat)
    (occurrences : List Occurrence) :
    (number idName next occurrences).map
      Finding.toOccurrence = occurrences := by
  induction occurrences generalizing next with
  | nil => rfl
  | cons occurrence rest ih => simp [number, ih]

/-
  What a scan that comes to an end has done: it has found a
  directory, listed its scripts, looked into them, and given
  ids to what they have shown.
-/
theorem of_scan
    {scanner : Scanner}
    {tree : FileTree}
    {root : Path}
    {idName : Nat → String}
    {next : Nat}
    {report : Report}
    (h : scanner.scan tree root idName next = .ok report) :
    tree.isDirectory root = .ok true ∧
      ∃ files harvest,
        scanner.scripts tree root = .ok files ∧
          scanner.scanFiles tree root files = .ok harvest ∧
          report.findings =
            number idName next harvest.occurrences := by
  unfold scan at h
  simp only at h
  split at h
  · cases h
  · cases h
  · next hIsRoot =>
      have hRoot : tree.isDirectory root = .ok true := by
        split at hIsRoot
        · cases hIsRoot
        · cases hIsRoot
        · next hDirectory => exact hDirectory
      rcases map_eq_ok_iff.mp h with
        ⟨survey, hSurvey, hReport⟩
      subst hReport
      unfold Scanner.survey at hSurvey
      split at hSurvey
      · cases hSurvey
      · cases hSurvey
      · cases hSurvey
      · next modules version files _ _ hFiles =>
          rcases map_eq_ok_iff.mp hSurvey with
            ⟨harvest, hHarvest, hEq⟩
          subst hEq
          exact ⟨hRoot, files, harvest, hFiles, hHarvest, rfl⟩

/- The report of a scan that meets with no objection. -/
theorem scan_of_harvest
    {scanner : Scanner}
    {tree : FileTree}
    {root : Path}
    (hRoot : tree.isDirectory root = .ok true)
    (hProject : tree.isProject root = .ok true)
    {modules : List String}
    (hModules : tree.modules root = .ok modules)
    {version : String}
    (hVersion : tree.version root = .ok version)
    {files : List Path}
    (hFiles : scanner.scripts tree root = .ok files)
    {harvest : Harvest}
    (hHarvest : scanner.scanFiles tree root files =
      .ok harvest)
    (idName : Nat → String)
    (next : Nat) :
    scanner.scan tree root idName next =
      .ok
        { project := root
          name := root.name
          version := version
          multiModule := !modules.isEmpty
          modules := modules
          findings := number idName next harvest.occurrences
          skipped := harvest.skipped } := by
  unfold scan survey
  simp only [hRoot, hProject, hModules, hVersion, hFiles,
    hHarvest]
  rfl

/-
  Every finding of a report has its origin in one of the
  scripts of the project.
-/
theorem origin_of_scan
    {scanner : Scanner}
    {tree : FileTree}
    {root : Path}
    {idName : Nat → String}
    {next : Nat}
    {report : Report}
    (h : scanner.scan tree root idName next = .ok report)
    {finding : Finding}
    (hFinding : finding ∈ report.findings) :
    ∃ files content rule hit,
      scanner.scripts tree root = .ok files ∧
        scanner.Origin tree root files finding.toOccurrence
          content rule hit := by
  rcases of_scan h with
    ⟨_, files, harvest, hFiles, hHarvest, hFindings⟩
  have hMem :
      finding.toOccurrence ∈ harvest.occurrences := by
    rw [← map_number idName next harvest.occurrences,
      ← hFindings]
    exact List.mem_map_of_mem hFinding
  rcases origin_of_scanFiles hHarvest hMem with
    ⟨content, rule, hit, hOrigin⟩
  exact ⟨files, content, rule, hit, hFiles, hOrigin⟩

end Scanner

end GradleMigration

------------------------------------------------------------
-- Scans that Come to an End
------------------------------------------------------------

namespace GradleMigration

/- The root of a project is the absolute path to one. -/
theorem FileTree.of_projectRoot
    {tree : FileTree}
    {given : Option String}
    {root : Path}
    (h : tree.projectRoot given = .ok root) :
    root.isAbsolute = true ∧
      tree.isDirectory root = .ok true ∧
      tree.isProject root = .ok true := by
  unfold projectRoot at h
  simp only at h
  split at h
  · cases h
  · split at h
    · cases h
    · next hAbsolute =>
        split at h
        · cases h
        · cases h
        · next hDirectory =>
            split at h
            · cases h
            · cases h
            · next hProject =>
                have hRoot := Except.ok.inj h
                subst hRoot
                refine ⟨?_, hDirectory, hProject⟩
                simpa using hAbsolute

namespace Rule

/- Every hit of a total rule is an occurrence. -/
theorem occurrence_of_total
    {rule : Rule}
    (h : rule.Total)
    (place : ScriptPlace)
    (content : List Char)
    (hit : Hit) :
    ∃ found, rule.occurrence place content hit = .ok found := by
  rcases h (Text.lineOf content hit.start hit.stop) with
    ⟨fixed, hFixed⟩
  have hSuggest : ∃ suggestion,
      rule.suggestFix (Text.trim hit.text)
        (some (Text.lineOf content hit.start hit.stop)) =
          .ok suggestion := by
    unfold suggestFix
    simp only [Option.getD_some, hFixed]
    exact ⟨_, rfl⟩
  have hFixable : ∃ fixable,
      rule.isFixable content hit = .ok fixable := by
    unfold isFixable
    split
    · exact ⟨_, rfl⟩
    · split
      · split
        · exact ⟨_, rfl⟩
        · exact ⟨_, rfl⟩
      · simp only [hFixed]
        exact ⟨_, rfl⟩
  rcases hSuggest with ⟨suggestion, hSuggestion⟩
  rcases hFixable with ⟨fixable, hFixable⟩
  unfold occurrence
  simp only [hSuggestion, hFixable]
  exact ⟨_, rfl⟩

theorem occurrencesOf_of_total
    {rule : Rule}
    (h : rule.Total)
    (place : ScriptPlace)
    (content : List Char)
    (hits : List Hit) :
    ∃ all, rule.occurrencesOf place content hits = .ok all := by
  induction hits with
  | nil => exact ⟨[], rfl⟩
  | cons hit rest ih =>
      rcases occurrence_of_total h place content hit with
        ⟨found, hFound⟩
      rcases ih with ⟨more, hMore⟩
      refine ⟨found :: more, ?_⟩
      simp only [occurrencesOf, hFound, hMore]

end Rule

/- Total rules can be looked for in every text. -/
theorem Script.occurrences_of_total
    {rules : List Rule}
    (h : ∀ rule ∈ rules, rule.Total)
    (place : ScriptPlace)
    (content : List Char) :
    ∃ all, occurrences place content rules = .ok all := by
  induction rules with
  | nil => exact ⟨[], rfl⟩
  | cons rule rest ih =>
      rcases Rule.occurrencesOf_of_total
          (h rule List.mem_cons_self) place content
          ((rule.hits content).take maxFindingsPerRule) with
        ⟨found, hFound⟩
      rcases ih
          (fun other hOther =>
            h other (List.mem_cons_of_mem _ hOther)) with
        ⟨more, hMore⟩
      refine ⟨found ++ more, ?_⟩
      simp only [occurrences, Rule.occurrences, hFound, hMore]

namespace Scanner

/- Scripts are looked into one by one or skipped. -/
theorem scanFiles_of_total
    {scanner : Scanner}
    (h : ∀ rule ∈ scanner.rules, rule.Total)
    (tree : FileTree)
    (root : Path)
    (files : List Path) :
    ∃ harvest, scanner.scanFiles tree root files =
      .ok harvest := by
  induction files with
  | nil => exact ⟨_, rfl⟩
  | cons file rest ih =>
      rcases ih with ⟨later, hLater⟩
      unfold scanFiles scanFile
      cases tree.readExact file with
      | error fault =>
          simp only [hLater]
          exact ⟨_, rfl⟩
      | ok content =>
          rcases Script.occurrences_of_total h
              ⟨file, Project.moduleOf file root⟩ content with
            ⟨found, hFound⟩
          simp only [hFound, hLater]
          exact ⟨_, rfl⟩

/-
  A scan of a project with total rules comes to an end, unless
  the file system objects.
-/
theorem scan_of_total
    {scanner : Scanner}
    (h : ∀ rule ∈ scanner.rules, rule.Total)
    {tree : FileTree}
    {root : Path}
    (hRoot : tree.isDirectory root = .ok true)
    (hProject : tree.isProject root = .ok true)
    (idName : Nat → String)
    (next : Nat) :
    (∃ report,
        scanner.scan tree root idName next = .ok report) ∨
      ∃ fault, scanner.scan tree root idName next =
        .error (.project (.file fault)) := by
  unfold scan survey
  simp only [hRoot, hProject]
  cases tree.modules root with
  | error fault => exact Or.inr ⟨fault, rfl⟩
  | ok modules =>
      cases tree.version root with
      | error fault => exact Or.inr ⟨fault, rfl⟩
      | ok version =>
          cases scanner.scripts tree root with
          | error fault => exact Or.inr ⟨fault, rfl⟩
          | ok files =>
              rcases scanFiles_of_total h tree root files with
                ⟨harvest, hHarvest⟩
              simp only [hHarvest]
              exact Or.inl ⟨_, rfl⟩

end Scanner

end GradleMigration
