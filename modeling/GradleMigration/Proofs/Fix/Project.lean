import GradleMigration.Proofs.Backup.Stamps
import GradleMigration.Proofs.Fix.Batch
import GradleMigration.Proofs.Rule.Loading

/-
  What the fixes that a scan calls for do to a project: the
  due rules of each script change its text in turn, the bytes
  before are kept in backups, and all other files stay as they
  are.

  Main declarations:
    * `Backup.of_withName`
    * `Workspace.ProjectFix`
    * `Workspace.projectFix_of_applyFixes`
-/

------------------------------------------------------------
-- Backups Are No Scripts
------------------------------------------------------------

namespace GradleMigration

/- The last name of a backup is not that of a script. -/
theorem Backup.of_withName
    {file backup : Path}
    (hParts : file.parts ≠ [])
    {stamp : Int}
    (h : file.withName (nameFor file.name stamp) =
      .ok backup) :
    ∃ (parent : Path) (name : Name),
      backup = parent.below [name] ∧
        name.isUp = false ∧
        Project.isScriptName name.text = false := by
  rcases Path.withName_nameFor hParts stamp with
    ⟨name, hText, hName⟩
  rw [h] at hName
  cases hName
  refine ⟨file.parent, name, rfl, ?_, ?_⟩
  · unfold Name.isUp
    rw [hText, beq_eq_false_iff_ne]
    exact nameFor_ne_up file.name stamp
  · rw [hText]
    exact not_isScriptName_nameFor file.name stamp

namespace FixEffect

variable {before after : FileTree}
variable {results : List FixResult}
variable {changed added : List Location}

/- No backup is ever scanned. -/
theorem not_isScannable
    (h : FixEffect before after results changed added)
    (hParts : ∀ result ∈ results, result.file.parts ≠ [])
    {result : FixResult}
    (hResult : result ∈ results)
    {backup : Path}
    (hBackup : result.backup? = some backup)
    (root : Path)
    (excludes : List String) :
    Project.isScannable backup root excludes = false := by
  rcases h.named result hResult backup hBackup with
    ⟨stamp, hNamed⟩
  rcases Backup.of_withName (hParts result hResult) hNamed with
    ⟨parent, name, hPath, _, hScript⟩
  have hLast : [name].getLast? = some name := rfl
  unfold Project.isScannable
  rw [hPath, Path.name_below parent hLast, hScript,
    Bool.false_and]

/- Every new file is the backup of a result. -/
theorem backup_of_mem_added
    (h : FixEffect before after results changed added)
    {location : Location}
    (hLocation : location ∈ added) :
    ∃ result ∈ results, ∃ backup stamp,
      result.file.withName
          (Backup.nameFor result.file.name stamp) =
        .ok backup ∧
      after.locate backup = .ok location := by
  have hMem := List.mem_map_of_mem hLocation
    (f := fun location =>
      some (Except.ok location : Except FileCause Location))
  rw [← h.saved] at hMem
  rcases List.mem_map.mp hMem with ⟨result, hSuccess, hSome⟩
  have hResult := (List.mem_filter.mp hSuccess).1
  rcases Option.map_eq_some_iff.mp hSome with
    ⟨backup, hBackup, hLocate⟩
  rcases h.named result hResult backup hBackup with
    ⟨stamp, hNamed⟩
  exact ⟨result, hResult, backup, stamp, hNamed, hLocate⟩

/- New files do not have the names of scripts. -/
theorem name_of_mem_added
    (h : FixEffect before after results changed added)
    (hParts : ∀ result ∈ results, result.file.parts ≠ [])
    {location : Location}
    (hLocation : location ∈ added) :
    ∃ last, location.getLast? = some last ∧
      Project.isScriptName last.text = false := by
  rcases h.backup_of_mem_added hLocation with
    ⟨result, hResult, backup, stamp, hNamed, hLocate⟩
  rcases Backup.of_withName (hParts result hResult) hNamed with
    ⟨parent, name, hPath, hUp, hScript⟩
  subst hPath
  exact ⟨name, FileTree.getLast?_of_locate hUp hLocate, hScript⟩

/- The paths of new files below a root are not too long. -/
theorem short_of_mem_added
    (h : FixEffect before after results changed added)
    {root : Path}
    {place : Location}
    (hRoot : before.locate root = .ok place)
    (hBelow : ∀ result ∈ results, ∃ names last,
      (∀ name ∈ names, name.isUp = false) ∧
        result.file = root.below (names ++ [last]))
    {names : List Name}
    (hNames : place ++ names ∈ added) :
    (root.below names).isTooLong = false := by
  rcases h.backup_of_mem_added hNames with
    ⟨result, hResult, backup, stamp, hNamed, hLocate⟩
  rcases hBelow result hResult with
    ⟨above, last, hAbove, hFile⟩
  have hFolder : root.below (above ++ [last]) =
      (root.below above).below [last] := by
    simp [Path.below]
  rw [hFile, hFolder, Path.withName_below] at hNamed
  cases hNamed
  have hPath : (root.below above).below
      [Backup.nameAt last stamp] =
        root.below (above ++ [Backup.nameAt last stamp]) := by
    simp [Path.below]
  rw [hPath] at hLocate
  have hDown : ∀ name ∈ above ++ [Backup.nameAt last stamp],
      name.isUp = false := by
    intro name hName
    rcases List.mem_append.mp hName with hHere | hHere
    · exact hAbove name hHere
    · rw [List.mem_singleton.mp hHere]
      exact Backup.nameAt_isUp last stamp
  have hPlace := FileTree.locate_below hDown
    (FileTree.locate_of_sameDirectories
      h.changes.sameDirectories hRoot) hLocate
  rw [List.append_cancel_left hPlace]
  exact decide_eq_false (Nat.not_lt.mpr
    (FileTree.fitsFrom_of_locate hLocate).size)

end FixEffect

end GradleMigration

------------------------------------------------------------
-- Fixing a Project
------------------------------------------------------------

namespace GradleMigration

namespace Workspace

/-
  What the fixes of a project have come to, with the list of
  its scripts, the findings that were taken on and the results
  for them.
-/
structure ProjectFix
    (scanner : Scanner)
    (rules : List String)
    (root : Path)
    (files : List Path)
    (before after : FileTree)
    (findings : List Finding)
    (results : List FixResult) : Prop where
  -- The due rules of a script have changed its text in turn.
  texts : ∀ file ∈ files, ∀ content,
    before.readExact file = .ok content →
      after.readExact file =
        .ok (Rule.migratedBy (scanner.due rules content) content)
  -- There is one result for each script and due rule.
  ids : results.map (·.findingId) = findings.map (·.id)
  places : results.map (·.file) = findings.map (·.file)
  once : ((scanner.turns rules before files).map
    Candidate.key).Nodup
  answers :
    (findings.zip results).map
        (Prod.map Finding.key FixResult.success) =
      (scanner.turns rules before files).map fun turn =>
        (turn.key, turn.changes)
  failures : ∀ result ∈ results, result.success = false →
    result.outcome = .failed .unchanged
  -- Everything but the fixed scripts has been kept.
  kept : ∀ location entry,
    before.get? location = some entry →
      (∀ result ∈ results, result.success = true →
        before.locate result.file ≠ .ok location) →
      after.get? location = some entry
  lasting : ∀ location,
    before.get? location ≠ none → after.get? location ≠ none
  -- What is new is one backup for each success.
  backups : ∃ added : List Location,
    added.Nodup ∧
      (∀ location, location ∈ added ↔
        before.get? location = none ∧
          after.get? location ≠ none) ∧
      (∀ location ∈ added, ∃ bytes,
        after.get? location = some (.file bytes)) ∧
      (results.filter (·.success)).map
          (fun result => result.backup?.map after.locate) =
        added.map fun location => some (.ok location)
  named : ∀ result ∈ results, ∀ backup,
    result.backup? = some backup → ∃ stamp,
      result.file.withName
        (Backup.nameFor result.file.name stamp) = .ok backup
  first : ∀ file ∈ files, ∀ bytes,
    before.read file = .ok bytes → ∀ result,
      FixResult.firstFor file results = some result →
        ∃ backup, result.backup? = some backup ∧
          after.read backup = .ok bytes
  -- No backup is ever scanned.
  hidden : ∀ result ∈ results, ∀ backup,
    result.backup? = some backup → ∀ place excludes,
      Project.isScannable backup place excludes = false
  scripts : scanner.scripts after root = .ok files

end Workspace

namespace Registry.BatchEffect

variable {scanner : Scanner} {rules : List String}
variable {before after : FileTree}
variable {files : List Path} {results : List FixResult}
variable {changed added : List Location}

/- Each finding is answered by the turn of its rule. -/
theorem zip_answers
    (h : BatchEffect scanner rules before before after files
      results changed added)
    {findings : List Finding}
    (hKeys : findings.map Finding.key =
      (scanner.jobs rules before files).map Candidate.key) :
    (findings.zip results).map
        (Prod.map Finding.key FixResult.success) =
      (scanner.turns rules before files).map fun turn =>
        (turn.key, turn.changes) := by
  have hSuccess := congrArg (List.map Prod.snd) h.answers
  rw [List.map_map, List.map_map] at hSuccess
  rw [← List.zip_map, hKeys, ← scanner.keys_of_turns]
  refine Eq.trans (congrArg (List.zip _) hSuccess) ?_
  rw [List.zip_map']
  rfl

/- Each result is about the file of its finding. -/
theorem files_eq
    (h : BatchEffect scanner rules before before after files
      results changed added)
    {findings : List Finding}
    (hKeys : findings.map Finding.key =
      (scanner.jobs rules before files).map Candidate.key) :
    results.map (·.file) = findings.map (·.file) := by
  have hResults := congrArg (List.map Prod.fst) h.answers
  have hFindings := congrArg (List.map Prod.fst) hKeys
  rw [← scanner.keys_of_turns] at hFindings
  simp only [List.map_map] at hResults hFindings
  exact hResults.trans hFindings.symm

end Registry.BatchEffect

namespace Workspace

/-
  The fixes that a scan calls for, if the file system never
  objects: the rules of the scanner come from the registry
  that the fixes are made with.
-/
theorem projectFix_of_applyFixes
    {registry : Registry}
    (hDistinct : registry.DistinctIds)
    {scanner : Scanner}
    (hRules : scanner.rules.Sublist registry.rules)
    (hTotal : ∀ rule ∈ scanner.rules, rule.Total)
    {workspace last : Workspace}
    (hTree : workspace.tree.Regular)
    {root : Path}
    (hRoot : root.isAbsolute = true)
    {idName : Nat → String}
    {next : Nat}
    {report : Report}
    (hScan : scanner.scan workspace.tree root idName next =
      .ok report)
    {files : List Path}
    (hFiles : scanner.scripts workspace.tree root = .ok files)
    {rules : List String}
    {results : List FixResult}
    (hRun : registry.applyFixes workspace
      (fixable report rules) = (last, .ok results))
    (hCalm : ∀ result ∈ results,
      result.isSystemFault = false) :
    ProjectFix scanner rules root files workspace.tree last.tree
      (fixable report rules) results := by
  have hIds : (scanner.rules.map Rule.id).Nodup :=
    List.Nodup.sublist (hRules.map Rule.id) hDistinct
  have hDirectory := (Scanner.of_scan hScan).1
  rcases FileTree.isDirectory_eq_true_iff.mp hDirectory with
    ⟨place, hLocate, hPlace⟩
  have hListing :=
    Scanner.listing_of_scripts hLocate hPlace hFiles
  have hKeys :=
    keys_of_fixable hIds hRoot hScan hFiles rules
  have hParts : ∀ file ∈ files, file.parts ≠ [] :=
    fun _ hFile => Scanner.parts_ne_nil_of_scripts hFiles hFile
  rcases Registry.batchEffect_of_applyFixes hTotal
      (fun rule hRule => Registry.get?_of_mem hDistinct
        (hRules.subset hRule))
      hListing.nodup hParts
      (fun _ hFile _ hOther _ hThere hToo =>
        hListing.eq_of_locate hTree hLocate hFile hOther
          hThere hToo)
      (fun _ _ _ _ _ hHolds => hHolds)
      (fun _ hFinding => (mem_of_mem_fixable hFinding).2)
      hKeys hRun hCalm with
    ⟨changed, added, hEffect⟩
  have hChanges := hEffect.effect.changes
  have hOld : ∀ location ∈ changed, ∃ bytes,
      workspace.tree.get? location = some (.file bytes) := by
    intro location hMem
    rcases hEffect.own location hMem with
      ⟨_, _, bytes, _, hHolds⟩
    exact ⟨bytes, hHolds.entry⟩
  have hNames : ∀ result ∈ results, result.file.parts ≠ [] :=
    fun _ hResult => hParts _ (hEffect.mem_files hResult)
  exact
    { texts := hEffect.texts
      ids := Registry.ids_of_applyFixes hRun
      places := hEffect.files_eq hKeys
      once := by
        rw [scanner.keys_of_turns, scanner.jobs_eq_filter]
        exact List.Nodup.sublist
          (List.filter_sublist.map Candidate.key)
          (Scanner.nodup_candidates hIds workspace.tree
            hListing.nodup)
      answers := hEffect.zip_answers hKeys
      failures := hEffect.failures
      kept := by
        intro location entry hEntry hOther
        have hChanged : location ∉ changed := by
          intro hMem
          rcases hEffect.effect.rewritten location hMem with
            ⟨result, hResult, hSuccess, hThere⟩
          exact hOther result hResult hSuccess hThere
        have hAdded : location ∉ added := by
          intro hMem
          rw [(hChanges.made location hMem).1] at hEntry
          cases hEntry
        rw [hChanges.kept location hChanged hAdded, hEntry]
      lasting := fun _ hThere => hChanges.get?_ne_none hThere
      backups := by
        refine ⟨added, hChanges.distinct, ?_,
          fun location hMem => (hChanges.made location hMem).2,
          hEffect.effect.saved⟩
        intro location
        apply hChanges.mem_added_iff
        intro other hOther
        rcases hOld other hOther with ⟨bytes, hBytes⟩
        rw [hBytes]
        exact Option.some_ne_none _
      named := hEffect.effect.named
      first := by
        intro file hFile bytes hBytes result hFirst
        rcases hEffect.first file hFile bytes hBytes result
            hFirst with
          ⟨backup, copy, hBackup, _, hCopy, hSaved⟩
        exact ⟨backup, hBackup,
          FileTree.read_eq_ok_iff.mpr ⟨copy, hCopy, hSaved⟩⟩
      hidden := by
        intro result hResult backup hBackup other excludes
        exact hEffect.effect.not_isScannable hNames hResult
          hBackup other excludes
      scripts := by
        apply scanner.scripts_of_changes hLocate hPlace hFiles
          hChanges hOld
        · intro location hMem
          exact hEffect.effect.name_of_mem_added hNames hMem
        · intro names hMem
          apply hEffect.effect.short_of_mem_added hLocate _ hMem
          intro result hResult
          exact hListing.exists_last hTree
            (hEffect.mem_files hResult) }

end Workspace

end GradleMigration
