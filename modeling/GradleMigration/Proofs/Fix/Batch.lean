import GradleMigration.Proofs.Fix.Block

/-
  What fixing findings file by file does: the fixes of each
  file meet it as it was at the start.

  Main declarations:
    * `Scanner.turns`
    * `Registry.BatchEffect`
    * `Registry.batchEffect_of_applyFixes`
-/

------------------------------------------------------------
-- The Fixes of All Files
------------------------------------------------------------

namespace GradleMigration

namespace Scanner

/- The due rules of the scripts in turn. -/
def turns
    (scanner : Scanner)
    (rules : List String)
    (tree : FileTree)
    (files : List Path) : List Candidate :=
  files.flatMap fun file =>
    match tree.readExact file with
    | .error _ => []
    | .ok content =>
        Rule.turns file (scanner.due rules content) content

/- Each job has its turn. -/
theorem keys_of_turns
    (scanner : Scanner)
    (rules : List String)
    (tree : FileTree)
    (files : List Path) :
    (scanner.turns rules tree files).map Candidate.key =
      (scanner.jobs rules tree files).map Candidate.key := by
  unfold turns jobs
  rw [List.map_flatMap, List.map_flatMap]
  congr 1
  funext file
  cases tree.readExact file with
  | error fault => rfl
  | ok content =>
      simp only [Rule.keys_of_turns, List.map_map]
      rfl

/- Only rules of the scanner have turns, and in the files. -/
theorem of_mem_turns
    {scanner : Scanner}
    {rules : List String}
    {tree : FileTree}
    {files : List Path}
    {turn : Candidate}
    (h : turn ∈ scanner.turns rules tree files) :
    turn.file ∈ files ∧ turn.rule ∈ scanner.rules := by
  rcases List.mem_flatMap.mp h with ⟨file, hFile, hTurn⟩
  cases hRead : tree.readExact file with
  | error fault => simp [hRead] at hTurn
  | ok content =>
      rw [hRead] at hTurn
      rcases Rule.of_mem_turns hTurn with ⟨hHere, hRule⟩
      exact ⟨hHere ▸ hFile, (List.mem_filter.mp hRule).1⟩

end Scanner

namespace Registry

namespace BlockEffect

variable {before after : FileTree}
variable {file : Path} {location : Location}
variable {bytes : List UInt8} {content : List Char}
variable {rules : List Rule} {results : List FixResult}
variable {changed added : List Location}

/- All results of one file are about it. -/
theorem file_of_mem
    (h : BlockEffect before after file location bytes content
      rules results changed added)
    {result : FixResult}
    (hResult : result ∈ results) :
    result.file = file := by
  have hMem := List.mem_map_of_mem hResult
    (f := fun result => (result.file, result.success))
  rw [h.answers] at hMem
  rcases List.mem_map.mp hMem with ⟨turn, hTurn, hEq⟩
  injection hEq with hFile _
  rw [← hFile]
  exact (Rule.of_mem_turns hTurn).1

/- The other files stay as they are. -/
theorem holds_elsewhere
    (h : BlockEffect before after file location bytes content
      rules results changed added)
    {other : Path}
    {place : Location}
    {held : List UInt8}
    {text : List Char}
    (hHolds : before.Holds other place held text)
    (hNe : place ≠ location) :
    after.Holds other place held text := by
  apply h.effect.changes.holds hHolds
  intro hMem
  exact hNe (List.mem_singleton.mp (h.own hMem))

end BlockEffect

/-
  What the fixes of some files have come to.  The rules of
  each file are chosen by its text in the tree `start`.
-/
structure BatchEffect
    (scanner : Scanner)
    (rules : List String)
    (start before after : FileTree)
    (files : List Path)
    (results : List FixResult)
    (changed added : List Location) : Prop where
  effect : FixEffect before after results changed added
  own : ∀ location ∈ changed, ∃ file ∈ files,
    ∃ bytes content, start.Holds file location bytes content
  texts : ∀ file ∈ files, ∀ content,
    start.readExact file = .ok content →
      after.readExact file =
        .ok (Rule.migratedBy (scanner.due rules content) content)
  answers :
    results.map (fun result => (result.file, result.success)) =
      (scanner.turns rules start files).map fun turn =>
        (turn.file, turn.changes)
  failures : ∀ result ∈ results, result.success = false →
    result.outcome = .failed .unchanged
  first : ∀ file ∈ files, ∀ bytes,
    start.read file = .ok bytes → ∀ result,
      FixResult.firstFor file results = some result →
        ∃ backup copy, result.backup? = some backup ∧
          copy ∈ added ∧ after.locate backup = .ok copy ∧
          after.get? copy = some (.file bytes)

namespace BatchEffect

variable {scanner : Scanner} {rules : List String}
variable {start before between after : FileTree}
variable {file : Path} {files : List Path}
variable {results : List FixResult}
variable {changed added : List Location}

/- Results are about the files. -/
theorem mem_files
    (h : BatchEffect scanner rules start before after files
      results changed added)
    {result : FixResult}
    (hResult : result ∈ results) :
    result.file ∈ files := by
  have hMem := List.mem_map_of_mem hResult
    (f := fun result => (result.file, result.success))
  rw [h.answers] at hMem
  rcases List.mem_map.mp hMem with ⟨turn, hTurn, hEq⟩
  injection hEq with hFile _
  exact hFile ▸ (Scanner.of_mem_turns hTurn).1

/- No success is about another file. -/
theorem firstFor_eq_none
    (h : BatchEffect scanner rules start before after files
      results changed added)
    (hFile : file ∉ files) :
    FixResult.firstFor file results = none := by
  apply FixResult.firstFor_eq_none
  intro result hResult hEq
  exact hFile (hEq ▸ h.mem_files hResult)

/- A file that cannot be read as text comes first. -/
theorem after_unread
    (h : BatchEffect scanner rules start before after files
      results changed added)
    {fault : ReadFault}
    (hRead : start.readExact file = .error fault)
    (hFile : file ∉ files) :
    BatchEffect scanner rules start before after
      (file :: files) results changed added where
  effect := h.effect
  own location hLocation := by
    rcases h.own location hLocation with
      ⟨other, hOther, hHolds⟩
    exact ⟨other, List.mem_cons_of_mem _ hOther, hHolds⟩
  texts other hOther content hContent := by
    rcases List.mem_cons.mp hOther with hHere | hLater
    · rw [hHere, hRead] at hContent
      cases hContent
    · exact h.texts other hLater content hContent
  answers := by
    rw [h.answers]
    simp [Scanner.turns, hRead]
  failures := h.failures
  first other hOther bytes hBytes result hFirst := by
    rcases List.mem_cons.mp hOther with hHere | hLater
    · rw [hHere, h.firstFor_eq_none hFile] at hFirst
      cases hFirst
    · exact h.first other hLater bytes hBytes result hFirst

/- The fixes of a file come first. -/
theorem after_block
    {location : Location}
    {bytes : List UInt8}
    {content : List Char}
    {early : List FixResult}
    {rewritten made : List Location}
    (h : BatchEffect scanner rules start between after files
      results changed added)
    (hBlock : BlockEffect before between file location bytes
      content (scanner.due rules content) early rewritten made)
    (hHolds : start.Holds file location bytes content)
    (hFile : file ∉ files)
    (hOthers : ∀ other ∈ files, ∀ place bytes content,
      start.Holds other place bytes content →
        place ≠ location ∧
          before.Holds other place bytes content) :
    BatchEffect scanner rules start before after
      (file :: files) (early ++ results)
      (rewritten ++ changed) (made ++ added) where
  effect := hBlock.effect.trans h.effect
  own place hPlace := by
    rcases List.mem_append.mp hPlace with hOwn | hLater
    · have hIs := List.mem_singleton.mp (hBlock.own hOwn)
      exact ⟨file, List.mem_cons_self, bytes, content,
        hIs ▸ hHolds⟩
    · rcases h.own place hLater with ⟨other, hOther, hThere⟩
      exact ⟨other, List.mem_cons_of_mem _ hOther, hThere⟩
  texts other hOther text hText := by
    rcases List.mem_cons.mp hOther with hHere | hLater
    · subst hHere
      have hContent := FileTree.readExact_eq_ok_iff.mpr
        ⟨location, bytes, hHolds⟩
      rw [hText] at hContent
      cases hContent
      rcases hBlock.holds with ⟨last, hLast⟩
      refine FileTree.readExact_eq_ok_iff.mpr ⟨location, last,
        h.effect.changes.holds hLast ?_⟩
      intro hMem
      rcases h.own location hMem with
        ⟨other, hOther, _, _, hThere⟩
      exact (hOthers other hOther _ _ _ hThere).1 rfl
    · exact h.texts other hLater text hText
  answers := by
    have hContent := FileTree.readExact_eq_ok_iff.mpr
      ⟨location, bytes, hHolds⟩
    rw [List.map_append, hBlock.answers, h.answers]
    simp [Scanner.turns, hContent]
  failures result hResult hFailed := by
    rcases List.mem_append.mp hResult with hEarly | hLater
    · exact hBlock.failures result hEarly hFailed
    · exact h.failures result hLater hFailed
  first other hOther found hFound result hFirst := by
    rcases List.mem_cons.mp hOther with hHere | hLater
    · subst hHere
      rw [FixResult.firstFor_append,
        h.firstFor_eq_none hFile, Option.or_none] at hFirst
      have hRead := FileTree.read_eq_ok_iff.mpr
        ⟨location, hHolds.place, hHolds.entry⟩
      rw [hFound] at hRead
      cases hRead
      rcases hBlock.first result hFirst with
        ⟨backup, copy, hBackup, hMade, hPlace, hSaved⟩
      refine ⟨backup, copy, hBackup,
        List.mem_append_left _ hMade,
        FileTree.locate_of_sameDirectories
          h.effect.changes.sameDirectories hPlace, ?_⟩
      have hNone := (hBlock.effect.changes.made copy hMade).1
      have hChanged : copy ∉ changed := by
        intro hMem
        rcases h.own copy hMem with ⟨other, hOther, _, _, hThere⟩
        have hKept := (hOthers other hOther _ _ _ hThere).2
        rw [hKept.entry] at hNone
        cases hNone
      have hAdded : copy ∉ added := by
        intro hMem
        have hFree := (h.effect.changes.made copy hMem).1
        rw [hSaved] at hFree
        cases hFree
      rw [h.effect.changes.kept copy hChanged hAdded, hSaved]
    · have hNe : other ≠ file :=
        fun hEq => hFile (hEq ▸ hLater)
      have hEarly :
          FixResult.firstFor other early = none := by
        apply FixResult.firstFor_eq_none
        intro result hResult hEq
        exact hNe (hEq ▸ hBlock.file_of_mem hResult)
      rw [FixResult.firstFor_append, hEarly,
        Option.none_or] at hFirst
      rcases h.first other hLater found hFound result hFirst with
        ⟨backup, copy, hBackup, hAdded, hRest⟩
      exact ⟨backup, copy, hBackup,
        List.mem_append_right _ hAdded, hRest⟩

end BatchEffect

/-
  The fixes of all files, if the file system never objects:
  in each file the due rules change the text in turn.
-/
theorem batchEffect_of_applyFixes
    {registry : Registry}
    {scanner : Scanner}
    {rules : List String}
    (hTotal : ∀ rule ∈ scanner.rules, rule.Total)
    (hGet : ∀ rule ∈ scanner.rules,
      registry.get? rule.id = some rule)
    {start : FileTree}
    {files : List Path}
    (hNodup : files.Nodup)
    (hParts : ∀ file ∈ files, file.parts ≠ [])
    (hApart : ∀ file ∈ files, ∀ other ∈ files, ∀ location,
      start.locate file = .ok location →
        start.locate other = .ok location → file = other)
    {workspace last : Workspace}
    (hHolds : ∀ file ∈ files, ∀ location bytes content,
      start.Holds file location bytes content →
        workspace.tree.Holds file location bytes content)
    {findings : List Finding}
    (hAuto : ∀ finding ∈ findings, finding.autoFixable = true)
    (hKeys : findings.map Finding.key =
      (scanner.jobs rules start files).map Candidate.key)
    {results : List FixResult}
    (hRun : registry.applyFixes workspace findings =
      (last, .ok results))
    (hCalm : ∀ result ∈ results,
      result.isSystemFault = false) :
    ∃ changed added,
      BatchEffect scanner rules start workspace.tree last.tree
        files results changed added := by
  induction files generalizing workspace findings results with
  | nil =>
      cases List.map_eq_nil_iff.mp hKeys
      cases hRun
      exact ⟨[], [],
        { effect := .refl _
          own := by simp
          texts := by simp
          answers := rfl
          failures := by simp
          first := by simp }⟩
  | cons file files ih =>
      rcases List.nodup_cons.mp hNodup with ⟨hFile, hOthers⟩
      have hLaterParts : ∀ other ∈ files, other.parts ≠ [] :=
        fun other hOther =>
          hParts other (List.mem_cons_of_mem _ hOther)
      have hLaterApart : ∀ other ∈ files, ∀ another ∈ files,
          ∀ location, start.locate other = .ok location →
            start.locate another = .ok location →
              other = another :=
        fun other hOther another hAnother =>
          hApart other (List.mem_cons_of_mem _ hOther)
            another (List.mem_cons_of_mem _ hAnother)
      unfold Scanner.jobs at hKeys
      rw [List.flatMap_cons, List.map_append] at hKeys
      rcases List.map_eq_append_iff.mp hKeys with
        ⟨front, back, hSplit, hFront, hBack⟩
      subst hSplit
      cases hRead : start.readExact file with
      | error fault =>
          rw [hRead] at hFront
          cases List.map_eq_nil_iff.mp hFront
          rcases ih hOthers hLaterParts hLaterApart
              (fun other hOther =>
                hHolds other (List.mem_cons_of_mem _ hOther))
              hAuto hBack hRun hCalm with
            ⟨changed, added, hRest⟩
          exact ⟨changed, added, hRest.after_unread hRead hFile⟩
      | ok content =>
          rw [hRead, List.map_map] at hFront
          rcases FileTree.readExact_eq_ok_iff.mp hRead with
            ⟨location, bytes, hStart⟩
          rcases applyFixes_append hRun with
            ⟨between, early, late, hEarly, hLate, hEq⟩
          subst hEq
          have hDue : ∀ rule ∈ scanner.due rules content,
              rule ∈ scanner.rules :=
            fun rule hRule => (List.mem_filter.mp hRule).1
          rcases block_of_applyFixes
              (hParts file List.mem_cons_self)
              (fun rule hRule => hTotal rule (hDue rule hRule))
              (fun rule hRule => hGet rule (hDue rule hRule))
              (hHolds file List.mem_cons_self _ _ _ hStart)
              (fun finding hFinding => hAuto finding
                (List.mem_append_left _ hFinding))
              hFront hEarly
              (fun result hResult => hCalm result
                (List.mem_append_left _ hResult)) with
            ⟨rewritten, made, hBlock⟩
          have hElse : ∀ other ∈ files, ∀ place bytes content,
              start.Holds other place bytes content →
                place ≠ location ∧
                  workspace.tree.Holds other place bytes
                    content := by
            intro other hOther place bytes content hThere
            refine ⟨?_, hHolds other
              (List.mem_cons_of_mem _ hOther) _ _ _ hThere⟩
            intro hSame
            subst hSame
            have hIs := hApart file List.mem_cons_self other
              (List.mem_cons_of_mem _ hOther) place hStart.place
              hThere.place
            exact hFile (hIs ▸ hOther)
          rcases ih hOthers hLaterParts hLaterApart
              (fun other hOther place bytes content hThere =>
                hBlock.holds_elsewhere
                  (hElse other hOther _ _ _ hThere).2
                  (hElse other hOther _ _ _ hThere).1)
              (fun finding hFinding => hAuto finding
                (List.mem_append_right _ hFinding))
              hBack hLate
              (fun result hResult => hCalm result
                (List.mem_append_right _ hResult)) with
            ⟨changed, added, hRest⟩
          exact ⟨_, _,
            hRest.after_block hBlock hStart hFile hElse⟩

end Registry

end GradleMigration
