import GradleMigration.Proofs.Fix.Step
import GradleMigration.Proofs.Rule.Transform
import GradleMigration.Proofs.Scan.Calls

/-
  What fixing the findings of one file does: its rules work on
  its text in turn, each success adds a backup, and every
  other file stays as it is.

  Main declarations:
    * `Rule.migratedBy` and `Rule.turns`
    * `FixEffect`
    * `Registry.changes_of_applyFixes`
    * `Registry.BlockEffect`
    * `Registry.block_of_applyFixes`
-/

------------------------------------------------------------
-- Rules in Turn
------------------------------------------------------------

namespace GradleMigration

namespace Rule

/- What a rule makes of a text; on a fault the text stays. -/
def migrated
    (rule : Rule)
    (content : List Char) : List Char :=
  match rule.transform content with
  | .ok text => text
  | .error _ => content

/- What rules make of a text one after another. -/
def migratedBy
    (rules : List Rule)
    (content : List Char) : List Char :=
  rules.foldl (fun text rule => rule.migrated text) content

/- Rules of a file in turn, each with the text it comes to. -/
def turns
    (file : Path) : List Rule → List Char → List Candidate
| [], _ => []
| rule :: rules, content =>
    ⟨file, content, rule⟩ ::
      turns file rules (rule.migrated content)

theorem keys_of_turns
    (file : Path)
    (rules : List Rule)
    (content : List Char) :
    (turns file rules content).map Candidate.key =
      rules.map fun rule => (file, rule.id) := by
  induction rules generalizing content with
  | nil => rfl
  | cons rule rest ih =>
      rw [turns, List.map_cons, List.map_cons, ih]
      rfl

/- Each turn is of one of the rules in the file. -/
theorem of_mem_turns
    {file : Path}
    {rules : List Rule}
    {content : List Char}
    {turn : Candidate}
    (h : turn ∈ turns file rules content) :
    turn.file = file ∧ turn.rule ∈ rules := by
  induction rules generalizing content with
  | nil => cases h
  | cons rule rest ih =>
      rcases List.mem_cons.mp h with hHere | hLater
      · rw [hHere]
        exact ⟨rfl, List.mem_cons_self⟩
      · rcases ih hLater with ⟨hFile, hRule⟩
        exact ⟨hFile, List.mem_cons_of_mem _ hRule⟩

theorem transform_of_total
    {rule : Rule}
    (h : rule.Total)
    (content : List Char) :
    rule.transform content = .ok (rule.migrated content) := by
  rcases h content with ⟨text, hText⟩
  unfold migrated
  rw [hText]

end Rule

/- Whether a rule changes the text that it comes to. -/
def Candidate.changes
    (turn : Candidate) : Bool :=
  turn.rule.migrated turn.content != turn.content

end GradleMigration

------------------------------------------------------------
-- Effects of Fixes
------------------------------------------------------------

namespace GradleMigration

/-
  What fixes with some results have done to a tree: only files
  with a success are rewritten, each success has added one
  backup, and nothing else has changed.
-/
structure FixEffect
    (before after : FileTree)
    (results : List FixResult)
    (changed added : List Location) : Prop where
  changes : before.Changes after changed added
  rewritten : ∀ location ∈ changed,
    ∃ result ∈ results, result.success = true ∧
      before.locate result.file = .ok location
  named : ∀ result ∈ results, ∀ backup,
    result.backup? = some backup → ∃ stamp,
      result.file.withName
        (Backup.nameFor result.file.name stamp) = .ok backup
  saved :
    (results.filter (·.success)).map
        (fun result => result.backup?.map after.locate) =
      added.map fun location => some (.ok location)

namespace FixEffect

variable {before between after : FileTree}
variable {results more : List FixResult}
variable {changed added rewritten made : List Location}

/- No fix, no effect. -/
theorem refl
    (tree : FileTree) :
    FixEffect tree tree [] [] [] where
  changes := .refl tree
  rewritten _ h := by cases h
  named _ h := by cases h
  saved := rfl

/- Backups stay where they are when more files are fixed. -/
theorem saved_of_changes
    (h : FixEffect before between results changed added)
    (hMore : between.Changes after rewritten made) :
    (results.filter (·.success)).map
        (fun result => result.backup?.map after.locate) =
      added.map fun location => some (.ok location) := by
  rw [← h.saved]
  apply List.map_congr_left
  intro result hResult
  have hMem := List.mem_map_of_mem hResult
    (f := fun result => result.backup?.map between.locate)
  rw [h.saved] at hMem
  rcases List.mem_map.mp hMem with ⟨location, _, hEq⟩
  rcases Option.map_eq_some_iff.mp hEq.symm with
    ⟨backup, hBackup, hLocate⟩
  rw [hBackup, Option.map_some, Option.map_some, hLocate,
    FileTree.locate_of_sameDirectories
      hMore.sameDirectories hLocate]

/- Fixes after fixes. -/
theorem trans
    (hFirst : FixEffect before between results changed added)
    (hSecond : FixEffect between after more rewritten made) :
    FixEffect before after (results ++ more)
      (changed ++ rewritten) (added ++ made) where
  changes := hFirst.changes.trans hSecond.changes
  rewritten location hLocation := by
    rcases List.mem_append.mp hLocation with hEarly | hLate
    · rcases hFirst.rewritten location hEarly with
        ⟨result, hResult, hRest⟩
      exact ⟨result, List.mem_append_left _ hResult, hRest⟩
    · rcases hSecond.rewritten location hLate with
        ⟨result, hResult, hSuccess, hLocate⟩
      exact ⟨result, List.mem_append_right _ hResult, hSuccess,
        FileTree.locate_of_sameDirectories
          hFirst.changes.sameDirectories.symm hLocate⟩
  named result hResult := by
    rcases List.mem_append.mp hResult with hEarly | hLate
    · exact hFirst.named result hEarly
    · exact hSecond.named result hLate
  saved := by
    rw [List.filter_append, List.map_append, List.map_append,
      hFirst.saved_of_changes hSecond.changes, hSecond.saved]

end FixEffect

namespace Workspace

/- Rewriting one file is the effect of one success. -/
theorem Rewrites.fixEffect
    {before after : Workspace}
    {file backup : Path}
    {location copy : Location}
    {bytes : List UInt8}
    {text : List Char}
    (h : before.Rewrites after file location bytes text backup
      copy)
    {content : List Char}
    (hHolds : before.tree.Holds file location bytes content)
    (id old new : String) :
    FixEffect before.tree after.tree
      [⟨id, file, .fixed backup old new⟩] [location]
      [copy] where
  changes := h.changes
  rewritten other hOther := by
    cases List.mem_singleton.mp hOther
    exact ⟨_, List.mem_singleton.mpr rfl, rfl, hHolds.place⟩
  named result hResult other hOther := by
    cases List.mem_singleton.mp hResult
    cases hOther
    exact h.named
  saved := by
    have hCopy := FileTree.locate_of_sameDirectories
      h.changes.sameDirectories h.place
    simp [FixResult.success, FixResult.backup?, hCopy]

end Workspace

end GradleMigration

------------------------------------------------------------
-- The Fixes of One File
------------------------------------------------------------

namespace GradleMigration

/- The first success in a file. -/
def FixResult.firstFor
    (file : Path)
    (results : List FixResult) : Option FixResult :=
  results.find? fun result =>
    decide (result.file = file) && result.success

/- Results about other files have no success in a file. -/
theorem FixResult.firstFor_eq_none
    {file : Path}
    {results : List FixResult}
    (h : ∀ result ∈ results, result.file ≠ file) :
    firstFor file results = none := by
  apply List.find?_eq_none.mpr
  intro result hResult hBoth
  rw [Bool.and_eq_true, decide_eq_true_eq] at hBoth
  exact h result hResult hBoth.1

/- The first success of two runs. -/
theorem FixResult.firstFor_append
    (file : Path)
    (early late : List FixResult) :
    firstFor file (early ++ late) =
      (firstFor file early).or (firstFor file late) := by
  exact List.find?_append

/- A fix that changes nothing has no effect. -/
theorem FixEffect.unchanged
    (tree : FileTree)
    (id : String)
    (file : Path) :
    FixEffect tree tree [⟨id, file, .failed .unchanged⟩]
      [] [] where
  changes := .refl tree
  rewritten _ h := by cases h
  named result hResult backup hBackup := by
    cases List.mem_singleton.mp hResult
    cases hBackup
  saved := rfl

namespace Registry

/- The first fix of a run, and the others. -/
theorem applyFixes_cons
    {registry : Registry}
    {workspace last : Workspace}
    {finding : Finding}
    {findings : List Finding}
    {results : List FixResult}
    (h : registry.applyFixes workspace (finding :: findings) =
      (last, .ok results)) :
    ∃ after result rest,
      registry.applyFix workspace finding =
          .ok (after, result) ∧
        registry.applyFixes after findings =
          (last, .ok rest) ∧
        results = result :: rest := by
  unfold applyFixes at h
  split at h
  · cases h
  · next after result hFirst =>
      simp only at h
      rcases hRest : registry.applyFixes after findings with
        ⟨final, answer⟩
      rw [hRest] at h
      injection h with hLast hResults
      subst hLast
      rcases map_eq_ok_iff.mp hResults with
        ⟨rest, hAnswer, hEq⟩
      subst hAnswer
      exact ⟨after, result, rest, hFirst, hRest, hEq.symm⟩

/- Fixes one after another add and rewrite files only. -/
theorem changes_of_applyFixes
    {registry : Registry}
    {workspace after : Workspace}
    {findings : List Finding}
    {results : List FixResult}
    (h : registry.applyFixes workspace findings =
      (after, .ok results)) :
    ∃ changed added,
      workspace.tree.Changes after.tree changed added := by
  induction findings generalizing workspace results with
  | nil =>
      cases h
      exact ⟨[], [], .refl _⟩
  | cons finding rest ih =>
      rcases applyFixes_cons h with
        ⟨between, result, others, hFirst, hOthers, -⟩
      rcases changes_of_applyFix hFirst with
        ⟨changed, added, hChanges⟩
      rcases ih hOthers with ⟨rewritten, made, hRest⟩
      exact ⟨_, _, hChanges.trans hRest⟩

/- The fixes of one part of a run, and of the other. -/
theorem applyFixes_append
    {registry : Registry}
    {workspace last : Workspace}
    {front back : List Finding}
    {results : List FixResult}
    (h : registry.applyFixes workspace (front ++ back) =
      (last, .ok results)) :
    ∃ between early late,
      registry.applyFixes workspace front =
          (between, .ok early) ∧
        registry.applyFixes between back = (last, .ok late) ∧
        results = early ++ late := by
  induction front generalizing workspace results with
  | nil => exact ⟨workspace, [], results, rfl, h, rfl⟩
  | cons finding rest ih =>
      rcases applyFixes_cons h with
        ⟨after, result, others, hFirst, hOthers, hEq⟩
      rcases ih hOthers with
        ⟨between, early, late, hEarly, hLate, hSplit⟩
      subst hSplit
      refine ⟨between, result :: early, late, ?_, hLate, hEq⟩
      unfold applyFixes
      simp only [hFirst, hEarly]
      rfl

/- The results of a run carry the ids of the findings. -/
theorem ids_of_applyFixes
    {registry : Registry}
    {workspace last : Workspace}
    {findings : List Finding}
    {results : List FixResult}
    (h : registry.applyFixes workspace findings =
      (last, .ok results)) :
    results.map (·.findingId) = findings.map (·.id) := by
  induction findings generalizing workspace results with
  | nil =>
      cases h
      rfl
  | cons finding rest ih =>
      rcases applyFixes_cons h with
        ⟨after, result, others, hFirst, hOthers, hEq⟩
      subst hEq
      rw [List.map_cons, List.map_cons, ih hOthers]
      unfold applyFix at hFirst
      rcases map_eq_ok_iff.mp hFirst with ⟨outcome, _, hIs⟩
      cases hIs
      rfl

/-
  What the fixes of one file have come to, with its bytes
  before them and the text that its rules were given.
-/
structure BlockEffect
    (before after : FileTree)
    (file : Path)
    (location : Location)
    (bytes : List UInt8)
    (content : List Char)
    (rules : List Rule)
    (results : List FixResult)
    (changed added : List Location) : Prop where
  effect : FixEffect before after results changed added
  own : changed ⊆ [location]
  holds : ∃ last,
    after.Holds file location last
      (Rule.migratedBy rules content)
  answers :
    results.map (fun result => (result.file, result.success)) =
      (Rule.turns file rules content).map fun turn =>
        (turn.file, turn.changes)
  failures : ∀ result ∈ results, result.success = false →
    result.outcome = .failed .unchanged
  first : ∀ result,
    FixResult.firstFor file results = some result →
      ∃ backup copy, result.backup? = some backup ∧
        copy ∈ added ∧ after.locate backup = .ok copy ∧
        after.get? copy = some (.file bytes)

namespace BlockEffect

variable {file : Path} {location : Location}
variable {bytes : List UInt8} {content : List Char}
variable {rule : Rule} {rules : List Rule}
variable {results : List FixResult}
variable {changed added : List Location}

/- A rule that changes nothing comes first. -/
theorem after_unchanged
    {before after : FileTree}
    {id : String}
    (h : BlockEffect before after file location bytes content
      rules results changed added)
    (hSame : rule.migrated content = content) :
    BlockEffect before after file location bytes content
      (rule :: rules)
      (⟨id, file, .failed .unchanged⟩ :: results)
      changed added where
  effect := (FixEffect.unchanged before id file).trans h.effect
  own := h.own
  holds := by
    have hText :
        Rule.migratedBy (rule :: rules) content =
          Rule.migratedBy rules content :=
      congrArg (Rule.migratedBy rules) hSame
    rw [hText]
    exact h.holds
  answers := by
    rw [List.map_cons, h.answers, Rule.turns, hSame]
    simp [FixResult.success, Candidate.changes, hSame]
  failures result hResult hFailed := by
    rcases List.mem_cons.mp hResult with hHere | hLater
    · rw [hHere]
    · exact h.failures result hLater hFailed
  first result hFirst := by
    apply h.first result
    simpa [FixResult.firstFor, FixResult.success] using hFirst

/- A rule that changes the text comes first. -/
theorem after_rewritten
    {before : Workspace}
    {between : Workspace}
    {after : FileTree}
    {rewritten : List UInt8}
    {backup : Path}
    {copy : Location}
    {id old new : String}
    (h : BlockEffect between.tree after file location rewritten
      (rule.migrated content) rules results changed added)
    (hHolds : before.tree.Holds file location bytes content)
    (hNe : rule.migrated content ≠ content)
    (hRewrites : before.Rewrites between file location bytes
      (rule.migrated content) backup copy) :
    BlockEffect before.tree after file location bytes content
      (rule :: rules)
      (⟨id, file, .fixed backup old new⟩ :: results)
      (location :: changed) (copy :: added) where
  effect := (hRewrites.fixEffect hHolds id old new).trans
    h.effect
  own := List.cons_subset.mpr ⟨List.mem_cons_self, h.own⟩
  holds := h.holds
  answers := by
    rw [List.map_cons, h.answers, Rule.turns]
    simp [FixResult.success, Candidate.changes, hNe]
  failures result hResult hFailed := by
    rcases List.mem_cons.mp hResult with hHere | hLater
    · rw [hHere] at hFailed
      cases hFailed
    · exact h.failures result hLater hFailed
  first result hFirst := by
    simp only [FixResult.firstFor, FixResult.success,
      decide_true, Bool.and_self, List.find?_cons_of_pos,
      Option.some.injEq] at hFirst
    subst hFirst
    have hNew := hRewrites.changes.made copy
      (List.mem_singleton.mpr rfl)
    have hChanged : copy ∉ changed := by
      intro hMem
      have hOwn := List.mem_singleton.mp (h.own hMem)
      rw [hOwn, hHolds.entry] at hNew
      cases hNew.1
    have hAdded : copy ∉ added := by
      intro hMem
      have hNone := (h.effect.changes.made copy hMem).1
      rw [hRewrites.saved] at hNone
      cases hNone
    refine ⟨backup, copy, rfl, List.mem_cons_self, ?_, ?_⟩
    · exact FileTree.locate_of_sameDirectories
        h.effect.changes.sameDirectories
        (FileTree.locate_of_sameDirectories
          hRewrites.changes.sameDirectories hRewrites.place)
    · rw [h.effect.changes.kept copy hChanged hAdded,
        hRewrites.saved]

end BlockEffect

/-
  The fixes of one file, if the file system never objects: its
  rules change its text in turn.
-/
theorem block_of_applyFixes
    {registry : Registry}
    {file : Path}
    (hParts : file.parts ≠ [])
    {location : Location}
    {rules : List Rule}
    (hTotal : ∀ rule ∈ rules, rule.Total)
    (hGet : ∀ rule ∈ rules,
      registry.get? rule.id = some rule)
    {workspace last : Workspace}
    {bytes : List UInt8}
    {content : List Char}
    (hHolds : workspace.tree.Holds file location bytes content)
    {findings : List Finding}
    (hAuto : ∀ finding ∈ findings, finding.autoFixable = true)
    (hKeys : findings.map Finding.key =
      rules.map fun rule => (file, rule.id))
    {results : List FixResult}
    (hRun : registry.applyFixes workspace findings =
      (last, .ok results))
    (hCalm : ∀ result ∈ results,
      result.isSystemFault = false) :
    ∃ changed added,
      BlockEffect workspace.tree last.tree file location bytes
        content rules results changed added := by
  induction rules generalizing workspace bytes content findings
      results with
  | nil =>
      cases List.map_eq_nil_iff.mp hKeys
      cases hRun
      exact ⟨[], [],
        { effect := .refl _
          own := List.nil_subset _
          holds := ⟨bytes, hHolds⟩
          answers := rfl
          failures := by simp
          first := by simp [FixResult.firstFor] }⟩
  | cons rule rules ih =>
      cases findings with
      | nil => cases hKeys
      | cons finding rest =>
          injection hKeys with hKey hKeys
          injection hKey with hFile hId
          subst hFile
          rcases applyFixes_cons hRun with
            ⟨after, result, others, hFirst, hOthers, hEq⟩
          subst hEq
          have hRule := hGet rule List.mem_cons_self
          rw [← hId] at hRule
          rcases fixStep_of_applyFix
              (hAuto finding List.mem_cons_self) hRule hParts
              hHolds (Rule.transform_of_total
                (hTotal rule List.mem_cons_self) content) with
            ⟨next, outcome, hApply, hStep⟩
          rw [hFirst] at hApply
          cases hApply
          have hNext := fun {bytes' content'}
              (hThen : after.tree.Holds finding.file location
                bytes' content') =>
            ih
              (fun other hOther =>
                hTotal other (List.mem_cons_of_mem _ hOther))
              (fun other hOther =>
                hGet other (List.mem_cons_of_mem _ hOther))
              hThen
              (fun other hOther =>
                hAuto other (List.mem_cons_of_mem _ hOther))
              hKeys hOthers
              (fun other hOther =>
                hCalm other (List.mem_cons_of_mem _ hOther))
          cases hStep with
          | unchanged hSame hAfter =>
              subst hAfter
              rcases hNext hHolds with ⟨changed, added, hRest⟩
              exact ⟨changed, added, hRest.after_unchanged hSame⟩
          | refused _ _ hFault =>
              have hNone := hCalm _ List.mem_cons_self
              unfold FixResult.isSystemFault at hNone
              rw [hFault] at hNone
              cases hNone
          | rewritten hNe hRewrites =>
              rcases hNext hRewrites.holds with
                ⟨changed, added, hRest⟩
              exact ⟨_, _, hRest.after_rewritten hHolds hNe
                hRewrites⟩

end Registry

end GradleMigration
