import GradleMigration.Fix.Pool
import GradleMigration.Proofs.Fix.Block
import GradleMigration.Proofs.Fix.Local
import GradleMigration.Proofs.Fix.Steady
import Mathlib.Data.List.Perm.Basic

/-
  Several workers come to what one worker comes to: whatever
  the order in which they act, the results and the tree are
  those of fixing the findings one after another.

  Main declarations:
    * `Finding.grouped_groups`
    * `Scanner.apart_of_scan`
    * `Registry.applyFixes_front`
    * `FixPool.Pending` and `FixPool.Pending.fix`
    * `FixPool.OnTrack`
    * `FixPool.onTrack_act` and `FixPool.onTrack_run`
    * `FixPool.run_eq_applyBatch`
-/

------------------------------------------------------------
-- The Groups of Findings
------------------------------------------------------------

namespace GradleMigration

namespace Finding

/- The positions in groups. -/
def Groups.indices
    (groups : Groups) : List Nat :=
  (groups.map Prod.snd).flatten

/- The file of the finding at a position. -/
def fileAt
    (findings : List Finding)
    (index : Nat) : Option Path :=
  findings[index]?.map fun finding => finding.file

/-
  Groups of findings: one for each file, each with its
  positions in order, and every position in one of them.
-/
structure Grouped
    (findings : List Finding)
    (groups : Groups) : Prop where
  distinct : (groups.map Prod.fst).Nodup
  growing : ∀ group ∈ groups, group.2.Pairwise (· < ·)
  own : ∀ group ∈ groups, ∀ index ∈ group.2,
    fileAt findings index = some group.1
  whole : groups.indices.Perm (List.range findings.length)

/- Files get into the groups by and by. -/
theorem mem_keys_addToGroup
    {file other : Path}
    {index : Nat}
    {groups : Groups} :
    other ∈ (addToGroup file index groups).map Prod.fst ↔
      other = file ∨ other ∈ groups.map Prod.fst := by
  induction groups with
  | nil => simp [addToGroup]
  | cons group rest ih =>
      rcases group with ⟨key, indices⟩
      by_cases hKey : key = file
      · simp [addToGroup, hKey]
      · rw [addToGroup, if_neg hKey, List.map_cons,
          List.mem_cons, ih, List.map_cons, List.mem_cons]
        exact or_left_comm

theorem nodup_addToGroup
    {file : Path}
    {index : Nat}
    {groups : Groups}
    (h : (groups.map Prod.fst).Nodup) :
    ((addToGroup file index groups).map Prod.fst).Nodup := by
  induction groups with
  | nil => simp [addToGroup]
  | cons group rest ih =>
      rcases group with ⟨key, indices⟩
      rcases List.nodup_cons.mp h with ⟨hFresh, hRest⟩
      by_cases hKey : key = file
      · rw [addToGroup, if_pos hKey]
        exact h
      · rw [addToGroup, if_neg hKey, List.map_cons,
          List.nodup_cons]
        refine ⟨?_, ih hRest⟩
        intro hMem
        rcases mem_keys_addToGroup.mp hMem with hEq | hOld
        · exact hKey hEq
        · exact hFresh hOld

/- A group is an old one, or has got the new position. -/
theorem mem_addToGroup
    {file : Path}
    {index : Nat}
    {groups : Groups}
    {group : Path × List Nat}
    (h : group ∈ addToGroup file index groups) :
    group ∈ groups ∨ group = (file, [index]) ∨
      ∃ indices, (file, indices) ∈ groups ∧
        group = (file, indices ++ [index]) := by
  induction groups with
  | nil =>
      rw [addToGroup, List.mem_singleton] at h
      exact Or.inr (Or.inl h)
  | cons first rest ih =>
      rcases first with ⟨key, indices⟩
      by_cases hKey : key = file
      · rw [addToGroup, if_pos hKey, List.mem_cons] at h
        subst hKey
        rcases h with hHere | hRest
        · exact Or.inr (Or.inr
            ⟨indices, List.mem_cons_self, hHere⟩)
        · exact Or.inl (List.mem_cons_of_mem _ hRest)
      · rw [addToGroup, if_neg hKey, List.mem_cons] at h
        rcases h with hHere | hRest
        · exact Or.inl (hHere ▸ List.mem_cons_self)
        · rcases ih hRest with hOld | hNew | ⟨old, hOld, hEq⟩
          · exact Or.inl (List.mem_cons_of_mem _ hOld)
          · exact Or.inr (Or.inl hNew)
          · exact Or.inr (Or.inr
              ⟨old, List.mem_cons_of_mem _ hOld, hEq⟩)

/- One position more. -/
theorem indices_addToGroup
    (file : Path)
    (index : Nat)
    (groups : Groups) :
    (addToGroup file index groups).indices.Perm
      (groups.indices ++ [index]) := by
  induction groups with
  | nil => exact List.Perm.refl _
  | cons group rest ih =>
      rcases group with ⟨key, indices⟩
      by_cases hKey : key = file
      · rw [addToGroup, if_pos hKey]
        change ((indices ++ [index]) ++ Groups.indices rest).Perm
          ((indices ++ Groups.indices rest) ++ [index])
        rw [List.append_assoc, List.append_assoc]
        exact List.Perm.append_left _ List.perm_append_comm
      · rw [addToGroup, if_neg hKey]
        change (indices ++ Groups.indices
          (addToGroup file index rest)).Perm
            ((indices ++ Groups.indices rest) ++ [index])
        rw [List.append_assoc]
        exact List.Perm.append_left _ ih

/- Positions keep their files when findings are added. -/
theorem fileAt_append
    {findings more : List Finding}
    {index : Nat}
    {file : Path}
    (h : fileAt findings index = some file) :
    fileAt (findings ++ more) index = some file := by
  unfold fileAt at h ⊢
  rcases Option.map_eq_some_iff.mp h with ⟨finding, hFinding, _⟩
  have hLess := (List.getElem?_eq_some_iff.mp hFinding).1
  rw [List.getElem?_append_left hLess]
  exact h

theorem lt_of_fileAt
    {findings : List Finding}
    {index : Nat}
    {file : Path}
    (h : fileAt findings index = some file) :
    index < findings.length := by
  unfold fileAt at h
  rcases Option.map_eq_some_iff.mp h with ⟨finding, hFinding, _⟩
  exact (List.getElem?_eq_some_iff.mp hFinding).1

/- The position of one more finding goes into its group. -/
theorem Grouped.concat
    {findings : List Finding}
    {groups : Groups}
    (h : Grouped findings groups)
    (finding : Finding) :
    Grouped (findings ++ [finding])
      (addToGroup finding.file findings.length groups) where
  distinct := nodup_addToGroup h.distinct
  growing group hGroup := by
    rcases mem_addToGroup hGroup with
      hOld | hNew | ⟨indices, hOld, hEq⟩
    · exact h.growing group hOld
    · rw [hNew]
      exact List.pairwise_singleton _ _
    · rw [hEq, List.pairwise_append]
      refine ⟨h.growing _ hOld, List.pairwise_singleton _ _, ?_⟩
      intro index hIndex last hLast
      rw [List.mem_singleton.mp hLast]
      exact lt_of_fileAt (h.own _ hOld index hIndex)
  own group hGroup index hIndex := by
    have hLast : fileAt (findings ++ [finding])
        findings.length = some finding.file := by
      simp [fileAt]
    rcases mem_addToGroup hGroup with
      hOld | hNew | ⟨indices, hOld, hEq⟩
    · exact fileAt_append (h.own group hOld index hIndex)
    · rw [hNew] at hIndex ⊢
      rw [List.mem_singleton.mp hIndex]
      exact hLast
    · rw [hEq] at hIndex ⊢
      rcases List.mem_append.mp hIndex with hFront | hBack
      · exact fileAt_append (h.own _ hOld index hFront)
      · rw [List.mem_singleton.mp hBack]
        exact hLast
  whole := by
    rw [List.length_append, List.length_singleton,
      List.range_succ]
    exact (indices_addToGroup _ _ groups).trans
      (h.whole.append_right _)

theorem grouped_groupsFrom
    {front : List Finding}
    {groups : Groups}
    (h : Grouped front groups)
    (findings : List Finding) :
    Grouped (front ++ findings)
      (groupsFrom front.length groups findings) := by
  induction findings generalizing front groups with
  | nil =>
      rw [List.append_nil]
      exact h
  | cons finding rest ih =>
      have hNext := ih (h.concat finding)
      rw [List.length_append, List.append_assoc] at hNext
      exact hNext

theorem grouped_nil :
    Grouped [] [] := by
  constructor
  · exact List.nodup_nil
  · intro group hGroup
    cases hGroup
  · intro group hGroup
    cases hGroup
  · exact List.Perm.refl _

/- The groups of a list of findings. -/
theorem grouped_groups
    (findings : List Finding) :
    Grouped findings (groups findings) :=
  grouped_groupsFrom grouped_nil findings

end Finding

end GradleMigration

------------------------------------------------------------
-- Findings of Different Files
------------------------------------------------------------

namespace GradleMigration

namespace Scanner

/-
  The script of a finding lies below the root, on a way that
  never goes up, and has the name of a script.
-/
structure ScriptOf
    (root : Path)
    (finding : Finding)
    (front : List Name)
    (file : Name) : Prop where
  path : finding.file = (root.below front).below [file]
  down : ∀ name ∈ front, name.isUp = false
  notUp : file.isUp = false
  named : Project.isScriptName file.text = true

theorem script_of_scan
    {scanner : Scanner}
    {tree : FileTree}
    {root : Path}
    {idName : Nat → String}
    {next : Nat}
    {report : Report}
    (hTree : tree.Regular)
    (h : scanner.scan tree root idName next = .ok report)
    {finding : Finding}
    (hFinding : finding ∈ report.findings) :
    ∃ front file, ScriptOf root finding front file := by
  rcases of_scan h with ⟨hRoot, files, harvest, hFiles, _, _⟩
  rcases FileTree.isDirectory_eq_true_iff.mp hRoot with
    ⟨place, hPlace, hDirectory⟩
  have hListing := listing_of_scripts hPlace hDirectory hFiles
  rcases origin_of_scan h hFinding with
    ⟨others, content, rule, hit, hOthers, hOrigin⟩
  rw [hFiles] at hOthers
  cases hOthers
  rcases (hListing.mem _).mp hOrigin.isFile with
    ⟨names, bytes, hNames, hPath, hEntry, hScan⟩
  have hDown : ∀ name ∈ names, name.isUp = false := by
    intro name hName
    exact hTree _ (FileTree.mem_locations_of_get? hEntry) name
      (List.mem_append_right _ hName)
  have hSplit := List.dropLast_append_getLast hNames
  refine ⟨names.dropLast, names.getLast hNames, ?_, ?_, ?_, ?_⟩
  · rw [hPath]
    nth_rewrite 1 [← hSplit]
    simp [Path.below]
  · intro name hName
    exact hDown name
      ((List.dropLast_sublist names).subset hName)
  · exact hDown _ (List.getLast_mem hNames)
  · unfold Project.isScannable at hScan
    rw [Bool.and_eq_true, hPath,
      Path.name_below root (List.getLast?_eq_some_getLast hNames)]
      at hScan
    exact hScan.1

end Scanner

namespace Scanner.ScriptOf

variable {root : Path} {finding : Finding}
variable {front : List Name} {file : Name}

theorem lies
    (h : ScriptOf root finding front file) :
    finding.Lies (root.below front) file where
  path := h.path
  notUp := h.notUp

/- Where the script or a backup of it can be. -/
theorem of_reaches
    (h : ScriptOf root finding front file)
    {tree : FileTree}
    {folder : Path}
    {name : Name}
    {location : Location}
    (hLies : finding.Lies folder name)
    (hReach : tree.Reaches folder name location) :
    ∃ base, tree.walk [] (tree.directory.join root).parts =
        .ok base ∧
      ∃ last, location = base ++ front ++ [last] ∧
        (last = file ∨
          ∃ stamp, last = Backup.nameAt file stamp) := by
  rcases Path.below_one_injective
      (hLies.path.symm.trans h.path) with
    ⟨hFolder, hName⟩
  subst hFolder hName
  rcases hReach with ⟨place, hPlace, hLocation⟩
  have hWalk := hPlace.walk_eq
  rw [FileTree.parts_join_below, FileTree.walk_append] at hWalk
  split at hWalk
  · cases hWalk
  · next base hBase =>
      have hDown := FileTree.walk_down h.down hWalk
      subst hDown
      refine ⟨base, hBase, ?_⟩
      rcases hLocation with hFile | ⟨stamp, hBackup⟩
      · exact ⟨_, hFile, Or.inl rfl⟩
      · exact ⟨_, hBackup, Or.inr ⟨stamp, rfl⟩⟩

end Scanner.ScriptOf

namespace Scanner

/- Scripts of different findings lie apart. -/
theorem apart_of_script
    {root : Path}
    {a b : Finding}
    {frontA frontB : List Name}
    {fileA fileB : Name}
    (hA : ScriptOf root a frontA fileA)
    (hB : ScriptOf root b frontB fileB)
    (hNe : a.file ≠ b.file)
    (tree : FileTree) :
    tree.Apart a b := by
  refine ⟨⟨_, _, hA.lies⟩, ⟨_, _, hB.lies⟩, ?_⟩
  intro folderA nameA folderB nameB location hLiesA hLiesB
    hReachA hReachB
  rcases hA.of_reaches hLiesA hReachA with
    ⟨base, hBase, lastA, hEqA, hLastA⟩
  rcases hB.of_reaches hLiesB hReachB with
    ⟨other, hOther, lastB, hEqB, hLastB⟩
  rw [hBase] at hOther
  cases hOther
  rw [hEqA] at hEqB
  rcases List.append_inj' hEqB rfl with
    ⟨hFronts, hLasts⟩
  have hFront := List.append_cancel_left hFronts
  have hLast := List.singleton_inj.mp hLasts
  have hNever : ∀ name file stamp,
      Project.isScriptName name.text = true →
        name ≠ Backup.nameAt file stamp := by
    intro name file stamp hScript hEq
    rw [hEq] at hScript
    change Project.isScriptName
      (Backup.nameFor file.text stamp) = true at hScript
    rw [Backup.not_isScriptName_nameFor] at hScript
    cases hScript
  have hFile : fileA = fileB := by
    rcases hLastA with hA' | ⟨stampA, hA'⟩
    · rcases hLastB with hB' | ⟨stampB, hB'⟩
      · rw [← hA', ← hB', hLast]
      · exact absurd ((hA'.symm.trans hLast).trans hB')
          (hNever _ _ _ hA.named)
    · rcases hLastB with hB' | ⟨stampB, hB'⟩
      · exact absurd ((hB'.symm.trans hLast.symm).trans hA')
          (hNever _ _ _ hB.named)
      · exact (Backup.nameAt_injective
          ((hA'.symm.trans hLast).trans hB')).1
  apply hNe
  rw [hA.path, hB.path, hFront, hFile]

end Scanner

end GradleMigration

------------------------------------------------------------
-- Fixing a Later Finding First
------------------------------------------------------------

namespace GradleMigration

namespace Registry

section

variable {registry : Registry}
variable {workspace other last after : Workspace}
variable {finding : Finding} {findings : List Finding}
variable {result : FixResult} {results : List FixResult}

/- A fix in front of a run. -/
theorem applyFixes_of_cons
    (hFirst : registry.applyFix workspace finding =
      .ok (after, result))
    (hRest : registry.applyFixes after findings =
      (last, .ok results)) :
    registry.applyFixes workspace (finding :: findings) =
      (last, .ok (result :: results)) := by
  unfold applyFixes
  simp only [hFirst, hRest]
  rfl

/- In workspaces that look the same a run does the same. -/
theorem applyFixes_like
    (hLies : ∀ finding ∈ findings,
      ∃ folder file, finding.Lies folder file)
    (hLike : workspace.Like other)
    (h : registry.applyFixes workspace findings =
      (last, .ok results)) :
    ∃ final, registry.applyFixes other findings =
        (final, .ok results) ∧ last.Like final := by
  induction findings generalizing workspace other results with
  | nil =>
      cases h
      exact ⟨other, rfl, hLike⟩
  | cons finding rest ih =>
      rcases applyFixes_cons h with
        ⟨after, result, more, hFirst, hRest, hResults⟩
      rcases hLies finding List.mem_cons_self with
        ⟨folder, file, hHere⟩
      rcases applyFix_like hHere hLike hFirst with
        ⟨between, hBetween, hLikeToo⟩
      rcases ih
          (fun later hLater =>
            hLies later (List.mem_cons_of_mem _ hLater))
          hLikeToo hRest with
        ⟨final, hFinal, hSame⟩
      refine ⟨final, ?_, hSame⟩
      rw [hResults]
      exact applyFixes_of_cons hBetween hFinal

/-
  A finding can be fixed before others whose files lie apart:
  it has the same result, and so have they.
-/
theorem applyFixes_front
    {front back : List Finding}
    (hApart : ∀ earlier ∈ front,
      ∀ tree : FileTree, tree.Apart earlier finding)
    (hLies : ∀ later ∈ back,
      ∃ folder file, later.Lies folder file)
    (h : registry.applyFixes workspace
      (front ++ finding :: back) = (last, .ok results)) :
    ∃ after final result early late,
      registry.applyFix workspace finding =
          .ok (after, result) ∧
        registry.applyFixes after (front ++ back) =
          (final, .ok (early ++ late)) ∧
        results = early ++ result :: late ∧
        early.length = front.length ∧
        last.Like final := by
  induction front generalizing workspace results with
  | nil =>
      rcases applyFixes_cons h with
        ⟨after, result, late, hFirst, hRest, hResults⟩
      exact ⟨after, last, result, [], late, hFirst, hRest,
        hResults, rfl, .refl last⟩
  | cons first front ih =>
      rcases applyFixes_cons h with
        ⟨between, early, rest, hFirst, hRest, hResults⟩
      have hHere := hApart first List.mem_cons_self
      have hFront : ∀ earlier ∈ front,
          ∀ tree : FileTree, tree.Apart earlier finding := by
        intro earlier hEarlier
        exact hApart earlier (List.mem_cons_of_mem _ hEarlier)
      rcases ih hFront hRest with
        ⟨after, final, result, before, late, hFix, hOthers,
          hSplit, hLength, hLike⟩
      -- The finding passes the first one as well.
      rcases applyFix_swap (hHere workspace.tree) hFirst hFix with
        ⟨swapped, moved, hSwapped, hMoved, hLikeMoved⟩
      have hAll : ∀ other ∈ front ++ back,
          ∃ folder file, other.Lies folder file := by
        intro other hOther
        rcases List.mem_append.mp hOther with hEarly | hLate
        · exact (hFront other hEarly workspace.tree).left
        · exact hLies other hLate
      rcases applyFixes_like hAll hLikeMoved hOthers with
        ⟨settled, hEnd, hLikeEnd⟩
      refine ⟨swapped, settled, result, early :: before, late,
        hSwapped, applyFixes_of_cons hMoved hEnd, ?_, ?_,
        hLike.trans hLikeEnd⟩
      · rw [hResults, hSplit]
        rfl
      · rw [List.length_cons, List.length_cons, hLength]

end

end Registry

end GradleMigration

------------------------------------------------------------
-- What Is Left to Do
------------------------------------------------------------

namespace GradleMigration

namespace FixPool

/- Two groups of positions have no file in common. -/
def GroupsApart
    (findings : List Finding)
    (a b : List Nat) : Prop :=
  ∀ i ∈ a, ∀ j ∈ b,
    Finding.fileAt findings i ≠ Finding.fileAt findings j

/-
  What is left of the groups is what is left to do: the groups
  are in order, no two of them have a file in common, and
  together they are the positions in a list.
-/
structure Pending
    (findings : List Finding)
    (groups : List (List Nat))
    (todo : List Nat) : Prop where
  growing : todo.Pairwise (· < ·)
  whole : groups.flatten.Perm todo
  sorted : ∀ group ∈ groups, group.Pairwise (· < ·)
  apart : groups.Pairwise (GroupsApart findings)

namespace Pending

variable {findings : List Finding}
variable {groups others : List (List Nat)}
variable {group todo : List Nat} {index : Nat}

/- The order of the groups does not matter. -/
theorem perm
    (h : Pending findings groups todo)
    (hPerm : groups.Perm others) :
    Pending findings others todo where
  growing := h.growing
  whole := hPerm.symm.flatten.trans h.whole
  sorted group hGroup :=
    h.sorted group (hPerm.mem_iff.mpr hGroup)
  apart := by
    refine (hPerm.pairwise_iff ?_).mp h.apart
    intro a b hApart i hI j hJ
    exact Ne.symm (hApart j hJ i hI)

/- A group that is done can be left out. -/
theorem leave
    (h : Pending findings ([] :: groups) todo) :
    Pending findings groups todo where
  growing := h.growing
  whole := h.whole
  sorted group hGroup :=
    h.sorted group (List.mem_cons_of_mem _ hGroup)
  apart := (List.pairwise_cons.mp h.apart).2

/-
  The first position of a group comes before all others with
  the same file.
-/
theorem fix
    (h : Pending findings ((index :: group) :: groups) todo) :
    ∃ front back, todo = front ++ index :: back ∧
      (∀ earlier ∈ front, Finding.fileAt findings earlier ≠
        Finding.fileAt findings index) ∧
      Pending findings (group :: groups) (front ++ back) := by
  have hMem : index ∈ todo :=
    h.whole.mem_iff.mp (by simp)
  rcases List.append_of_mem hMem with ⟨front, back, hTodo⟩
  have hGrowing := h.growing
  rw [hTodo, List.pairwise_append] at hGrowing
  have hSorted := List.pairwise_cons.mp
    (h.sorted _ List.mem_cons_self)
  rcases List.pairwise_cons.mp h.apart with ⟨hApart, hRest⟩
  refine ⟨front, back, hTodo, ?_, ?_⟩
  · intro earlier hEarlier hSame
    have hLess := hGrowing.2.2 earlier hEarlier index
      List.mem_cons_self
    -- Where else could an earlier position with this file be?
    have hIn : earlier ∈
        ((index :: group) :: groups).flatten := by
      rw [h.whole.mem_iff, hTodo]
      exact List.mem_append_left _ hEarlier
    rw [List.flatten_cons, List.mem_append] at hIn
    rcases hIn with hHere | hElse
    · rcases List.mem_cons.mp hHere with hEq | hLater
      · omega
      · have hMore := hSorted.1 earlier hLater
        omega
    · rcases List.mem_flatten.mp hElse with
        ⟨other, hOther, hEarlierIn⟩
      exact hApart other hOther index List.mem_cons_self
        earlier hEarlierIn hSame.symm
  · constructor
    · rw [List.pairwise_append]
      refine ⟨hGrowing.1,
        (List.pairwise_cons.mp hGrowing.2.1).2, ?_⟩
      intro a hA b hB
      exact hGrowing.2.2 a hA b (List.mem_cons_of_mem _ hB)
    · have hPerm := h.whole
      rw [hTodo] at hPerm
      exact (hPerm.trans List.perm_middle).cons_inv
    · intro other hOther
      rcases List.mem_cons.mp hOther with hHere | hElse
      · rw [hHere]
        exact hSorted.2
      · exact h.sorted other (List.mem_cons_of_mem _ hElse)
    · rw [List.pairwise_cons]
      refine ⟨?_, hRest⟩
      intro other hOther i hI
      exact hApart other hOther i (List.mem_cons_of_mem _ hI)

end Pending

/- At the start everything is left to do. -/
theorem pending_start
    (findings : List Finding) :
    Pending findings
      ((Finding.groups findings).map Prod.snd)
      (List.range findings.length) := by
  have h := Finding.grouped_groups findings
  constructor
  · exact List.pairwise_lt_range
  · exact h.whole
  · intro indices hIndices
    rcases List.mem_map.mp hIndices with ⟨group, hGroup, hEq⟩
    rw [← hEq]
    exact h.growing group hGroup
  · have hDistinct := h.distinct
    unfold List.Nodup at hDistinct
    rw [List.pairwise_map] at hDistinct ⊢
    refine hDistinct.imp_of_mem ?_
    intro a b hA hB hNe i hI j hJ hSame
    rw [h.own a hA i hI, h.own b hB j hJ] at hSame
    exact hNe (Option.some.inj hSame)

end FixPool

end GradleMigration

------------------------------------------------------------
-- Runs of a Pool
------------------------------------------------------------

namespace GradleMigration

/- The elements at all positions of a list. -/
theorem map_getElem?_range
    {α : Type}
    (all : List α) :
    (List.range all.length).map (fun index => all[index]?) =
      all.map some := by
  apply List.ext_getElem
  · simp
  · intro index hLeft hRight
    simp at hLeft
    simp [hLeft]

namespace FixPool

/- The findings at some positions. -/
def picked
    (findings : List Finding)
    (todo : List Nat) : List Finding :=
  todo.filterMap fun index => findings[index]?

/- Every position picks its finding. -/
theorem picked_range
    (findings : List Finding) :
    picked findings (List.range findings.length) = findings := by
  have hAll := congrArg (List.filterMap id)
    (map_getElem?_range findings)
  rw [List.filterMap_map, List.filterMap_map] at hAll
  unfold picked
  simpa using hAll

theorem picked_append
    (findings : List Finding)
    (front back : List Nat) :
    picked findings (front ++ back) =
      picked findings front ++ picked findings back :=
  List.filterMap_append

theorem picked_cons
    {findings : List Finding}
    {index : Nat}
    (h : index < findings.length)
    (rest : List Nat) :
    picked findings (index :: rest) =
      findings[index] :: picked findings rest := by
  unfold picked
  rw [List.filterMap_cons, List.getElem?_eq_getElem h]

/- A picked finding stands at one of the positions. -/
theorem exists_of_mem_picked
    {findings : List Finding}
    {todo : List Nat}
    {finding : Finding}
    (h : finding ∈ picked findings todo) :
    ∃ index ∈ todo, findings[index]? = some finding :=
  List.mem_filterMap.mp h

/- Positions within the list pick one finding each. -/
theorem length_picked
    {findings : List Finding}
    {todo : List Nat}
    (h : ∀ index ∈ todo, index < findings.length) :
    (picked findings todo).length = todo.length := by
  induction todo with
  | nil => rfl
  | cons index rest ih =>
      rw [List.forall_mem_cons] at h
      rw [picked_cons h.1, List.length_cons, ih h.2,
        List.length_cons]

/-
  The files of findings are in folders, and different files
  have no place in common.
-/
structure Separate
    (findings : List Finding) : Prop where
  lies : ∀ finding ∈ findings,
    ∃ folder file, finding.Lies folder file
  apart : ∀ a ∈ findings, ∀ b ∈ findings,
    a.file ≠ b.file → ∀ tree : FileTree, tree.Apart a b

/-
  A pool is on its way to the end of a run of fixes: what has
  been done has the results of that run, and doing the rest in
  order would come to the others and to its last workspace.
-/
structure OnTrack
    (registry : Registry)
    (findings : List Finding)
    (last : Workspace)
    (all : List FixResult)
    (pool : FixPool)
    (todo : List Nat) : Prop where
  pending : Pending findings (pool.waiting ++ pool.running) todo
  within : ∀ index ∈ todo, index < findings.length
  size : pool.results.length = findings.length
  done : ∀ index, index ∉ todo →
    pool.results[index]? = all[index]?.map some
  rest : ∃ final results,
    registry.applyFixes pool.workspace (picked findings todo) =
        (final, .ok results) ∧
      results.map some = todo.map (fun index => all[index]?) ∧
      last.Like final

section

variable {registry : Registry} {findings : List Finding}
variable {last : Workspace} {all : List FixResult}
variable {workers : Nat} {pool next : FixPool}
variable {todo : List Nat}

/- The pool starts on track. -/
theorem onTrack_start
    {workspace : Workspace}
    (h : registry.applyFixes workspace findings =
      (last, .ok all)) :
    OnTrack registry findings last all
      (start workspace findings)
      (List.range findings.length) := by
  have hLength : all.length = findings.length := by
    have hIds := congrArg List.length
      (Registry.ids_of_applyFixes h)
    rwa [List.length_map, List.length_map] at hIds
  constructor
  · have hPending := pending_start findings
    rw [← List.append_nil
      ((Finding.groups findings).map Prod.snd)] at hPending
    exact hPending
  · intro index hIndex
    exact List.mem_range.mp hIndex
  · exact List.length_replicate
  · intro index hIndex
    rw [List.mem_range, Nat.not_lt] at hIndex
    have hNone : all[index]? = none :=
      List.getElem?_eq_none (hLength ▸ hIndex)
    rw [hNone]
    apply List.getElem?_eq_none
    simpa [start] using hIndex
  · refine ⟨last, all, ?_, ?_, .refl last⟩
    · rw [picked_range]
      exact h
    · rw [← hLength, map_getElem?_range]

/- Taking a group stays on track. -/
theorem OnTrack.take
    (h : OnTrack registry findings last all pool todo)
    {group : List Nat}
    {waiting : List (List Nat)}
    (hWaiting : pool.waiting = group :: waiting) :
    OnTrack registry findings last all
      { pool with
        waiting := waiting
        running := pool.running ++ [group] } todo where
  pending := by
    apply h.pending.perm
    rw [hWaiting, List.cons_append, ← List.append_assoc]
    exact (List.perm_append_singleton group _).symm
  within := h.within
  size := h.size
  done := h.done
  rest := h.rest

/- A group among those that are waiting or running. -/
theorem perm_running
    {worker : Nat}
    {group : List Nat}
    (h : pool.running[worker]? = some group) :
    (pool.waiting ++ pool.running).Perm
      (group :: (pool.waiting ++
        pool.running.eraseIdx worker)) := by
  rcases List.getElem?_eq_some_iff.mp h with ⟨hLess, hGroup⟩
  have hPerm := List.getElem_cons_eraseIdx_perm hLess
  rw [hGroup] at hPerm
  exact (hPerm.symm.append_left _).trans List.perm_middle

/- Leaving a group that is done stays on track. -/
theorem OnTrack.leave
    (h : OnTrack registry findings last all pool todo)
    {worker : Nat}
    (hGroup : pool.running[worker]? = some []) :
    OnTrack registry findings last all
      { pool with
        running := pool.running.eraseIdx worker } todo where
  pending := (h.pending.perm (perm_running hGroup)).leave
  within := h.within
  size := h.size
  done := h.done
  rest := h.rest

/-
  What one fix among others gives stands at its position; the
  results of the others stand at theirs.
-/
theorem split_results
    {early late : List FixResult}
    {result : FixResult}
    {front back : List Nat}
    {index : Nat}
    (h : (early ++ result :: late).map some =
      (front ++ index :: back).map
        (fun other => all[other]?))
    (hLength : early.length = front.length) :
    all[index]? = some result ∧
      (early ++ late).map some =
        (front ++ back).map (fun other => all[other]?) := by
  rw [List.map_append, List.map_append, List.map_cons,
    List.map_cons] at h
  rcases List.append_inj h
      (by rw [List.length_map, List.length_map, hLength]) with
    ⟨hEarly, hTail⟩
  injection hTail with hHere hLate
  exact ⟨hHere.symm, by
    rw [List.map_append, List.map_append, hEarly, hLate]⟩

/- The result of a fix is put where it belongs. -/
theorem OnTrack.done_set
    {front back : List Nat}
    {index : Nat}
    (h : OnTrack registry findings last all pool
      (front ++ index :: back))
    {result : FixResult}
    (hResult : all[index]? = some result)
    {other : Nat}
    (hOther : other ∉ front ++ back) :
    (pool.results.set index (some result))[other]? =
      all[other]?.map some := by
  by_cases hEq : index = other
  · subst hEq
    have hLess := h.within index (by simp)
    rw [List.getElem?_set_self (h.size.symm ▸ hLess), hResult]
    rfl
  · rw [List.getElem?_set_ne hEq]
    apply h.done
    intro hIn
    rcases List.mem_append.mp hIn with hFirst | hLast
    · exact hOther (List.mem_append_left _ hFirst)
    · rcases List.mem_cons.mp hLast with hSame | hLater
      · exact hEq hSame.symm
      · exact hOther (List.mem_append_right _ hLater)

/- Fixing the next finding of a group stays on track. -/
theorem OnTrack.fix
    (hSeparate : Separate findings)
    (h : OnTrack registry findings last all pool todo)
    {worker index : Nat}
    {group : List Nat}
    (hGroup : pool.running[worker]? = some (index :: group)) :
    ∃ finding after result left,
      findings[index]? = some finding ∧
        registry.applyFix pool.workspace finding =
          .ok (after, result) ∧
        OnTrack registry findings last all
          { pool with
            workspace := after
            running := pool.running.set worker group
            results := pool.results.set index (some result) }
          left := by
  rcases (h.pending.perm (perm_running hGroup)).fix with
    ⟨front, back, hTodo, hFront, hPending⟩
  subst hTodo
  have hLess : index < findings.length :=
    h.within index (by simp)
  have hFinding := List.getElem?_eq_getElem hLess
  have hWithin : ∀ other ∈ front ++ back,
      other < findings.length := by
    intro other hOther
    apply h.within
    rcases List.mem_append.mp hOther with hEarly | hLate
    · exact List.mem_append_left _ hEarly
    · exact List.mem_append_right _
        (List.mem_cons_of_mem _ hLate)
  have hApart : ∀ earlier ∈ picked findings front,
      ∀ tree : FileTree,
        tree.Apart earlier findings[index] := by
    intro earlier hEarlier
    rcases exists_of_mem_picked hEarlier with
      ⟨other, hOther, hSome⟩
    apply hSeparate.apart earlier
      (List.mem_of_getElem? hSome) _
      (List.mem_of_getElem? hFinding)
    intro hSame
    apply hFront other hOther
    simp only [Finding.fileAt, hSome, hFinding,
      Option.map_some, hSame]
  have hLies : ∀ later ∈ picked findings back,
      ∃ folder file, later.Lies folder file := by
    intro later hLater
    rcases exists_of_mem_picked hLater with ⟨other, _, hSome⟩
    exact hSeparate.lies later (List.mem_of_getElem? hSome)
  rcases h.rest with ⟨final, results, hRun, hResults, hLike⟩
  rw [picked_append, picked_cons hLess] at hRun
  rcases Registry.applyFixes_front hApart hLies hRun with
    ⟨after, settled, result, early, late, hFix, hRest, hSplit,
      hLength, hSettled⟩
  rw [length_picked fun other hOther =>
    hWithin other (List.mem_append_left _ hOther)] at hLength
  rw [hSplit] at hResults
  rcases split_results hResults hLength with
    ⟨hResult, hOthers⟩
  refine ⟨findings[index], after, result, front ++ back,
    hFinding, hFix, ?_, hWithin, ?_, ?_, ?_⟩
  · rcases List.getElem?_eq_some_iff.mp hGroup with
      ⟨hWorker, _⟩
    apply hPending.perm
    exact (((List.set_perm_cons_eraseIdx hWorker
      group).append_left _).trans List.perm_middle).symm
  · simp only [List.length_set]
    exact h.size
  · intro other hOther
    exact h.done_set hResult hOther
  · refine ⟨settled, early ++ late, ?_, hOthers,
      hLike.trans hSettled⟩
    rw [picked_append]
    exact hRest

/- Whatever is done, the pool stays on track. -/
theorem onTrack_act
    (hSeparate : Separate findings)
    (h : OnTrack registry findings last all pool todo)
    {action : PoolAction}
    (hAct : pool.act registry findings workers action =
      some next) :
    ∃ left, OnTrack registry findings last all next left := by
  unfold act at hAct
  cases action with
  | take =>
      simp only at hAct
      split at hAct
      · cases hAct
      · next group waiting hWaiting =>
          split at hAct
          · cases hAct
            exact ⟨todo, h.take hWaiting⟩
          · cases hAct
  | fix worker =>
      simp only at hAct
      split at hAct
      · next index group hGroup =>
          rcases h.fix hSeparate hGroup with
            ⟨finding, after, result, left, hFinding, hFix,
              hTrack⟩
          simp only [hFinding, hFix] at hAct
          cases hAct
          exact ⟨left, hTrack⟩
      · cases hAct
  | leave worker =>
      simp only at hAct
      split at hAct
      · next hGroup =>
          cases hAct
          exact ⟨todo, h.leave hGroup⟩
      · cases hAct

/- A run of a pool stays on track. -/
theorem onTrack_run
    (hSeparate : Separate findings)
    {actions : List PoolAction}
    (h : OnTrack registry findings last all pool todo)
    (hRun : pool.run registry findings workers actions =
      some next) :
    ∃ left, OnTrack registry findings last all next left := by
  induction actions generalizing pool todo with
  | nil =>
      cases hRun
      exact ⟨todo, h⟩
  | cons action actions ih =>
      unfold run at hRun
      split at hRun
      · cases hRun
      · next between hAct =>
          rcases onTrack_act hSeparate h hAct with ⟨left, hLeft⟩
          exact ih hLeft hRun

/- A pool that is not done can do something. -/
theorem OnTrack.exists_act
    (hSeparate : Separate findings)
    (hWorkers : 0 < workers)
    (h : OnTrack registry findings last all pool todo)
    (hNot : pool.isDone = false) :
    ∃ action after,
      pool.act registry findings workers action =
        some after := by
  cases hRunning : pool.running with
  | nil =>
      cases hWaiting : pool.waiting with
      | nil => simp [isDone, hRunning, hWaiting] at hNot
      | cons group waiting =>
          have hRoom : pool.running.length < workers := by
            rw [hRunning]
            exact hWorkers
          refine ⟨.take, { pool with
            waiting := waiting
            running := pool.running ++ [group] }, ?_⟩
          unfold act
          simp only [hWaiting, if_pos hRoom]
  | cons group running =>
      have hFirst : pool.running[0]? = some group := by
        rw [hRunning]
        rfl
      cases group with
      | nil =>
          refine ⟨.leave 0, { pool with
            running := pool.running.eraseIdx 0 }, ?_⟩
          unfold act
          simp only [hFirst]
      | cons index group =>
          rcases h.fix hSeparate hFirst with
            ⟨finding, after, result, _, hFinding, hFix, _⟩
          refine ⟨.fix 0, { pool with
            workspace := after
            running := pool.running.set 0 group
            results := pool.results.set index
              (some result) }, ?_⟩
          unfold act
          simp only [hFirst, hFinding, hFix]

/- How much there is left to do. -/
def cost
    (pool : FixPool) : Nat :=
  2 * pool.waiting.length + pool.running.length +
    (pool.waiting ++ pool.running).flatten.length

/- Whatever is done, there is less left to do. -/
theorem cost_act
    {action : PoolAction}
    (h : pool.act registry findings workers action =
      some next) :
    next.cost < pool.cost := by
  unfold act at h
  unfold cost
  cases action with
  | take =>
      simp only at h
      split at h
      · cases h
      · next group waiting hWaiting =>
          split at h
          · cases h
            simp only [hWaiting, List.flatten_append,
              List.flatten_cons, List.flatten_nil,
              List.length_append, List.length_cons,
              List.length_nil]
            omega
          · cases h
  | fix worker =>
      simp only at h
      split at h
      · next index group hGroup =>
          split at h
          · cases h
          · split at h
            · cases h
            · cases h
              rcases List.getElem?_eq_some_iff.mp hGroup with
                ⟨hWorker, _⟩
              have hOld :=
                (perm_running hGroup).flatten.length_eq
              have hNew :=
                (((List.set_perm_cons_eraseIdx hWorker
                  group).append_left pool.waiting).trans
                    List.perm_middle).flatten.length_eq
              rw [List.flatten_cons, List.length_append]
                at hOld hNew
              rw [List.length_cons] at hOld
              simp only [List.length_set]
              omega
      · cases h
  | leave worker =>
      simp only at h
      split at h
      · next hGroup =>
          cases h
          rcases List.getElem?_eq_some_iff.mp hGroup with
            ⟨hWorker, _⟩
          have hOld := (perm_running hGroup).flatten.length_eq
          rw [List.flatten_cons, List.nil_append] at hOld
          simp only [List.length_eraseIdx, hWorker, if_true]
          omega
      · cases h

/- From every pool on track all can be done. -/
theorem OnTrack.exists_run
    (hSeparate : Separate findings)
    (hWorkers : 0 < workers)
    (h : OnTrack registry findings last all pool todo) :
    ∃ actions final,
      pool.run registry findings workers actions =
          some final ∧
        final.isDone = true := by
  -- The induction is on how much there is left to do.
  induction hCost : pool.cost using Nat.strongRecOn
    generalizing pool todo with
  | ind amount ih =>
      by_cases hDone : pool.isDone = true
      · exact ⟨[], pool, rfl, hDone⟩
      · rcases h.exists_act hSeparate hWorkers
            (Bool.eq_false_iff.mpr hDone) with
          ⟨action, after, hAct⟩
        have hLess : after.cost < amount :=
          hCost ▸ cost_act hAct
        rcases onTrack_act hSeparate h hAct with ⟨left, hLeft⟩
        rcases ih after.cost hLess hLeft rfl with
          ⟨actions, final, hRun, hFinal⟩
        refine ⟨action :: actions, final, ?_, hFinal⟩
        rw [run, hAct]
        exact hRun

/- A pool that is done has come to the results of the run. -/
theorem OnTrack.of_isDone
    (h : OnTrack registry findings last all pool todo)
    (hDone : pool.isDone = true) :
    pool.results = all.map some ∧
      last.tree.Same pool.workspace.tree := by
  unfold isDone at hDone
  rw [Bool.and_eq_true, List.isEmpty_iff,
    List.isEmpty_iff] at hDone
  have hTodo : todo = [] := by
    have hWhole := h.pending.whole
    rw [hDone.1, hDone.2] at hWhole
    exact hWhole.nil_eq.symm
  subst hTodo
  constructor
  · apply List.ext_getElem?
    intro index
    rw [h.done index List.not_mem_nil, List.getElem?_map]
  · rcases h.rest with ⟨final, results, hRun, _, hLike⟩
    cases hRun
    exact hLike.tree

end

end FixPool

end GradleMigration

------------------------------------------------------------
-- Several Workers
------------------------------------------------------------

namespace GradleMigration

/- Findings of one scan have separate files. -/
theorem FixPool.separate_of_scan
    {scanner : Scanner}
    {tree : FileTree}
    {root : Path}
    {idName : Nat → String}
    {next : Nat}
    {report : Report}
    (hTree : tree.Regular)
    (h : scanner.scan tree root idName next = .ok report)
    {findings : List Finding}
    (hFindings : findings ⊆ report.findings) :
    FixPool.Separate findings where
  lies finding hFinding := by
    rcases Scanner.script_of_scan hTree h
        (hFindings hFinding) with
      ⟨front, file, hScript⟩
    exact ⟨_, _, hScript.lies⟩
  apart a hA b hB hNe := by
    rcases Scanner.script_of_scan hTree h (hFindings hA) with
      ⟨frontA, fileA, hScriptA⟩
    rcases Scanner.script_of_scan hTree h (hFindings hB) with
      ⟨frontB, fileB, hScriptB⟩
    exact Scanner.apart_of_script hScriptA hScriptB hNe

namespace Registry

/- Findings within the limits are fixed without a stop. -/
theorem applyFixes_of_fitsFrom
    {registry : Registry}
    {findings : List Finding}
    {workspace : Workspace}
    (hLies : ∀ finding ∈ findings,
      ∃ folder file, finding.Lies folder file)
    (hClean : ∀ finding ∈ findings,
      finding.file.hasNull = false)
    (hFits : ∀ finding ∈ findings,
      finding.file.FitsFrom workspace.tree.directory)
    (hRule : ∀ finding ∈ findings, ∀ content, ∃ text,
      registry.migrate finding content = .ok text) :
    ∃ last results,
      registry.applyFixes workspace findings =
        (last, .ok results) := by
  induction findings generalizing workspace with
  | nil => exact ⟨workspace, [], rfl⟩
  | cons finding rest ih =>
      have hHere := List.mem_cons_self (a := finding) (l := rest)
      have hThere : ∀ other ∈ rest, other ∈ finding :: rest :=
        fun _ hOther => List.mem_cons_of_mem _ hOther
      rcases applyFix_of_isFile (hClean finding hHere)
          (FileTree.isFile_of_fitsFrom (hFits finding hHere))
          (fun content _ => hRule finding hHere content) with
        ⟨after, result, hFirst⟩
      rcases hLies finding hHere with ⟨folder, file, hLie⟩
      have hStart :=
        (sameDirectories_of_applyFix hLie hFirst).start
      rcases ih
          (fun other hOther => hLies other (hThere other hOther))
          (fun other hOther => hClean other (hThere other hOther))
          (fun other hOther =>
            hStart ▸ hFits other (hThere other hOther))
          (fun other hOther => hRule other (hThere other hOther))
          with
        ⟨last, results, hRest⟩
      exact ⟨last, result :: results,
        applyFixes_of_cons hFirst hRest⟩

end Registry

namespace FixPool

/-
  Several workers come to what one worker comes to.  Findings
  of one scan are fixed at one time: however the workers act
  in turn, they can go on until all is done, and then the
  results are those of fixing one finding after another, and
  the tree looks the same.  With the rules of the scan, fixing
  one finding after another always has a result.
-/
theorem run_eq_applyBatch
    {scanner : Scanner}
    {registry : Registry}
    {tree : FileTree}
    {root : Path}
    {idName : Nat → String}
    {next : Nat}
    {report : Report}
    {findings : List Finding}
    {workspace : Workspace}
    {workers : Nat}
    (hTree : tree.Regular)
    (hScan : scanner.scan tree root idName next = .ok report)
    (hFindings : findings ⊆ report.findings)
    (hWorkers : 1 < workers) :
    (∀ last batch,
      registry.applyBatch workspace findings =
          (last, .ok batch) →
        ∀ actions pool,
          (start workspace findings).run registry findings
              workers actions = some pool →
            (∃ more final,
              pool.run registry findings workers more =
                  some final ∧
                final.isDone = true) ∧
            (pool.isDone = true →
              pool.results = batch.results.map some ∧
                last.tree.Same pool.workspace.tree)) ∧
    ((∃ source entries,
        Registry.ofEntries source entries = .ok registry) →
      scanner.rules ⊆ registry.rules →
      workspace.tree.directory = tree.directory →
      ∃ last batch,
        registry.applyBatch workspace findings =
          (last, .ok batch)) := by
  have hSeparate := separate_of_scan hTree hScan hFindings
  constructor
  · intro last batch hBatch actions pool hRun
    unfold Registry.applyBatch at hBatch
    rcases hFixes : registry.applyFixes workspace findings with
      ⟨final, outcome⟩
    rw [hFixes] at hBatch
    injection hBatch with hLast hResults
    rcases map_eq_ok_iff.mp hResults with ⟨all, hAll, hEq⟩
    subst hLast hAll hEq
    rcases onTrack_run hSeparate (onTrack_start hFixes) hRun with
      ⟨todo, hTrack⟩
    exact ⟨hTrack.exists_run hSeparate (Nat.lt_of_succ_lt
      hWorkers), hTrack.of_isDone⟩
  · rintro ⟨source, entries, hLoaded⟩ hRules hDirectory
    have hDistinct := Registry.distinctIds_of_ofEntries hLoaded
    have hClean : ∀ finding ∈ findings,
        finding.file.hasNull = false := by
      intro finding hFinding
      rcases Scanner.locate_of_scan hScan
          (hFindings hFinding) with
        ⟨location, hPlace⟩
      exact (FileTree.locate_eq_ok_iff.mp hPlace).1
    have hFits : ∀ finding ∈ findings,
        finding.file.FitsFrom workspace.tree.directory := by
      intro finding hFinding
      rcases Scanner.locate_of_scan hScan
          (hFindings hFinding) with
        ⟨location, hPlace⟩
      rw [hDirectory]
      exact FileTree.fitsFrom_of_locate hPlace
    rcases Registry.applyFixes_of_fitsFrom hSeparate.lies
        hClean hFits
        (fun finding hFinding => Scanner.migrate_of_scan
          hDistinct hRules hScan (hFindings hFinding)) with
      ⟨last, results, hFixes⟩
    refine ⟨last, ⟨results⟩, ?_⟩
    unfold Registry.applyBatch
    rw [hFixes]
    rfl

/- A project with two scripts that one rule fixes. -/
def twoScripts : FileTree where
  directory := ⟨.slash, []⟩
  entries :=
    [([Workspace.singleProject], .directory),
     ([Workspace.singleProject, ⟨"a.gradle", by decide⟩],
      .file (Utf8.encode
        "x = sourceSets.main.output.classesDir".toList)),
     ([Workspace.singleProject, Workspace.singleScript],
      .file (Utf8.encode
        "y = sourceSets.main.output.classesDir".toList))]
  distinct := by
    simp [Entries.locations, Workspace.singleScript]

def twoScriptsWorkspace : Workspace where
  tree := twoScripts
  time := 7
  copyFault := none
  writeFault := none
  idName n := "finding-" ++ toString n
  nextId := 0

/- Two workers, of whom the second is faster. -/
def twoWorkers : List PoolAction :=
  [.take, .take, .fix 1, .leave 1, .fix 0, .leave 0]

/- The paths of the two scripts. -/
def twoPaths : List Path :=
  [.parse "/p/a.gradle", .parse "/p/build.gradle"]

/- The scan of the two scripts, file by file. -/
theorem scan_twoScripts
    {rule : Rule}
    {harvest : Harvest}
    (h : (Scanner.mk [rule] []).scanFiles twoScripts
      (.parse "/p") twoPaths = .ok harvest) :
    ∃ report,
      (Scanner.mk [rule] []).scan twoScripts (.parse "/p")
        twoScriptsWorkspace.idName 0 = .ok report ∧
      report.findings = Scanner.number
        twoScriptsWorkspace.idName 0 harvest.occurrences := by
  have hDirectory :
      twoScripts.isDirectory (.parse "/p") = .ok true := by
    decide +kernel
  have hProject :
      twoScripts.isProject (.parse "/p") = .ok true := by
    decide +kernel
  have hModules :
      twoScripts.modules (.parse "/p") = .ok [] := by
    decide +kernel
  have hVersion : ∃ version,
      twoScripts.version (.parse "/p") = .ok version := by
    exact ⟨_, rfl⟩
  have hPlace : twoScripts.locate (.parse "/p") =
      .ok [⟨"p", by decide⟩] := by
    decide +kernel
  have hPaths :
      ((twoScripts.entriesBelow [⟨"p", by decide⟩]).filter
        fun entry => entry.2.isFile).map
          (fun entry => (Path.parse "/p").below entry.1) =
        twoPaths := by
    decide +kernel
  have hFolders :
      (twoScripts.entriesBelow [⟨"p", by decide⟩]).filter
        (fun entry => !entry.2.isFile) = [] := by
    decide +kernel
  have hSorted : twoPaths.Pairwise
      fun a b => a.le b = true := by
    decide +kernel
  have hShort : twoPaths.find? Path.isTooLong = none := by
    decide +kernel
  have hScripts : (Scanner.mk [rule] []).scripts twoScripts
      (.parse "/p") = .ok twoPaths := by
    unfold Scanner.scripts FileTree.filesBelow
      Entries.pathsFrom
    simp only [hDirectory, hPlace, hFolders, hPaths,
      List.mergeSort_of_pairwise hSorted, List.map_nil,
      List.mergeSort_nil, List.nil_append, hShort]
    rfl
  rcases hVersion with ⟨version, hVersion⟩
  unfold Scanner.scan Scanner.survey
  simp only [hDirectory, hProject, hModules, hVersion,
    hScripts, h]
  exact ⟨_, rfl, rfl⟩

/- Whether both ways of fixing the scripts come to an end. -/
def fixesTwoScripts
    (entry : RuleEntry) : Bool :=
  match entry.build with
  | .error _ => false
  | .ok rule =>
      match (Scanner.mk [rule] []).scanFiles twoScripts
          (.parse "/p") twoPaths with
      | .error _ => false
      | .ok harvest =>
          let findings := Scanner.number
            twoScriptsWorkspace.idName 0 harvest.occurrences
          match ((Registry.mk [rule]).applyBatch
              twoScriptsWorkspace findings).2 with
          | .error _ => false
          | .ok batch =>
              match (start twoScriptsWorkspace findings).run
                  ⟨[rule]⟩ findings 2 twoWorkers with
              | none => false
              | some pool =>
                  batch.successes == 2 && pool.isDone

/- What the check of an entry says. -/
theorem of_fixesTwoScripts
    {entry : RuleEntry}
    (h : fixesTwoScripts entry = true) :
    ∃ rule report batch pool,
      entry.build = .ok rule ∧
      (Scanner.mk [rule] []).scan twoScripts (.parse "/p")
        twoScriptsWorkspace.idName 0 = .ok report ∧
      ((Registry.mk [rule]).applyBatch twoScriptsWorkspace
        report.findings).2 = .ok batch ∧
      (start twoScriptsWorkspace report.findings).run ⟨[rule]⟩
        report.findings 2 twoWorkers = some pool ∧
      batch.successes = 2 ∧ pool.isDone = true := by
  unfold fixesTwoScripts at h
  split at h
  · cases h
  · next rule hRule =>
      split at h
      · cases h
      · next harvest hHarvest =>
          rcases scan_twoScripts hHarvest with
            ⟨report, hReport, hFindings⟩
          simp only [← hFindings] at h
          split at h
          · cases h
          · next batch hBatch =>
              split at h
              · cases h
              · next pool hPool =>
                  rw [Bool.and_eq_true, beq_iff_eq] at h
                  exact ⟨rule, report, batch, pool, hRule,
                    hReport, hBatch, hPool, h⟩

/- Two workers fix two scripts as one worker does. -/
theorem run_eq_applyBatch_twoScripts :
    ∃ rule report last batch pool,
      Builtin.sourcesetOutput.build = .ok rule ∧
      (Scanner.mk [rule] []).scan twoScripts (.parse "/p")
        twoScriptsWorkspace.idName 0 = .ok report ∧
      (Registry.mk [rule]).applyBatch twoScriptsWorkspace
        report.findings = (last, .ok batch) ∧
      batch.successes = 2 ∧
      (start twoScriptsWorkspace report.findings).run ⟨[rule]⟩
        report.findings 2 twoWorkers = some pool ∧
      pool.results = batch.results.map some ∧
      last.tree.Same pool.workspace.tree := by
  have hCheck :
      fixesTwoScripts Builtin.sourcesetOutput = true := by
    rw [fixesTwoScripts, RuleEntry.build_eq_decoded]
    decide +kernel
  rcases of_fixesTwoScripts hCheck with
    ⟨rule, report, batch, pool, hRule, hReport, hBatch, hPool,
      hTwo, hDone⟩
  have hRun :
      (Registry.mk [rule]).applyBatch twoScriptsWorkspace
        report.findings = (_, .ok batch) :=
    Prod.ext rfl hBatch
  have hBoth := (run_eq_applyBatch
    (show twoScripts.Regular by decide +kernel)
    hReport (List.Subset.refl _)
    (Nat.lt_succ_self 1)).1 _ _ hRun _ _ hPool
  have hSame := hBoth.2 hDone
  exact ⟨rule, report, _, batch, pool, hRule, hReport, hRun,
    hTwo, hPool, hSame.1, hSame.2⟩

end FixPool

end GradleMigration
