import GradleMigration.Proofs.Backup.Undo

/-
  What searching for the backups of a file gives, whatever
  characters the name of the file holds: it is taken as a
  pattern first, and then each name that the pattern stands
  for is read.

  Main declarations:
    * `FileTree.HasEntry`
    * `FileTree.glob_cases`
    * `FileTree.IsBackup` and `Path.IsSought`
    * `FileTree.backups_search`
    * `FileTree.backups_mislead`
-/

------------------------------------------------------------
-- Searching a Folder
------------------------------------------------------------

namespace GradleMigration

namespace FileTree

/- A name is one of those in a folder. -/
def HasEntry
    (tree : FileTree)
    (folder : Path)
    (name : Name) : Prop :=
  ∃ place, tree.locate folder = .ok place ∧
    tree.get? place = some .directory ∧
    tree.get? (place ++ [name]) ≠ none

/- No name comes twice in a folder. -/
theorem nodup_namesIn
    (tree : FileTree)
    (place : Location) :
    (tree.namesIn place).Nodup := by
  rw [namesIn_eq]
  refine List.Nodup.filterMap ?_ tree.distinct
  intro a b name hA hB
  have hParts : ∀ location,
      name ∈ (if location.dropLast = place then
        location.getLast? else none) →
      location = place ++ [name] := by
    intro location hName
    split at hName
    · next hFront =>
        rcases List.getLast?_eq_some_iff.mp hName with
          ⟨front, rfl⟩
        rw [List.dropLast_concat] at hFront
        rw [hFront]
    · cases hName
  rw [hParts a hA, hParts b hB]

/-
  A search fails for two stars side by side or a path that is
  too long; otherwise it gives each name in the folder that
  the pattern stands for.
-/
theorem glob_cases
    (tree : FileTree)
    (folder : Path)
    (text : List Char) :
    (hasDoubleStar text = true ∧
        tree.glob folder text = .error .doubleStar) ∨
      (hasDoubleStar text = false ∧
        tree.find folder = .error .nameTooLong ∧
        tree.glob folder text =
          .error (.file (.system .nameTooLong folder))) ∨
      (hasDoubleStar text = false ∧
        tree.find folder ≠ .error .nameTooLong ∧
        ∃ names, tree.glob folder text = .ok names ∧
          names.Nodup ∧
          ∀ name, name ∈ names ↔
            tree.HasEntry folder name ∧
              (Glob.parse text).matchesName
                name.text.toList = true) := by
  unfold glob
  cases hStars : hasDoubleStar text with
  | true => exact Or.inl ⟨rfl, rfl⟩
  | false =>
      right
      cases hLook : tree.isDirectory folder with
      | error fault =>
          rcases isDirectory_eq_error_iff.mp hLook with
            ⟨hLong, rfl⟩
          exact Or.inl ⟨rfl, hLong, rfl⟩
      | ok isDirectory =>
          have hFits :
              tree.find folder ≠ .error .nameTooLong := by
            intro hLong
            rw [isDirectory_eq_error_iff.mpr ⟨hLong, rfl⟩]
              at hLook
            cases hLook
          refine Or.inr ⟨rfl, hFits, ?_⟩
          cases isDirectory with
          | false =>
              refine ⟨[], rfl, List.nodup_nil, fun name => ?_⟩
              refine iff_of_false List.not_mem_nil ?_
              rintro ⟨⟨place, hPlace, hFolder, _⟩, _⟩
              rw [isDirectory_eq_true_iff.mpr
                ⟨place, hPlace, hFolder⟩] at hLook
              cases hLook
          | true =>
              rcases isDirectory_eq_true_iff.mp hLook with
                ⟨place, hPlace, hFolder⟩
              simp only [hPlace, Bool.false_eq_true, if_false]
              refine ⟨_, rfl,
                (tree.nodup_namesIn place).filter _,
                fun name => ?_⟩
              rw [List.mem_filter, mem_namesIn_iff]
              apply and_congr_left
              intro _
              constructor
              · intro hEntry
                exact ⟨place, hPlace, hFolder, hEntry⟩
              · rintro ⟨other, hOther, _, hEntry⟩
                rw [hPlace] at hOther
                cases hOther
                exact hEntry

end FileTree

end GradleMigration

------------------------------------------------------------
-- The Backups of a File
------------------------------------------------------------

namespace GradleMigration

namespace Backup

/- Which backups are found among some names. -/
theorem mem_filterMap_found?
    {file : String}
    {names : List Name}
    {found : Found} :
    found ∈ names.filterMap (found? file) ↔
      found.name ∈ names ∧
        found? file found.name = some found := by
  rw [List.mem_filterMap]
  constructor
  · rintro ⟨name, hName, hSome⟩
    rcases found?_eq_some_iff.mp hSome with ⟨_, _, rfl⟩
    exact ⟨hName, hSome⟩
  · rintro ⟨hName, hSome⟩
    exact ⟨_, hName, hSome⟩

/- Among names that are all different no backup comes twice. -/
theorem nodup_filterMap_found?
    {file : String}
    {names : List Name}
    (h : names.Nodup) :
    (names.filterMap (found? file)).Nodup := by
  refine h.filterMap ?_
  intro a b found hA hB
  rcases found?_eq_some_iff.mp hA with ⟨_, _, rfl⟩
  rcases found?_eq_some_iff.mp hB with ⟨_, _, hEq⟩
  exact (Found.mk.inj hEq).2

end Backup

/-
  A path is sought among the backups of a file: the name of
  the file, the mark and a star stand for its name.
-/
def Path.IsSought
    (file backup : Path) : Prop :=
  (Glob.parse (file.name.toList ++ Backup.mark ++
    ['*'])).matchesName backup.name.toList = true

namespace FileTree

/-
  A path is a backup of a file: it leads to an entry in the
  folder of the file, and the name of that spells the name of
  the file and some digits.
-/
def IsBackup
    (tree : FileTree)
    (file backup : Path)
    (digits : List Char) : Prop :=
  ∃ name, tree.HasEntry file.parent name ∧
    Backup.Spells name.text.toList file.name.toList digits ∧
    backup = file.parent.below [name]

section

variable {tree : FileTree} {file backup : Path}

/- Without a bracket in its name all backups are sought. -/
theorem IsBackup.isSought
    {digits : List Char}
    (h : tree.IsBackup file backup digits)
    (hName : '[' ∉ file.name.toList) :
    file.IsSought backup := by
  rcases h with ⟨name, _, hSpells, rfl⟩
  rcases hSpells.starts with ⟨rest, hRest⟩
  have hMark : '[' ∉ Backup.mark := by decide
  unfold Path.IsSought
  rw [Path.name_below_one, hRest]
  apply Glob.matchesName_starred
  simp [hName, hMark]

/-
  What a search gives: each backup that is sought, once, and
  the newest first.
-/
structure Finds
    (tree : FileTree)
    (file : Path)
    (found : List Path) : Prop where
  once : found.Nodup
  newestFirst : found.Pairwise fun a b =>
    ∀ digits others, tree.IsBackup file a digits →
      tree.IsBackup file b others →
      Text.digitsValue others ≤ Text.digitsValue digits
  complete : ∀ backup, backup ∈ found ↔
    (∃ digits, tree.IsBackup file backup digits) ∧
      file.IsSought backup

/- The stamp that is found for a backup is its own. -/
theorem IsBackup.stamp_eq
    {digits : List Char}
    {found : Backup.Found}
    (h : tree.IsBackup file (file.parent.below [found.name])
      digits)
    (hFound : Backup.found? file.name found.name = some found) :
    found.stamp = Text.digitsValue digits := by
  rcases h with ⟨name, _, hSpells, hPath⟩
  rcases Backup.found?_eq_some_iff.mp hFound with
    ⟨others, hOthers, hEq⟩
  have hName := congrArg Path.name hPath
  rw [Path.name_below_one, Path.name_below_one] at hName
  rw [hName] at hOthers
  rw [hEq, (hSpells.unique hOthers).2]

/- What is found among the names in the folder is sorted. -/
theorem finds_of_names
    {names : List Name}
    (hOnce : names.Nodup)
    (hNames : ∀ name, name ∈ names ↔
      tree.HasEntry file.parent name ∧
        (Glob.parse (file.name.toList ++ Backup.mark ++
          ['*'])).matchesName name.text.toList = true) :
    tree.Finds file
      (((names.filterMap (Backup.found? file.name)).mergeSort
        Backup.Found.before).map fun found =>
          file.parent.below [found.name]) := by
  let all := names.filterMap (Backup.found? file.name)
  have hAll : ∀ found,
      found ∈ all.mergeSort Backup.Found.before ↔
        found.name ∈ names ∧
          Backup.found? file.name found.name = some found := by
    intro found
    rw [List.mem_mergeSort]
    exact Backup.mem_filterMap_found?
  refine
    { once := ?_
      newestFirst := ?_
      complete := ?_ }
  · refine List.Nodup.map_on ?_
      ((List.mergeSort_perm _ _).nodup_iff.mpr
        (Backup.nodup_filterMap_found? hOnce))
    intro a hA b hB hPath
    have hName := congrArg Path.name hPath
    rw [Path.name_below_one, Path.name_below_one] at hName
    have hSame := ((hAll a).mp hA).2
    rw [Name.text_injective hName, ((hAll b).mp hB).2] at hSame
    exact (Option.some.inj hSame).symm
  · rw [List.pairwise_map]
    have hSorted : (all.mergeSort
        Backup.Found.before).Pairwise
          fun a b => a.before b = true :=
      List.pairwise_mergeSort Backup.Found.before_trans
        Backup.Found.before_total all
    refine hSorted.imp_of_mem ?_
    intro a b hA hB hBefore digits others hDigits hOthers
    rw [← hDigits.stamp_eq ((hAll a).mp hA).2,
      ← hOthers.stamp_eq ((hAll b).mp hB).2]
    rcases Backup.Found.before_iff.mp hBefore with
      hLess | ⟨hEq, _⟩
    · exact Nat.le_of_lt hLess
    · exact Nat.le_of_eq hEq.symm
  · intro backup
    rw [List.mem_map]
    constructor
    · rintro ⟨found, hFound, rfl⟩
      rcases (hAll found).mp hFound with ⟨hName, hSome⟩
      rcases (hNames found.name).mp hName with
        ⟨hEntry, hMatch⟩
      rcases Backup.found?_eq_some_iff.mp hSome with
        ⟨digits, hSpells, _⟩
      refine ⟨⟨digits, _, hEntry, hSpells, rfl⟩, ?_⟩
      unfold Path.IsSought
      rw [Path.name_below_one]
      exact hMatch
    · rintro ⟨⟨digits, name, hEntry, hSpells, rfl⟩, hSought⟩
      unfold Path.IsSought at hSought
      rw [Path.name_below_one] at hSought
      refine ⟨⟨Text.digitsValue digits, name⟩,
        (hAll _).mpr ⟨?_, ?_⟩, rfl⟩
      · exact (hNames name).mpr ⟨hEntry, hSought⟩
      · exact Backup.found?_eq_some_iff.mpr
          ⟨digits, hSpells, rfl⟩

/-
  A search for backups fails for two stars side by side in the
  name of the file or a folder whose path is too long, and
  otherwise finds.
-/
theorem backups_cases
    (tree : FileTree)
    (file : Path) :
    (hasDoubleStar file.name.toList = true ∧
        tree.backups file = .error .doubleStar) ∨
      (hasDoubleStar file.name.toList = false ∧
        tree.find file.parent = .error .nameTooLong ∧
        tree.backups file =
          .error (.file (.system .nameTooLong file.parent))) ∨
      (hasDoubleStar file.name.toList = false ∧
        tree.find file.parent ≠ .error .nameTooLong ∧
        ∃ found, tree.backups file = .ok found ∧
          tree.Finds file found) := by
  have hGlob := tree.glob_cases file.parent
    (file.name.toList ++ Backup.mark ++ ['*'])
  rw [Glob.hasDoubleStar_marked] at hGlob
  unfold backups
  rcases hGlob with ⟨hStars, hNone⟩ |
      ⟨hStars, hLong, hNone⟩ |
      ⟨hStars, hFits, names, hGlob, hOnce, hNames⟩
  · refine Or.inl ⟨hStars, ?_⟩
    simp only [hNone]
  · refine Or.inr (Or.inl ⟨hStars, hLong, ?_⟩)
    simp only [hNone]
  · refine Or.inr (Or.inr ⟨hStars, hFits, _, ?_,
      finds_of_names hOnce hNames⟩)
    simp only [hGlob]

/-
  A backup that was made is one of its file in every tree in
  which it is still there.
-/
theorem isBackup_of_snapshot
    {backed later : FileTree}
    {time : Int}
    {entry : Entry}
    (hTime : 0 ≤ time)
    (hLine : '\n' ∉ file.name.toList)
    (hSnapshot : tree.snapshot file time = .ok (backed, backup))
    (hThere : later.find backup = .ok entry) :
    ∃ digits, later.IsBackup file backup digits := by
  have hParts := parts_ne_nil_of_snapshot hSnapshot
  have hRead : ∃ bytes, tree.read file = .ok bytes := by
    rcases tree.snapshot_cases hParts time with
      ⟨_, _, _, bytes, _, hMade⟩ | ⟨fault, hFault⟩
    · exact ⟨bytes, hMade.source⟩
    · rw [hFault] at hSnapshot
      cases hSnapshot
  rcases hRead with ⟨bytes, hRead⟩
  rcases Path.exists_below hParts with ⟨folder, name, rfl⟩
  rw [Path.name_below_one] at hLine
  rcases fileIn_of_read hRead with ⟨place, hFile⟩
  rcases stamp_of_snapshot hFile.inFolder hRead hSnapshot with
    ⟨stamp, hLate, _, _, _, rfl, _⟩
  rcases Int.eq_ofNat_of_zero_le (Int.le_trans hTime hLate) with
    ⟨number, rfl⟩
  refine ⟨Nat.toDigits 10 number, Backup.nameAt name number,
    ?_, ?_, ?_⟩
  · rcases find_eq_ok_iff.mp hThere with
      ⟨location, hLocate, hEntry⟩
    rcases inFolder_of_locate hLocate with ⟨here, hHere⟩
    rw [Path.parent_below]
    refine ⟨here, hHere.locate_eq hLocate, hHere.directory, ?_⟩
    rw [hHere.locate_sibling (Backup.nameAt_isUp name number)]
      at hLocate
    rw [← of_siblingPlace hLocate, hEntry]
    exact Option.some_ne_none entry
  · rw [Path.name_below_one]
    exact Backup.spells_nameFor name.valid.1 hLine number
  · rw [Path.parent_below]

end

/-
  What a search for the backups of a file gives.  Whatever is
  found is a backup of the file, comes once, and comes before
  older ones.  All are found, the backups that were made among
  them, if the file's name holds no bracket; with brackets only
  those whose names it stands for as a pattern.  Nothing is
  found for a name with two stars side by side or in a folder
  whose path is too long.
-/
theorem backups_search
    (tree : FileTree)
    (file : Path) :
    (∀ found, tree.backups file = .ok found →
        tree.Finds file found) ∧
      ('[' ∉ file.name.toList →
        (∀ found, tree.backups file = .ok found →
          ∀ backup, backup ∈ found ↔
            ∃ digits, tree.IsBackup file backup digits) ∧
        ('\n' ∉ file.name.toList →
          hasDoubleStar file.name.toList = false →
          ∀ time backed backup, 0 ≤ time →
            tree.snapshot file time = .ok (backed, backup) →
            ∀ later : FileTree,
              (∃ entry, later.find backup = .ok entry) →
              ∃ found, later.backups file = .ok found ∧
                backup ∈ found)) ∧
      ∀ fault, tree.backups file = .error fault ↔
        hasDoubleStar file.name.toList = true ∧
            fault = .doubleStar ∨
          hasDoubleStar file.name.toList = false ∧
            tree.find file.parent = .error .nameTooLong ∧
            fault =
              .file (.system .nameTooLong file.parent) := by
  have hFinds : ∀ tree : FileTree, ∀ found,
      tree.backups file = .ok found →
        tree.Finds file found := by
    intro tree found hFound
    rcases tree.backups_cases file with
      ⟨_, hNone⟩ | ⟨_, _, hNone⟩ | ⟨_, _, other, hOther, hFinds⟩
    · rw [hNone] at hFound
      cases hFound
    · rw [hNone] at hFound
      cases hFound
    · rw [hOther] at hFound
      cases hFound
      exact hFinds
  refine ⟨hFinds tree, fun hName => ⟨?_, ?_⟩, fun fault => ?_⟩
  · intro found hFound backup
    rw [(hFinds tree found hFound).complete, and_iff_left_iff_imp]
    rintro ⟨digits, hBackup⟩
    exact hBackup.isSought hName
  · intro hLine hStars time backed backup hTime hSnapshot later
    rintro ⟨entry, hThere⟩
    rcases isBackup_of_snapshot hTime hLine hSnapshot hThere with
      ⟨digits, hBackup⟩
    rcases later.backups_cases file with
      ⟨hOther, _⟩ | ⟨_, hLong, _⟩ |
        ⟨_, _, found, hFound, hSearch⟩
    · rw [hStars] at hOther
      cases hOther
    · rcases hBackup with
        ⟨_, ⟨place, hPlace, hFolder, _⟩, _⟩
      rw [find_eq_ok_iff.mpr ⟨place, hPlace, hFolder⟩] at hLong
      cases hLong
    · exact ⟨found, hFound, (hSearch.complete backup).mpr
        ⟨⟨digits, hBackup⟩, hBackup.isSought hName⟩⟩
  · rcases tree.backups_cases file with
      ⟨hStars, hNone⟩ | ⟨hStars, hLong, hNone⟩ |
        ⟨hStars, hFits, found, hFound, _⟩
    · simp [hNone, hStars, eq_comm]
    · simp [hNone, hStars, hLong, eq_comm]
    · simp [hFound, hStars, hFits]

/- A folder with three files, one with a line feed in it. -/
def searchedFolder : FileTree :=
  let folder := Workspace.singleProject
  (((empty ⟨.slash, []⟩).set [folder] .directory).set
      [folder, ⟨"a[1]", by decide⟩] (.file [97])).set
      [folder, ⟨"a.backup.7\n", by decide⟩] (.file [98])

/-
  A backup that has just been made is not found if the name of
  its file holds brackets, and a name that does not end with a
  digit is taken for that of a backup; for a name with two
  stars the search fails.
-/
theorem backups_mislead :
    (∃ backed backup,
      searchedFolder.snapshot (.parse "/p/a[1]") 7 =
          .ok (backed, backup) ∧
        backed.isFile backup = .ok true ∧
        backed.backups (.parse "/p/a[1]") = .ok []) ∧
      searchedFolder.backups (.parse "/p/a") =
        .ok [.parse "/p/a.backup.7\n"] ∧
      searchedFolder.backups (.parse "/p/a**") =
        .error .doubleStar := by
  refine ⟨?_, ?_, ?_⟩
  · have hMade :
        (searchedFolder.snapshot (.parse "/p/a[1]") 7).toOption.map
          (fun made => ((made.1.isFile made.2).toOption,
            (made.1.backups (.parse "/p/a[1]")).toOption)) =
          some (some true, some []) := by
      decide +kernel
    rcases Option.map_eq_some_iff.mp hMade with
      ⟨⟨backed, backup⟩, hSnapshot, hPair⟩
    rcases Prod.mk.inj hPair with ⟨hFile, hNone⟩
    exact ⟨backed, backup, toOption_eq_some_iff.mp hSnapshot,
      toOption_eq_some_iff.mp hFile,
      toOption_eq_some_iff.mp hNone⟩
  · have hFound :
        (searchedFolder.backups (.parse "/p/a")).toOption =
          some [.parse "/p/a.backup.7\n"] := by
      decide +kernel
    exact toOption_eq_some_iff.mp hFound
  · have hStars :
        hasDoubleStar (Path.parse "/p/a**").name.toList =
          true := by
      decide +kernel
    rcases searchedFolder.backups_cases (.parse "/p/a**") with
      ⟨_, hNone⟩ | ⟨hOther, _⟩ | ⟨hOther, _⟩
    · exact hNone
    · rw [hStars] at hOther
      cases hOther
    · rw [hStars] at hOther
      cases hOther

end FileTree

end GradleMigration
