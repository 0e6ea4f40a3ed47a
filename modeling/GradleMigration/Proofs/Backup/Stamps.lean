import GradleMigration.Proofs.Backup.Names
import GradleMigration.Proofs.Backup.Snapshot
import GradleMigration.Proofs.Scan.Listing
import GradleMigration.Proofs.Text.Digits
import Mathlib.Data.List.Nodup

/-
  The stamps of backups: names of backups are told apart by
  the file and the stamp, and a new backup gets the first
  stamp from the time on whose name is free.

  Main declarations:
    * `Backup.nameFor_injective`
    * `Backup.decode_nameFor`
    * `Backup.nameAt`
    * `FileTree.InFolder` and `FileTree.locate_sibling`
    * `FileTree.tryStamp`
    * `FileTree.snapshot_eq_tryStamp`
-/

------------------------------------------------------------
-- Names and Stamps
------------------------------------------------------------

namespace GradleMigration

namespace Backup

/- What stands in front of the digits ends with no digit. -/
theorem getLast?_front
    (name : List Char)
    (stamp : Int) :
    (name ++ mark ++ Text.intSign stamp).getLast? =
      some (if stamp < 0 then '-' else '.') := by
  unfold Text.intSign
  split
  · rw [List.getLast?_concat]
  · rw [List.append_nil, getLast?_marked]

/- The digits of a stamp are those at the end of the name. -/
theorem stampDigits_nameFor
    (name : String)
    (stamp : Int) :
    stampDigits (nameFor name stamp).toList =
      Nat.toDigits 10 stamp.natAbs := by
  have hSign :
      Text.isDigit (if stamp < 0 then '-' else '.') = false := by
    split
    · decide
    · decide
  rw [toList_nameFor, Text.toList_int, ← List.append_assoc]
  apply stampDigits_append (getLast?_front name.toList stamp)
    hSign
  intro c hC
  exact Text.isDigit_of_ascii (Text.isDigit_of_mem_digits hC)

/- A name of a backup tells the file and the stamp. -/
theorem nameFor_injective
    {a b : String}
    {s t : Int}
    (h : nameFor a s = nameFor b t) :
    a = b ∧ s = t := by
  have hDigits :
      Nat.toDigits 10 s.natAbs = Nat.toDigits 10 t.natAbs := by
    rw [← stampDigits_nameFor a s, ← stampDigits_nameFor b t, h]
  have hAbs : s.natAbs = t.natAbs := by
    rw [← Text.digitsValue_toDigits s.natAbs, hDigits,
      Text.digitsValue_toDigits]
  have hFront :
      a.toList ++ mark ++ Text.intSign s =
        b.toList ++ mark ++ Text.intSign t := by
    have hText := congrArg String.toList h
    rw [toList_nameFor, toList_nameFor, Text.toList_int,
      Text.toList_int, hDigits, ← List.append_assoc,
      ← List.append_assoc] at hText
    exact List.append_cancel_right hText
  have hSign : s < 0 ↔ t < 0 := by
    have hLast := congrArg List.getLast? hFront
    rw [getLast?_front, getLast?_front] at hLast
    by_cases hS : s < 0
    · by_cases hT : t < 0
      · exact iff_of_true hS hT
      · simp [hS, hT] at hLast
    · by_cases hT : t < 0
      · simp [hS, hT] at hLast
      · exact iff_of_false hS hT
  refine ⟨?_, by omega⟩
  have hSame : Text.intSign s = Text.intSign t := by
    simp only [Text.intSign, hSign]
  rw [hSame] at hFront
  exact String.toList_inj.mp (List.append_cancel_right
    (List.append_cancel_right hFront))

/-
  The name of a backup with a stamp that is not negative
  spells its file, if the name of that is on one line.
-/
theorem spells_nameFor
    {name : String}
    (hName : name ≠ "")
    (hLine : '\n' ∉ name.toList)
    (stamp : Nat) :
    Spells (nameFor name stamp).toList name.toList
      (Nat.toDigits 10 stamp) where
  text := by
    left
    rw [toList_nameFor, Text.toList_int]
    simp [Text.intSign]
  file_ne_nil := by simpa using hName
  oneLine := hLine
  digits_ne_nil := Nat.toDigits_ne_nil
  areDigits c hC :=
    Text.isDigit_of_ascii (Text.isDigit_of_mem_digits hC)

theorem decode_nameFor
    {name : String}
    (hName : name ≠ "")
    (hLine : '\n' ∉ name.toList)
    (stamp : Nat) :
    decode (nameFor name stamp).toList =
      some (name.toList, Nat.toDigits 10 stamp) :=
  decode_eq_some_iff.mpr (spells_nameFor hName hLine stamp)

/- The name of the backup of a file with a stamp. -/
def nameAt
    (file : Name)
    (stamp : Int) : Name :=
  ⟨nameFor file.text stamp, isName_nameFor file.valid stamp⟩

theorem nameAt_injective
    {a b : Name}
    {s t : Int}
    (h : nameAt a s = nameAt b t) :
    a = b ∧ s = t := by
  have hParts := nameFor_injective (congrArg Name.text h)
  exact ⟨Name.text_injective hParts.1, hParts.2⟩

theorem nameAt_isUp
    (file : Name)
    (stamp : Int) :
    (nameAt file stamp).isUp = false :=
  beq_eq_false_iff_ne.mpr (nameFor_ne_up file.text stamp)

/- A backup is found by its name. -/
theorem found?_nameAt
    {file : Name}
    (hLine : '\n' ∉ file.text.toList)
    (stamp : Nat) :
    found? file.text (nameAt file stamp) =
      some ⟨stamp, nameAt file stamp⟩ := by
  unfold found?
  have hDecode := decode_nameFor file.valid.1 hLine stamp
  simp only [nameAt, hDecode, String.ofList_toList, if_true,
    Text.digitsValue_toDigits]

end Backup

end GradleMigration

------------------------------------------------------------
-- Siblings of a File
------------------------------------------------------------

namespace GradleMigration

namespace Path

/- A path with names has a last one. -/
theorem exists_below
    {path : Path}
    (h : path.parts ≠ []) :
    ∃ folder file, path = below folder [file] := by
  refine ⟨path.parent, path.parts.getLast h, ?_⟩
  unfold below parent
  rw [List.dropLast_append_getLast h]

theorem parent_below
    (folder : Path)
    (file : Name) :
    (folder.below [file]).parent = folder := by
  simp [parent, below]

theorem name_below_one
    (folder : Path)
    (file : Name) :
    (folder.below [file]).name = file.text :=
  name_below folder rfl

/- A path ends with one name behind one folder. -/
theorem below_one_injective
    {a b : Path}
    {file other : Name}
    (h : a.below [file] = b.below [other]) :
    a = b ∧ file = other := by
  have hFolder := congrArg parent h
  rw [parent_below, parent_below] at hFolder
  have hName := congrArg name h
  rw [name_below_one, name_below_one] at hName
  exact ⟨hFolder, Name.text_injective hName⟩

/- The path of a backup. -/
theorem withName_below
    (folder : Path)
    (file : Name)
    (stamp : Int) :
    (folder.below [file]).withName
        (Backup.nameFor (folder.below [file]).name stamp) =
      .ok (folder.below [Backup.nameAt file stamp]) := by
  have hParts : (folder.below [file]).parts ≠ [] := by
    simp [below]
  rcases withName_nameFor hParts stamp with
    ⟨name, hText, hName⟩
  rw [name_below_one] at hText
  have hSame : name = Backup.nameAt file stamp :=
    Name.text_injective hText
  rw [hName, parent_below, hSame]

end Path

namespace FileTree

/- A folder is a directory at a place. -/
structure InFolder
    (tree : FileTree)
    (folder : Path)
    (place : Location) : Prop where
  walk_eq :
    tree.walk [] (tree.directory.join folder).parts = .ok place
  directory : tree.get? place = some .directory

/- A folder stays where it is as long as directories do. -/
theorem InFolder.of_sameDirectories
    {before after : FileTree}
    (h : before.SameDirectories after)
    {folder : Path}
    {place : Location}
    (hFolder : before.InFolder folder place) :
    after.InFolder folder place where
  walk_eq := by
    rw [h.start]
    exact walk_of_sameDirectories h hFolder.walk_eq
  directory := (h.directories place).mpr hFolder.directory

/- What is found is in a folder. -/
theorem inFolder_of_locate
    {tree : FileTree}
    {folder : Path}
    {file : Name}
    {location : Location}
    (h : tree.locate (folder.below [file]) = .ok location) :
    ∃ place, tree.InFolder folder place := by
  have hWalk := (locate_eq_ok_iff.mp h).2.2
  rw [parts_join_below, walk_append] at hWalk
  split at hWalk
  · cases hWalk
  · next place hPlace =>
      refine ⟨place, hPlace, ?_⟩
      unfold walk at hWalk
      split at hWalk
      · cases hWalk
      · next hStep => exact (step_eq_ok_iff.mp hStep).1

/- Where a name in the folder at a place is. -/
def siblingPlace
    (folder : Path)
    (place : Location)
    (name : Name) : Except FileCause Location :=
  if (folder.below [name]).hasNull then
    .error .nullInPath
  else if maxPathBytes < (folder.below [name]).byteSize then
    .error .nameTooLong
  else if maxNameBytes <
      (Utf8.encode name.text.toList).length then
    .error .nameTooLong
  else
    .ok (place ++ [name])

/- In a folder only the name of a sibling can be wrong. -/
theorem InFolder.locate_sibling
    {tree : FileTree}
    {folder : Path}
    {place : Location}
    (h : tree.InFolder folder place)
    {name : Name}
    (hName : name.isUp = false) :
    tree.locate (folder.below [name]) =
      siblingPlace folder place name := by
  unfold locate siblingPlace
  split
  · rfl
  · split
    · rfl
    · rw [parts_join_below, walk_append, h.walk_eq]
      simp only [walk, step, h.directory, hName,
        Bool.false_eq_true, if_false]
      split
      · next hStep => split at hStep <;> simp_all
      · next hStep => split at hStep <;> simp_all

theorem of_siblingPlace
    {folder : Path}
    {place location : Location}
    {name : Name}
    (h : siblingPlace folder place name = .ok location) :
    location = place ++ [name] := by
  unfold siblingPlace at h
  split at h
  · cases h
  · split at h
    · cases h
    · split at h
      · cases h
      · cases h
        rfl

theorem of_siblingPlace_eq_error
    {folder : Path}
    {place : Location}
    {name : Name}
    {cause : FileCause}
    (h : siblingPlace folder place name = .error cause) :
    cause = .nullInPath ∨ cause = .nameTooLong := by
  unfold siblingPlace at h
  split at h
  · cases h
    exact Or.inl rfl
  · split at h
    · cases h
      exact Or.inr rfl
    · split at h
      · cases h
        exact Or.inr rfl
      · cases h

end FileTree

end GradleMigration

------------------------------------------------------------
-- The First Free Stamp
------------------------------------------------------------

namespace GradleMigration

namespace FileTree

/-
  What comes of copying bytes to the backup with a stamp, or
  nothing when its name is taken.
-/
def tryStamp
    (tree : FileTree)
    (folder : Path)
    (place : Location)
    (file : Name)
    (bytes : List UInt8)
    (stamp : Int) :
    Option (Except BackupFault (FileTree × Path)) :=
  let backup := folder.below [Backup.nameAt file stamp]
  match siblingPlace folder place
      (Backup.nameAt file stamp) with
  | .error cause => some (.error (.file (.system cause backup)))
  | .ok location =>
      match tree.get? location with
      | none => some (.ok (tree.set location (.file bytes), backup))
      | some _ => none

section

variable {tree : FileTree} {folder : Path} {place : Location}
variable {file : Name} {bytes : List UInt8}

/- A round of the search for a free stamp. -/
theorem snapshotFrom_succ
    (hFolder : tree.InFolder folder place)
    (hRead : tree.read (folder.below [file]) = .ok bytes)
    (stamp : Int)
    (fuel : Nat) :
    tree.snapshotFrom (folder.below [file]) stamp (fuel + 1) =
      (tree.tryStamp folder place file bytes stamp).getD
        (tree.snapshotFrom (folder.below [file]) (stamp + 1)
          fuel) := by
  have hBackup := Path.withName_below folder file stamp
  have hPlace :=
    hFolder.locate_sibling (Backup.nameAt_isUp file stamp)
  rw [snapshotFrom, hBackup]
  unfold tryStamp create
  simp only [hRead, hPlace]
  cases hSibling :
      siblingPlace folder place (Backup.nameAt file stamp) with
  | error cause =>
      rcases of_siblingPlace_eq_error hSibling with rfl | rfl
      · rfl
      · rfl
  | ok location =>
      cases hEntry : tree.get? location with
      | none => simp [hEntry]
      | some entry => simp [hEntry]

/- The search ends at the first stamp that is not taken. -/
theorem snapshotFrom_eq
    (hFolder : tree.InFolder folder place)
    (hRead : tree.read (folder.below [file]) = .ok bytes)
    {stamp : Int}
    {count fuel : Nat}
    (hTaken : ∀ k < count,
      tree.tryStamp folder place file bytes (stamp + k) = none)
    {outcome : Except BackupFault (FileTree × Path)}
    (hFree :
      tree.tryStamp folder place file bytes (stamp + count) =
        some outcome)
    (hFuel : count < fuel) :
    tree.snapshotFrom (folder.below [file]) stamp fuel =
      outcome := by
  induction count generalizing stamp fuel with
  | zero =>
      obtain ⟨fuel, rfl⟩ : ∃ n, fuel = n + 1 :=
        ⟨fuel - 1, by omega⟩
      have hFirst : stamp + (0 : Nat) = stamp := by simp
      rw [hFirst] at hFree
      rw [snapshotFrom_succ hFolder hRead, hFree]
      rfl
  | succ count ih =>
      obtain ⟨fuel, rfl⟩ : ∃ n, fuel = n + 1 :=
        ⟨fuel - 1, by omega⟩
      have hFirst := hTaken 0 (Nat.succ_pos count)
      have hShift : ∀ k : Nat,
          stamp + 1 + (k : Int) = stamp + ((k + 1 : Nat) : Int) := by
        intro k
        omega
      rw [show stamp + (0 : Nat) = stamp by simp] at hFirst
      rw [snapshotFrom_succ hFolder hRead, hFirst,
        Option.getD_none]
      apply ih
      · intro k hK
        rw [hShift k]
        exact hTaken (k + 1) (by omega)
      · rw [hShift count]
        exact hFree
      · omega

/- A stamp that is taken is the name of an entry. -/
theorem mem_locations_of_tryStamp
    {stamp : Int}
    (h : tree.tryStamp folder place file bytes stamp = none) :
    tree.get? (place ++ [Backup.nameAt file stamp]) ≠ none ∧
      place ++ [Backup.nameAt file stamp] ∈
        tree.entries.locations := by
  unfold tryStamp at h
  simp only at h
  split at h
  · cases h
  · next location hSibling =>
      split at h
      · cases h
      · next entry hEntry =>
          rw [of_siblingPlace hSibling] at hEntry
          refine ⟨?_, ?_⟩
          · rw [hEntry]
            exact Option.some_ne_none entry
          · unfold get? at hEntry
            rw [if_neg (by simp)] at hEntry
            have hMem := (Entries.lookup_eq_some_iff
              tree.distinct).mp hEntry
            exact List.mem_map.mpr ⟨_, hMem, rfl⟩

/-
  Of some stamps in a row one is the first that is free, or
  all are taken.
-/
theorem first_free_stamp
    (tree : FileTree)
    (folder : Path)
    (place : Location)
    (file : Name)
    (bytes : List UInt8)
    (stamp : Int)
    (limit : Nat) :
    (∃ count < limit,
      (∀ k < count,
        tree.tryStamp folder place file bytes (stamp + (k : Nat)) =
          none) ∧
      ∃ outcome,
        tree.tryStamp folder place file bytes (stamp + count) =
          some outcome) ∨
    ∀ k < limit,
      tree.tryStamp folder place file bytes (stamp + (k : Nat)) =
        none := by
  induction limit with
  | zero =>
      right
      intro k hK
      exact absurd hK (Nat.not_lt_zero k)
  | succ limit ih =>
      rcases ih with ⟨count, hCount, hFirst⟩ | hTaken
      · exact Or.inl ⟨count, Nat.lt_succ_of_lt hCount, hFirst⟩
      · cases hTry : tree.tryStamp folder place file bytes
            (stamp + limit) with
        | some outcome =>
            exact Or.inl ⟨limit, Nat.lt_succ_self limit, hTaken,
              outcome, hTry⟩
        | none =>
            right
            intro k hK
            rcases Nat.lt_succ_iff_lt_or_eq.mp hK with
              hLess | hLast
            · exact hTaken k hLess
            · rw [hLast]
              exact hTry

/-
  Not all stamps are taken: as many of them in a row as there
  are entries, and one more, are too many.
-/
theorem not_all_taken
    (tree : FileTree)
    (folder : Path)
    (place : Location)
    (file : Name)
    (bytes : List UInt8)
    (stamp : Int) :
    ¬ ∀ k < tree.entries.length + 1,
      tree.tryStamp folder place file bytes (stamp + (k : Nat)) =
        none := by
  intro hTaken
  let names := (List.range (tree.entries.length + 1)).map
    fun (k : Nat) => place ++ [Backup.nameAt file (stamp + k)]
  have hNodup : names.Nodup := by
    apply List.Nodup.map _ List.nodup_range
    intro a b hEq
    have hName := List.singleton_inj.mp
      (List.append_cancel_left hEq)
    have hStamp := (Backup.nameAt_injective hName).2
    omega
  have hSubset : names ⊆ tree.entries.locations := by
    intro location hMem
    rcases List.mem_map.mp hMem with ⟨k, hK, hEq⟩
    rw [← hEq]
    exact (mem_locations_of_tryStamp
      (hTaken k (List.mem_range.mp hK))).2
  have hLength := List.Nodup.length_le_of_subset hNodup hSubset
  simp only [names, Entries.locations, List.length_map,
    List.length_range] at hLength
  omega

/-
  A backup is made with the first stamp from the time on that
  is not taken.
-/
theorem snapshot_eq_tryStamp
    (hFolder : tree.InFolder folder place)
    (hRead : tree.read (folder.below [file]) = .ok bytes)
    (time : Int) :
    ∃ count : Nat,
      (∀ k < count,
        tree.tryStamp folder place file bytes (time + (k : Nat)) =
          none) ∧
        tree.tryStamp folder place file bytes (time + count) =
          some (tree.snapshot (folder.below [file]) time) := by
  rcases first_free_stamp tree folder place file bytes time
      (tree.entries.length + 1) with
    ⟨count, hCount, hTaken, outcome, hFree⟩ | hAll
  · refine ⟨count, hTaken, ?_⟩
    unfold snapshot
    rw [snapshotFrom_eq hFolder hRead hTaken hFree hCount]
    exact hFree
  · exact absurd hAll (not_all_taken _ _ _ _ _ _)

end

end FileTree

end GradleMigration
