import GradleMigration.Proofs.Backup.Stamps
import GradleMigration.Proofs.File.Print

/-
  The names of backups tell their files: the name of a file
  may hold the mark, and digits behind it, any number of times
  and be that of a backup itself.

  Main declarations:
    * `Path.child_name`
    * `Backup.Stamp` and `Backup.named`
    * `Backup.named_injective`
    * `Backup.owner_of_named`
    * `FileTree.exists_nameAt_of_snapshot`
    * `Backup.owner_of_isScannable`
    * `Backup.names_tell_files`
-/

------------------------------------------------------------
-- Names Made of Names and Stamps
------------------------------------------------------------

namespace GradleMigration

namespace Path

/- A name is the path that is its text. -/
theorem parse_text
    (name : Name) :
    parse name.text = ⟨.relative, [name]⟩ := by
  have hPrint : print ⟨.relative, [name]⟩ = name.text := by
    rw [← String.toList_inj, toList_print_of_ne (by simp)]
    simp [letters, Anchoring.text]
  rw [← hPrint, parse_print]

/- The path of an entry with a name. -/
theorem child_name
    (folder : Path)
    (name : Name) :
    folder.child name.text = folder.below [name] := by
  rw [child, parse_text]
  rfl

end Path

namespace Backup

/- The digits of a stamp, of which there are some. -/
structure Stamp where
  digits : List Char
  ne_nil : digits ≠ []
  areDigits : ∀ c ∈ digits, Text.isDigit c = true

/- The text that the name of a file and a stamp make. -/
def named
    (file : String)
    (stamp : Stamp) : String :=
  file ++ String.ofList mark ++ String.ofList stamp.digits

theorem toList_named
    (file : String)
    (stamp : Stamp) :
    (named file stamp).toList =
      file.toList ++ mark ++ stamp.digits := by
  simp [named]

/- Only the stamp is read at the end of the text. -/
theorem stampDigits_named
    (file : String)
    (stamp : Stamp) :
    stampDigits (named file stamp).toList = stamp.digits := by
  rw [toList_named]
  exact stampDigits_append (getLast?_marked _) (by decide)
    stamp.areDigits

/- The text tells the file and the stamp that make it. -/
theorem named_injective
    {a b : String}
    {s t : Stamp}
    (h : named a s = named b t) :
    a = b ∧ s.digits = t.digits := by
  have hDigits : s.digits = t.digits := by
    rw [← stampDigits_named a s, h, stampDigits_named]
  refine ⟨?_, hDigits⟩
  have hText := congrArg String.toList h
  rw [toList_named, toList_named, hDigits] at hText
  exact String.toList_inj.mp (List.append_cancel_right
    (List.append_cancel_right hText))

/- What a file and a stamp make is a name. -/
theorem isName_named
    (file : Name)
    (stamp : Stamp) :
    IsName (named file.text stamp) := by
  apply isName_marked (toList_named file.text stamp)
    file.valid.2.2
  intro hSlash
  exact absurd (stamp.areDigits _ hSlash) (by decide)

/- The path of the backup of a file with a stamp. -/
theorem child_named
    (folder : Path)
    (file : Name)
    (stamp : Stamp) :
    folder.child (named file.text stamp) =
      folder.below [⟨_, isName_named file stamp⟩] :=
  folder.child_name ⟨_, isName_named file stamp⟩

/- Files on one line are spelled by their backups. -/
theorem spells_named
    {file : Name}
    (hLine : '\n' ∉ file.text.toList)
    (stamp : Stamp) :
    Spells (named file.text stamp).toList file.text.toList
      stamp.digits where
  text := Or.inl (toList_named file.text stamp)
  file_ne_nil := by
    intro hNil
    exact file.valid.1 (String.toList_eq_nil_iff.mp hNil)
  oneLine := hLine
  digits_ne_nil := stamp.ne_nil
  areDigits := stamp.areDigits

end Backup

end GradleMigration

------------------------------------------------------------
-- From Backups to Files
------------------------------------------------------------

namespace GradleMigration

namespace Backup

/- The backup of a file belongs to it. -/
theorem owner_of_named
    (folder : Path)
    {file : Name}
    (hLine : '\n' ∉ file.text.toList)
    (stamp : Stamp) :
    owner (folder.child (named file.text stamp)) =
      .ok (some (folder.child file.text)) := by
  rw [child_named, Path.child_name]
  refine owner_eq_ok_some_iff.mpr ⟨file, stamp.digits, ?_, ?_⟩
  · rw [Path.name_below_one]
    exact spells_named hLine stamp
  · rw [Path.parent_below]

/- What belongs to a file is its sibling and has its name. -/
theorem named_of_owner
    {path original : Path}
    (hLine : '\n' ∉ path.name.toList)
    (h : owner path = .ok (some original)) :
    ∃ stamp,
      path.name = named original.name stamp ∧
        path.parent = original.parent := by
  rcases owner_eq_ok_some_iff.mp h with
    ⟨file, digits, hSpells, hOriginal⟩
  refine ⟨⟨digits, hSpells.digits_ne_nil, hSpells.areDigits⟩,
    ?_, ?_⟩
  · rw [hOriginal, Path.name_below_one, ← String.toList_inj,
      toList_named]
    rcases hSpells.text with hPlain | hFed
    · exact hPlain
    · exact absurd (by simp [hFed]) hLine
  · rw [hOriginal, Path.parent_below]

/- Backups of two files are two backups. -/
theorem child_named_injective
    {a b : Path}
    {file other : Name}
    {s t : Stamp}
    (h : a.child (named file.text s) =
      b.child (named other.text t)) :
    a.child file.text = b.child other.text := by
  rw [child_named, child_named] at h
  have hParts := Path.below_one_injective h
  have hName := congrArg Name.text hParts.2
  rw [hParts.1, (named_injective hName).1]

/- A text with a stamp at its end ends with a digit. -/
theorem getLast?_digits
    (front : List Char)
    {digits : List Char}
    (hDigits : digits ≠ [])
    (hAll : ∀ c ∈ digits, Text.isDigit c = true) :
    ∃ c, (front ++ digits).getLast? = some c ∧
      Text.isDigit c = true := by
  refine ⟨digits.getLast hDigits, ?_,
    hAll _ (List.getLast_mem hDigits)⟩
  rw [List.getLast?_append, List.getLast?_eq_some_getLast hDigits]
  rfl

/- The name of a backup ends with a digit or a line feed. -/
theorem Spells.getLast?
    {name file digits : List Char}
    (h : Spells name file digits) :
    ∃ c, name.getLast? = some c ∧
      (Text.isDigit c = true ∨ c = '\n') := by
  rcases h.text with hPlain | hFed
  · rcases getLast?_digits (file ++ mark) h.digits_ne_nil
      h.areDigits with ⟨c, hLast, hDigit⟩
    exact ⟨c, hPlain ▸ hLast, Or.inl hDigit⟩
  · exact ⟨'\n', by rw [hFed, List.getLast?_concat],
      Or.inr rfl⟩

/- A script is the backup of no file, and named like none. -/
theorem owner_of_isScannable
    {path root : Path}
    {excludes : List String}
    (h : Project.isScannable path root excludes = true) :
    owner path = .ok none ∧
      ∀ file stamp, path.name ≠ named file stamp := by
  have hScript := (Bool.and_eq_true_iff.mp h).1
  refine ⟨owner_eq_ok_none_iff.mpr ?_, ?_⟩
  · intro file digits hSpells
    rcases hSpells.getLast? with ⟨c, hLast, hEnd⟩
    rw [not_isScriptName_of_last hLast hEnd] at hScript
    cases hScript
  · intro file stamp hName
    rcases getLast?_digits (file.toList ++ mark) stamp.ne_nil
      stamp.areDigits with ⟨c, hLast, hDigit⟩
    rw [← toList_named, ← hName] at hLast
    rw [not_isScriptName_of_last hLast (Or.inl hDigit)]
      at hScript
    cases hScript

end Backup

namespace FileTree

/- A backup that is made has the name of its file and a stamp. -/
theorem exists_nameAt_of_snapshot
    {tree after : FileTree}
    {path backup : Path}
    {time : Int}
    (h : tree.snapshot path time = .ok (after, backup)) :
    ∃ (folder : Path) (file : Name) (stamp : Int),
      path = folder.below [file] ∧
        backup = folder.below [Backup.nameAt file stamp] := by
  by_cases hParts : path.parts = []
  · unfold snapshot snapshotFrom Path.withName at h
    rw [if_pos hParts] at h
    cases h
  · rcases Path.exists_below hParts with
      ⟨folder, file, hPath⟩
    rcases tree.snapshot_cases hParts time with
      ⟨_, _, _, _, hMade, hSnapshot⟩ | ⟨fault, hFault⟩
    · rw [hMade] at h
      cases h
      rcases hSnapshot.named with ⟨stamp, hNamed⟩
      subst hPath
      rw [Path.withName_below] at hNamed
      exact ⟨folder, file, stamp, rfl,
        (Except.ok.inj hNamed).symm⟩
    · rw [hFault] at h
      cases h

/- A backup that is made tells the file that it was made of. -/
theorem snapshot_injective
    {before beforeOther after afterOther : FileTree}
    {path other backup : Path}
    {time timeOther : Int}
    (h : before.snapshot path time = .ok (after, backup))
    (hOther : beforeOther.snapshot other timeOther =
      .ok (afterOther, backup)) :
    path = other := by
  rcases exists_nameAt_of_snapshot h with
    ⟨folder, file, stamp, hPath, hBackup⟩
  rcases exists_nameAt_of_snapshot hOther with
    ⟨folderOther, fileOther, stampOther, hPathOther,
      hBackupOther⟩
  rw [hBackup] at hBackupOther
  have hParts := Path.below_one_injective hBackupOther
  have hFile := Backup.nameAt_injective hParts.2
  rw [hPath, hPathOther, hParts.1, hFile.1]

end FileTree

end GradleMigration

------------------------------------------------------------
-- Backups and Their Files
------------------------------------------------------------

namespace GradleMigration

namespace Backup

/-
  The name of a file and a stamp make a name that tells the
  file, and what tells a file is made that way.  So no backup
  is one of two files, and no script is a backup.
-/
theorem names_tell_files :
    (∀ (folder : Path) (file : Name) (stamp : Stamp),
        '\n' ∉ file.text.toList →
          owner (folder.child (named file.text stamp)) =
            .ok (some (folder.child file.text))) ∧
      (∀ path original : Path,
        '\n' ∉ path.name.toList →
        owner path = .ok (some original) →
          ∃ stamp,
            path.name = named original.name stamp ∧
              path.parent = original.parent) ∧
      (∀ (a b : Path) (file other : Name) (s t : Stamp),
        a.child (named file.text s) =
            b.child (named other.text t) →
          a.child file.text = b.child other.text) ∧
      (∀ (before beforeOther after afterOther : FileTree)
          (path other backup : Path) (time timeOther : Int),
        before.snapshot path time = .ok (after, backup) →
        beforeOther.snapshot other timeOther =
            .ok (afterOther, backup) →
          path = other) ∧
      ∀ (path root : Path) (excludes : List String),
        Project.isScannable path root excludes = true →
          owner path = .ok none ∧
            ∀ file stamp, path.name ≠ named file stamp := by
  refine ⟨?_, ?_, ?_, ?_, ?_⟩
  · intro folder file stamp hLine
    exact owner_of_named folder hLine stamp
  · intro path original hLine hOwner
    exact named_of_owner hLine hOwner
  · intro a b file other s t hSame
    exact child_named_injective hSame
  · intro before beforeOther after afterOther path other backup
      time timeOther hMade hOther
    exact FileTree.snapshot_injective hMade hOther
  · intro path root excludes hScript
    exact owner_of_isScannable hScript

/- A file with the name of a backup. -/
def backupFile : Name :=
  ⟨"a.backup.7.backup.b.backup.8", by decide +kernel⟩

/- A stamp of digits of two scripts. -/
def mixedStamp : Stamp where
  digits := ['4', Char.ofNat 0x662]
  ne_nil := List.cons_ne_nil _ _
  areDigits := List.all_eq_true.mp (by decide +kernel)

/- A tree that holds the file alone. -/
def backupFileTree : FileTree :=
  (FileTree.empty ⟨.slash, []⟩).set [backupFile] (.file [97])

theorem names_tell_files_of_backupFile :
    '\n' ∉ backupFile.text.toList ∧
      owner ((Path.parse "/f").child
          (named backupFile.text mixedStamp)) =
        .ok (some ((Path.parse "/f").child
          backupFile.text)) ∧
      (∃ stamp,
        (Path.parse "/f/a.backup.7.backup.12").name =
            named "a.backup.7" stamp) ∧
      (∃ after backup,
        backupFileTree.snapshot ⟨.slash, [backupFile]⟩ 12 =
            .ok (after, backup) ∧
          ∀ (tree last : FileTree) (path : Path) (time : Int),
            tree.snapshot path time = .ok (last, backup) →
              path = ⟨.slash, [backupFile]⟩) ∧
      owner (Path.parse "/f/build.gradle.kts") = .ok none := by
  rcases names_tell_files with
    ⟨hNamed, hOwner, _, hMade, hScript⟩
  have hLine : '\n' ∉ backupFile.text.toList := by
    decide +kernel
  refine ⟨hLine, hNamed _ _ mixedStamp hLine, ?_, ?_, ?_⟩
  · rcases hOwner (Path.parse "/f/a.backup.7.backup.12")
      (Path.parse "/f/a.backup.7") (by decide +kernel)
      (by rfl) with ⟨stamp, hName, _⟩
    exact ⟨stamp, hName⟩
  · have hBackup :
        (backupFileTree.snapshot ⟨.slash, [backupFile]⟩
            12).toOption.map (fun made => made.2) =
          some ⟨.slash, [nameAt backupFile 12]⟩ := by
      decide +kernel
    rcases Option.map_eq_some_iff.mp hBackup with
      ⟨⟨after, backup⟩, hHere, _⟩
    have hFirst := toOption_eq_some_iff.mp hHere
    refine ⟨after, backup, hFirst, ?_⟩
    intro tree last path time hOther
    exact hMade _ _ _ _ _ _ _ _ _ hOther hFirst
  · exact (hScript _ (Path.parse "/f") [] (by decide +kernel)).1

end Backup

end GradleMigration
