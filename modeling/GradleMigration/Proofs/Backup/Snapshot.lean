import GradleMigration.Backup.Basic
import GradleMigration.Project.Layout
import GradleMigration.Proofs.Text.Digits

/-
  What making a backup does: a sibling of the file that was
  not there before gets its bytes, and nothing else changes.

  Main declarations:
    * `Project.getLast?_of_isScriptName`
    * `Backup.isName_nameFor`
    * `Backup.not_isScriptName_nameFor`
    * `FileTree.Snapshot`
    * `FileTree.snapshot_cases`
-/

------------------------------------------------------------
-- Names of Scripts
------------------------------------------------------------

namespace GradleMigration

namespace Project

/- The names of scripts end with one of two letters. -/
theorem getLast?_of_isScriptName
    {name : String}
    (h : isScriptName name = true) :
    name.toList.getLast? = some 'e' ∨
      name.toList.getLast? = some 's' := by
  have hEnding : ∀ {ending : String} {c : Char},
      ending.toList.getLast? = some c →
      ending.toList.isSuffixOf name.toList = true →
        name.toList.getLast? = some c := by
    intro ending c hLast hSuffix
    rcases List.isSuffixOf_iff_suffix.mp hSuffix with
      ⟨front, hFront⟩
    rw [← hFront, List.getLast?_append, hLast]
    rfl
  unfold isScriptName scriptSuffixes at h
  simp only [List.any_cons, List.any_nil, Bool.or_false,
    Bool.or_eq_true, beq_iff_eq] at h
  rcases h with (hGroovy | hKotlin) | hWrapper
  · exact Or.inl (hEnding (by decide) hGroovy)
  · exact Or.inr (hEnding (by decide) hKotlin)
  · subst hWrapper
    exact Or.inr (by decide)

end Project

end GradleMigration

------------------------------------------------------------
-- Names of Backups
------------------------------------------------------------

namespace GradleMigration

namespace Backup

/- A stamp is written in digits, perhaps behind a minus. -/
theorem mem_stamp
    {stamp : Int}
    {c : Char}
    (h : c ∈ (toString stamp).toList) :
    c = '-' ∨ c.isDigit = true := by
  rw [Int.toString_eq_repr] at h
  cases stamp with
  | ofNat n =>
      simp only [Int.repr, Nat.toList_repr] at h
      exact Or.inr
        (Nat.isDigit_of_mem_toDigits (by decide) (by decide) h)
  | negSucc n =>
      simp only [Int.repr, String.toList_append,
        List.mem_append, Nat.toList_repr] at h
      rcases h with hSign | hDigits
      · left
        simpa using hSign
      · exact Or.inr (Nat.isDigit_of_mem_toDigits
          (by decide) (by decide) hDigits)

/- A stamp ends with a digit. -/
theorem getLast?_stamp
    (stamp : Int) :
    ∃ c, (toString stamp).toList.getLast? = some c ∧
      c.isDigit = true := by
  have hDigits :
      ∀ n : Nat, ∃ c,
        (Nat.toDigits 10 n).getLast? = some c ∧
          c.isDigit = true := by
    intro n
    cases hLast : (Nat.toDigits 10 n).getLast? with
    | none =>
        exact absurd (List.getLast?_eq_none_iff.mp hLast)
          Nat.toDigits_ne_nil
    | some c =>
        exact ⟨c, rfl, Nat.isDigit_of_mem_toDigits (by decide)
          (by decide) (List.mem_of_getLast? hLast)⟩
  rw [Int.toString_eq_repr]
  cases stamp with
  | ofNat n =>
      simp only [Int.repr, Nat.toList_repr]
      exact hDigits n
  | negSucc n =>
      rcases hDigits (n + 1) with ⟨c, hLast, hDigit⟩
      refine ⟨c, ?_, hDigit⟩
      simp [Int.repr, List.getLast?_cons, hLast]

/- The characters of the name of a backup. -/
theorem toList_nameFor
    (name : String)
    (stamp : Int) :
    (nameFor name stamp).toList =
      name.toList ++ mark ++ (toString stamp).toList := by
  simp [nameFor]

/- A text with the mark and without slashes is a name. -/
theorem isName_marked
    {name : String}
    {front back : List Char}
    (hName : name.toList = front ++ mark ++ back)
    (hFront : '/' ∉ front)
    (hBack : '/' ∉ back) :
    IsName name := by
  have hLength : 8 ≤ name.toList.length := by
    have hMark : mark.length = 8 := by decide
    rw [hName, List.length_append, List.length_append, hMark]
    omega
  refine ⟨?_, ?_, ?_⟩
  · intro hEmpty
    rw [hEmpty] at hLength
    exact absurd hLength (by decide)
  · intro hDot
    rw [hDot] at hLength
    exact absurd hLength (by decide)
  · rw [hName]
    simp only [List.mem_append, not_or]
    exact ⟨⟨hFront, by decide⟩, hBack⟩

/- Files with names have backups with names. -/
theorem isName_nameFor
    {name : String}
    (h : IsName name)
    (stamp : Int) :
    IsName (nameFor name stamp) := by
  apply isName_marked (toList_nameFor name stamp) h.2.2
  intro hSlash
  rcases mem_stamp hSlash with hMinus | hDigit
  · cases hMinus
  · cases hDigit

/- The name of a backup does not lead up. -/
theorem nameFor_ne_up
    (name : String)
    (stamp : Int) :
    nameFor name stamp ≠ ".." := by
  intro hEq
  have hChars := congrArg String.toList hEq
  rw [toList_nameFor] at hChars
  have hLength := congrArg List.length hChars
  have hMark : mark.length = 8 := by decide
  have hUp : "..".toList.length = 2 := by decide
  simp only [List.length_append, hMark, hUp] at hLength
  omega

/- No script has a name that ends like that of a backup. -/
theorem not_isScriptName_of_last
    {name : String}
    {c : Char}
    (hLast : name.toList.getLast? = some c)
    (hEnd : Text.isDigit c = true ∨ c = '\n') :
    Project.isScriptName name = false := by
  rw [Bool.eq_false_iff]
  intro hScript
  have hLetter : c = 'e' ∨ c = 's' := by
    rcases Project.getLast?_of_isScriptName hScript with hE | hS
    · exact Or.inl (Option.some.inj (hLast.symm.trans hE))
    · exact Or.inr (Option.some.inj (hLast.symm.trans hS))
  rcases hLetter with hE | hS
  · subst hE
    exact absurd hEnd (by decide)
  · subst hS
    exact absurd hEnd (by decide)

/- The name of a backup is never that of a script. -/
theorem not_isScriptName_nameFor
    (name : String)
    (stamp : Int) :
    Project.isScriptName (nameFor name stamp) = false := by
  rcases getLast?_stamp stamp with ⟨c, hStamp, hDigit⟩
  have hLast :
      (nameFor name stamp).toList.getLast? = some c := by
    rw [toList_nameFor, List.getLast?_append, hStamp]
    rfl
  exact not_isScriptName_of_last hLast
    (Or.inl (Text.isDigit_of_ascii hDigit))

end Backup

end GradleMigration

------------------------------------------------------------
-- Making Backups
------------------------------------------------------------

namespace GradleMigration

namespace Path

/- A path with a last name can get the name of a backup. -/
theorem withName_nameFor
    {path : Path}
    (h : path.parts ≠ [])
    (stamp : Int) :
    ∃ name : Name,
      name.text = Backup.nameFor path.name stamp ∧
        path.withName (Backup.nameFor path.name stamp) =
          .ok (path.parent.below [name]) := by
  have hLast : ∃ last, path.parts.getLast? = some last := by
    cases hLast : path.parts.getLast? with
    | none => exact absurd (List.getLast?_eq_none_iff.mp hLast) h
    | some last => exact ⟨last, rfl⟩
  rcases hLast with ⟨last, hLast⟩
  have hName : path.name = last.text := by
    unfold name
    rw [hLast]
  have hValid : IsName (Backup.nameFor path.name stamp) := by
    rw [hName]
    exact Backup.isName_nameFor last.valid stamp
  refine ⟨⟨_, hValid⟩, rfl, ?_⟩
  unfold withName Name.ofText?
  rw [if_neg h, dif_pos hValid]

end Path

namespace FileTree

/-
  A backup has been made: the name of the backup, where it is,
  and the bytes that it holds.
-/
structure Snapshot
    (tree : FileTree)
    (path : Path)
    (after : FileTree)
    (backup : Path)
    (location : Location)
    (bytes : List UInt8) : Prop where
  named : ∃ stamp,
    path.withName (Backup.nameFor path.name stamp) = .ok backup
  source : tree.read path = .ok bytes
  place : tree.locate backup = .ok location
  fresh : tree.get? location = none
  tree_eq : after = tree.set location (.file bytes)

/-
  Making a backup of a file with a name comes to a backup, or
  the file system objects.
-/
theorem snapshotFrom_cases
    (tree : FileTree)
    {path : Path}
    (h : path.parts ≠ [])
    (stamp : Int)
    (fuel : Nat) :
    (∃ after backup location bytes,
        tree.snapshotFrom path stamp fuel =
          .ok (after, backup) ∧
        tree.Snapshot path after backup location bytes) ∨
      ∃ fault,
        tree.snapshotFrom path stamp fuel =
          .error (.file fault) := by
  induction fuel generalizing stamp with
  | zero => exact Or.inr ⟨_, rfl⟩
  | succ fuel ih =>
      rcases path.withName_nameFor h stamp with
        ⟨name, _, hBackup⟩
      unfold snapshotFrom
      rw [hBackup]
      simp only
      cases hRead : tree.read path with
      | error fault => exact Or.inr ⟨fault, rfl⟩
      | ok bytes =>
          simp only
          cases hCreate :
              tree.create (path.parent.below [name]) bytes with
          | ok after =>
              left
              unfold create at hCreate
              split at hCreate
              · cases hCreate
              · next location hLocation =>
                  split at hCreate
                  · cases hCreate
                  · next hFresh =>
                      cases hCreate
                      exact ⟨_, _, location, bytes, rfl,
                        { named := ⟨stamp, hBackup⟩
                          source := hRead
                          place := hLocation
                          fresh := hFresh
                          tree_eq := rfl }⟩
          | error fault =>
              split
              · next hEq => cases hEq
              · exact ih (stamp + 1)
              · next other _ hEq =>
                  exact Or.inr ⟨other, rfl⟩

theorem snapshot_cases
    (tree : FileTree)
    {path : Path}
    (h : path.parts ≠ [])
    (time : Int) :
    (∃ after backup location bytes,
        tree.snapshot path time = .ok (after, backup) ∧
        tree.Snapshot path after backup location bytes) ∨
      ∃ fault,
        tree.snapshot path time = .error (.file fault) :=
  tree.snapshotFrom_cases h time _

end FileTree

end GradleMigration
