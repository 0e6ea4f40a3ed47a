import GradleMigration.Project.Metadata
import GradleMigration.Proofs.Scan.Listing
import Mathlib.Data.List.Induction

/-
  Trees such as file systems hold: every entry lies in a
  directory and has a name that is allowed.  In such a tree
  the only objection to a path below a directory is that it
  is too long.

  Main declarations:
    * `FileTree.WellFormed`
    * `FileTree.WellFormed.get?_front`
    * `FileTree.WellFormed.locate_below`
    * `FileTree.WellFormed.readExact_below`
    * `FileTree.isFile_below`
    * `FileTree.modules_cases`
    * `FileTree.version_cases`
-/

------------------------------------------------------------
-- Well-Formed Trees
------------------------------------------------------------

namespace GradleMigration

instance
    (name : Name) : Decidable name.Fits :=
  inferInstanceAs (Decidable
    (name.isUp = true ∨
      (Utf8.encode name.text.toList).length ≤ maxNameBytes))

namespace FileTree

/-
  Every entry is in a directory, and the names that lead to it
  are short enough, hold no null character and never lead up.
-/
structure WellFormed
    (tree : FileTree) : Prop where
  regular : tree.Regular
  short : ∀ location ∈ tree.entries.locations,
    ∀ name ∈ location, name.Fits
  clean : ∀ location ∈ tree.entries.locations,
    ∀ name ∈ location, name.hasNull = false
  nested : ∀ location ∈ tree.entries.locations,
    tree.get? location.dropLast = some .directory

instance
    (tree : FileTree) : Decidable tree.WellFormed :=
  decidable_of_iff
    (tree.Regular ∧
      (∀ location ∈ tree.entries.locations,
        ∀ name ∈ location, name.Fits) ∧
      (∀ location ∈ tree.entries.locations,
        ∀ name ∈ location, name.hasNull = false) ∧
      ∀ location ∈ tree.entries.locations,
        tree.get? location.dropLast = some .directory)
    ⟨fun h => ⟨h.1, h.2.1, h.2.2.1, h.2.2.2⟩,
      fun h => ⟨h.regular, h.short, h.clean, h.nested⟩⟩

/- What is found away from the root is one of the entries. -/
theorem mem_locations_of_ne_nil
    {tree : FileTree}
    {location : Location}
    {entry : Entry}
    (hLocation : location ≠ [])
    (h : tree.get? location = some entry) :
    location ∈ tree.entries.locations := by
  unfold get? at h
  rw [if_neg hLocation] at h
  exact List.mem_map.mpr
    ⟨_, (Entries.lookup_eq_some_iff tree.distinct).mp h, rfl⟩

namespace WellFormed

variable {tree : FileTree}

/- On the way to an entry there are directories only. -/
theorem get?_front
    (hTree : tree.WellFormed)
    {front back : List Name}
    {entry : Entry}
    (hBack : back ≠ [])
    (h : tree.get? (front ++ back) = some entry) :
    tree.get? front = some .directory := by
  induction back using List.reverseRecOn generalizing entry with
  | nil => exact absurd rfl hBack
  | append_singleton back last ih =>
      have hParent := hTree.nested _
        (mem_locations_of_ne_nil (by simp) h)
      rw [← List.append_assoc, List.dropLast_concat] at hParent
      by_cases hNil : back = []
      · rw [hNil, List.append_nil] at hParent
        exact hParent
      · exact ih hNil hParent

/- A walk along the names of an entry comes to the entry. -/
theorem walk_below
    (hTree : tree.WellFormed)
    {place : Location}
    {names : List Name}
    {entry : Entry}
    (h : tree.get? (place ++ names) = some entry) :
    tree.walk place names = .ok (place ++ names) := by
  induction names generalizing place with
  | nil => simp [walk]
  | cons name rest ih =>
      have hPlace := hTree.get?_front (by simp) h
      have hMem : place ++ name :: rest ∈
          tree.entries.locations :=
        mem_locations_of_ne_nil (by simp) h
      have hName : name ∈ place ++ name :: rest := by simp
      have hUp := hTree.regular _ hMem name hName
      have hShort : ¬ maxNameBytes <
          (Utf8.encode name.text.toList).length := by
        rcases hTree.short _ hMem name hName with hIs | hFits
        · rw [hUp] at hIs
          cases hIs
        · exact Nat.not_lt.mpr hFits
      have hStep :
          tree.step place name = .ok (place ++ [name]) := by
        unfold step
        rw [hPlace]
        simp only [hUp, Bool.false_eq_true, if_false,
          if_neg hShort]
      have hSplit : place ++ name :: rest =
          (place ++ [name]) ++ rest := by simp
      rw [hSplit] at h ⊢
      rw [walk, hStep]
      exact ih h

/- The names that lead to an entry hold no null character. -/
theorem clean_of_get?
    (hTree : tree.WellFormed)
    {location : Location}
    {entry : Entry}
    (h : tree.get? location = some entry) :
    ∀ name ∈ location, name.hasNull = false := by
  intro name hName
  exact hTree.clean _
    (mem_locations_of_ne_nil (List.ne_nil_of_mem hName) h)
    name hName

/- An entry below a directory is found, if its path is short. -/
theorem locate_below
    (hTree : tree.WellFormed)
    {root : Path}
    {place : Location}
    (hRoot : tree.locate root = .ok place)
    {names : List Name}
    {entry : Entry}
    (h : tree.get? (place ++ names) = some entry)
    (hShort : (root.below names).isTooLong = false) :
    tree.locate (root.below names) = .ok (place ++ names) := by
  rcases locate_eq_ok_iff.mp hRoot with ⟨hClean, _, hWalk⟩
  unfold Path.isTooLong at hShort
  refine locate_eq_ok_iff.mpr
    ⟨?_, Nat.le_of_not_lt (of_decide_eq_false hShort), ?_⟩
  · rw [Path.hasNull_below, hClean, Bool.false_or,
      List.any_eq_false]
    intro name hName
    rw [hTree.clean_of_get? h name (by simp [hName])]
    simp
  · rw [parts_join_below, walk_append, hWalk]
    exact hTree.walk_below h

/- The text of a file below a directory is that of its bytes. -/
theorem readExact_below
    (hTree : tree.WellFormed)
    {root : Path}
    {place : Location}
    (hRoot : tree.locate root = .ok place)
    {names : List Name}
    {bytes : List UInt8}
    (h : tree.get? (place ++ names) = some (.file bytes))
    (hShort : (root.below names).isTooLong = false) :
    tree.readExact (root.below names) =
      (Utf8.decode bytes).mapError .notText := by
  have hRead : tree.read (root.below names) = .ok bytes :=
    read_eq_ok_iff.mpr ⟨place ++ names,
      hTree.locate_below hRoot h hShort, h⟩
  unfold readExact
  rw [hRead]

end WellFormed

end FileTree

end GradleMigration

------------------------------------------------------------
-- Questions About a Project
------------------------------------------------------------

namespace GradleMigration

/- The path of an entry is that of its names. -/
theorem Path.child_eq_below
    (root : Path)
    {text : String}
    (h : (Path.parse text).isAbsolute = false) :
    root.child text = root.below (Path.parse text).parts := by
  unfold child join
  rw [h]
  rfl

/- A text that writes a path of names that are short enough. -/
def Path.IsWay
    (text : String) : Prop :=
  (Path.parse text).isAbsolute = false ∧
    ∀ name ∈ (Path.parse text).parts, name.Fits

instance
    (text : String) : Decidable (Path.IsWay text) :=
  inferInstanceAs (Decidable (_ ∧ _))

namespace FileTree

variable {tree : FileTree}
variable {root : Path}
variable {place : Location}

/-
  Whether there is a file below a directory is known, unless
  its path is too long.
-/
theorem isFile_below
    (hRoot : tree.locate root = .ok place)
    {names : List Name}
    (hNames : ∀ name ∈ names, name.Fits) :
    (∃ answer, tree.isFile (root.below names) = .ok answer) ∨
      ((root.below names).isTooLong = true ∧
        tree.isFile (root.below names) =
          .error (.system .nameTooLong (root.below names))) := by
  by_cases hSize : maxPathBytes < (root.below names).byteSize
  · cases hNull : (root.below names).hasNull with
    | true => exact Or.inl ⟨false, isFile_of_hasNull hNull⟩
    | false =>
        exact Or.inr ⟨decide_eq_true hSize,
          isFile_of_tooLong hNull hSize⟩
  · refine Or.inl (isFile_of_fitsFrom
      ⟨Nat.le_of_not_lt hSize, ?_⟩)
    rw [parts_join_below]
    intro name hName
    rcases List.mem_append.mp hName with hOwn | hBelow
    · exact (fitsFrom_of_locate hRoot).names name hOwn
    · exact hNames name hBelow

/-
  What the first of some files tells is known, unless a path
  is too long.
-/
theorem readFirst_cases
    {α : Type}
    (hRoot : tree.locate root = .ok place)
    (default : α)
    (tell : List Char → α)
    {texts : List String}
    (hTexts : ∀ text ∈ texts, Path.IsWay text) :
    (∃ told, tree.readFirst default tell
        (texts.map root.child) = .ok told) ∨
      ∃ names, (root.below names).isTooLong = true ∧
        tree.readFirst default tell (texts.map root.child) =
          .error (.system .nameTooLong (root.below names)) := by
  induction texts with
  | nil => exact Or.inl ⟨default, rfl⟩
  | cons text rest ih =>
      rw [List.forall_mem_cons] at hTexts
      rw [List.map_cons, Path.child_eq_below root hTexts.1.1]
      unfold readFirst
      rcases isFile_below hRoot hTexts.1.2 with
        ⟨answer, hAnswer⟩ | ⟨hLong, hFault⟩
      · rw [hAnswer]
        cases answer with
        | false => exact ih hTexts.2
        | true =>
            left
            cases tree.readText
                (root.below (Path.parse text).parts) with
            | error fault => exact ⟨default, rfl⟩
            | ok content => exact ⟨tell content, rfl⟩
      · rw [hFault]
        exact Or.inr ⟨_, hLong, rfl⟩

/- The modules of a project are known, or a path is too long. -/
theorem modules_cases
    (hRoot : tree.locate root = .ok place) :
    (∃ modules, tree.modules root = .ok modules) ∨
      ∃ names, (root.below names).isTooLong = true ∧
        tree.modules root =
          .error (.system .nameTooLong (root.below names)) :=
  readFirst_cases hRoot _ _ (by decide +kernel)

/- The version of a project is known, or a path is too long. -/
theorem version_cases
    (hRoot : tree.locate root = .ok place) :
    (∃ version, tree.version root = .ok version) ∨
      ∃ names, (root.below names).isTooLong = true ∧
        tree.version root =
          .error (.system .nameTooLong (root.below names)) := by
  have hWay : ∀ text ∈ [Project.wrapperPath],
      Path.IsWay text := by
    decide +kernel
  exact readFirst_cases hRoot _ _ hWay

end FileTree

end GradleMigration
