import GradleMigration.Proofs.Backup.Stamps
import GradleMigration.Proofs.Text.Utf8

/-
  Finding the backups of a file: among the names in its folder
  they are those that tell the file, and newer ones come first.

  The name of the file is taken as a pattern there, so it has
  to hold no character that means something in a pattern.

  Main declarations:
    * `FileTree.mem_namesIn_iff`
    * `FileTree.InFolder.locate_eq`
    * `Glob.hasDoubleStar_marked`
    * `Glob.matchesName_starred`
    * `Backup.Found.mergeSort_of_growing`
    * `Backup.found?_eq_some_iff`
    * `FileTree.backups_eq`
-/

------------------------------------------------------------
-- Names in a Folder
------------------------------------------------------------

namespace GradleMigration

namespace FileTree

/- The names in a folder are told by the locations. -/
theorem namesIn_eq
    (tree : FileTree)
    (place : Location) :
    tree.namesIn place =
      tree.entries.locations.filterMap fun location =>
        if location.dropLast = place then
          location.getLast?
        else
          none := by
  unfold namesIn Entries.locations
  rw [List.filterMap_map]
  rfl

/- A name is in a folder if there is an entry for it. -/
theorem mem_namesIn_iff
    {tree : FileTree}
    {place : Location}
    {name : Name} :
    name ∈ tree.namesIn place ↔
      tree.get? (place ++ [name]) ≠ none := by
  have hEntry :
      tree.get? (place ++ [name]) ≠ none ↔
        place ++ [name] ∈ tree.entries.locations := by
    unfold get?
    rw [if_neg (by simp)]
    constructor
    · intro hSome
      rcases Option.ne_none_iff_exists'.mp hSome with
        ⟨entry, hEntry⟩
      exact List.mem_map.mpr ⟨_,
        (Entries.lookup_eq_some_iff tree.distinct).mp hEntry,
        rfl⟩
    · intro hMem
      rcases List.mem_map.mp hMem with ⟨⟨key, entry⟩, hIn, hEq⟩
      have hKey : key = place ++ [name] := hEq
      rw [hKey] at hIn
      rw [(Entries.lookup_eq_some_iff tree.distinct).mpr hIn]
      exact Option.some_ne_none entry
  rw [hEntry, namesIn_eq, List.mem_filterMap]
  constructor
  · rintro ⟨location, hLocation, hName⟩
    split at hName
    · next hPlace =>
        rcases List.getLast?_eq_some_iff.mp hName with
          ⟨front, hFront⟩
        subst hFront
        rw [List.dropLast_concat] at hPlace
        rw [← hPlace]
        exact hLocation
    · cases hName
  · intro hMem
    refine ⟨_, hMem, ?_⟩
    rw [List.dropLast_concat, if_pos rfl, List.getLast?_concat]

end FileTree

namespace Path

/- Names put together are longer with one more. -/
theorem intercalate_starts
    (texts : List (List Char))
    (last : List Char) :
    ['/'].intercalate texts <+:
      ['/'].intercalate (texts ++ [last]) := by
  induction texts with
  | nil => exact List.nil_prefix
  | cons text rest ih =>
      cases rest with
      | nil =>
          rw [List.cons_append, List.nil_append,
            List.intercalate_singleton,
            List.intercalate_cons_cons]
          exact (List.prefix_append _ _).trans
            (List.prefix_append _ _)
      | cons other more =>
          rw [List.cons_append, List.cons_append,
            List.intercalate_cons_cons,
            List.intercalate_cons_cons]
          exact (List.prefix_append_right_inj _).mpr ih

/- A folder takes no more bytes than what is in it. -/
theorem byteSize_le_below
    (folder : Path)
    (file : Name) :
    folder.byteSize ≤ (folder.below [file]).byteSize := by
  have hLong :
      (folder.below [file]).print.toList =
        folder.anchoring.text.toList ++
          ['/'].intercalate
            (letters folder.parts ++ [file.text.toList]) := by
    rw [toList_print_of_ne]
    · simp [below, letters]
    · simp [below]
  unfold byteSize
  rw [hLong]
  by_cases hEmpty :
      folder.anchoring = .relative ∧ folder.parts = []
  · have hPrint : folder.print = "." := by
      unfold print
      rw [if_pos hEmpty]
    have hDot : (Utf8.encode ".".toList).length = 1 := by
      decide
    rw [hPrint, hDot, hEmpty.1, hEmpty.2]
    cases hText : file.text.toList with
    | nil =>
        exact absurd (String.toList_eq_nil_iff.mp hText)
          file.valid.1
    | cons c rest =>
        have hByte :=
          List.length_pos_iff.mpr (Utf8.encodeChar_ne_nil c)
        simp [letters, Anchoring.text, Utf8.encode]
        omega
  · rw [toList_print_of_ne hEmpty]
    rcases intercalate_starts (letters folder.parts)
        file.text.toList with
      ⟨more, hMore⟩
    rw [← hMore]
    simp only [Utf8.encode, List.flatMap_append,
      List.length_append]
    omega

end Path

namespace FileTree

/- The folder of a file that is found is found. -/
theorem InFolder.locate_eq
    {tree : FileTree}
    {folder : Path}
    {place location : Location}
    {file : Name}
    (hFolder : tree.InFolder folder place)
    (hFile : tree.locate (folder.below [file]) = .ok location) :
    tree.locate folder = .ok place := by
  rcases locate_eq_ok_iff.mp hFile with ⟨hClean, hSize, _⟩
  rw [Path.hasNull_below, Bool.or_eq_false_iff] at hClean
  exact locate_eq_ok_iff.mpr
    ⟨hClean.1,
      Nat.le_trans (folder.byteSize_le_below file) hSize,
      hFolder.walk_eq⟩

end FileTree

end GradleMigration

------------------------------------------------------------
-- Patterns Without Meaning
------------------------------------------------------------

namespace GradleMigration

namespace Glob

/- A character that stands for itself in a pattern. -/
def isOrdinary
    (c : Char) : Bool :=
  c != '[' && c != '*' && c != '?'

/- A dot stands between the stars of two parts of a pattern. -/
theorem hasDoubleStar_dot
    (front back : List Char) :
    hasDoubleStar (front ++ '.' :: back) =
      (hasDoubleStar front || hasDoubleStar back) := by
  induction front using hasDoubleStar.induct with
  | case1 rest => rfl
  | case2 c rest hOther ih =>
      have hStars : ∀ more,
          c :: (rest ++ '.' :: back) = '*' :: '*' :: more →
            False := by
        intro more hEq
        rcases List.cons.inj hEq with ⟨hStar, hMore⟩
        cases rest with
        | nil => cases hMore
        | cons d tail =>
            rcases List.cons.inj hMore with ⟨hNext, _⟩
            exact hOther tail hStar (by rw [hNext])
      rw [List.cons_append, hasDoubleStar, hasDoubleStar, ih]
      · exact hOther
      · exact fun more hC hMore =>
          hStars more (by rw [hC, hMore])
  | case3 => rfl

/- What is put behind the name of a file brings no stars. -/
theorem hasDoubleStar_marked
    (text : List Char) :
    hasDoubleStar (text ++ Backup.mark ++ ['*']) =
      hasDoubleStar text := by
  have hMark :
      Backup.mark ++ ['*'] = '.' :: "backup.*".toList := by
    decide
  rw [List.append_assoc, hMark, hasDoubleStar_dot]
  have hBack : hasDoubleStar "backup.*".toList = false := by
    decide
  rw [hBack, Bool.or_false]

/- There are no stars among ordinary characters. -/
theorem hasDoubleStar_of_ordinary
    {text : List Char}
    (h : text.all isOrdinary = true) :
    hasDoubleStar text = false := by
  induction text using hasDoubleStar.induct with
  | case1 rest => simp [isOrdinary] at h
  | case2 c rest hOther ih =>
      rw [hasDoubleStar]
      · exact ih (Bool.and_eq_true_iff.mp h).2
      · exact hOther
  | case3 => rfl

theorem bracket_not_mem_of_ordinary
    {text : List Char}
    (h : text.all isOrdinary = true) :
    '[' ∉ text := by
  intro hMem
  exact absurd (List.all_eq_true.mp h _ hMem) (by decide)

/-
  Without a bracket a text is among those that it stands for as
  a pattern, and so are longer ones with a star behind it.
-/
theorem matchesName_starred
    {text : List Char}
    (h : '[' ∉ text)
    (rest : List Char) :
    (parse (text ++ ['*'])).matchesName (text ++ rest) =
      true := by
  unfold parse
  induction text with
  | nil =>
      have hAny : matchesName [] (rest.drop rest.length) = true := by
        rw [List.drop_length]
        rfl
      simp only [List.nil_append, parseFrom, matchesName,
        List.any_eq_true, List.mem_range]
      exact ⟨rest.length, Nat.lt_succ_self _, hAny⟩
  | cons c more ih =>
      rw [List.mem_cons, not_or] at h
      have hMore := ih h.2
      rw [List.cons_append, List.cons_append]
      by_cases hStar : c = '*'
      · subst hStar
        simp only [parseFrom, matchesName, List.any_eq_true,
          List.mem_range]
        exact ⟨1, by simp, hMore⟩
      · by_cases hMark : c = '?'
        · subst hMark
          rw [parseFrom, matchesName]
          · simp [GlobPart.accepts, hMore]
          · intro hAny
            cases hAny
        · have hParse :
              parseFrom 0 (c :: (more ++ ['*'])) =
                .exactly c :: parseFrom 0 (more ++ ['*']) := by
            rw [parseFrom]
            · exact hStar
            · exact hMark
            · exact Ne.symm h.1
          rw [hParse, matchesName]
          · simp [GlobPart.accepts, hMore]
          · intro hAny
            cases hAny

end Glob

end GradleMigration

------------------------------------------------------------
-- The Order of Backups
------------------------------------------------------------

namespace GradleMigration

namespace Backup

namespace Found

/- Which of two backups comes first. -/
theorem before_iff
    {a b : Found} :
    a.before b = true ↔
      b.stamp < a.stamp ∨
        (a.stamp = b.stamp ∧ b.name.text ≤ a.name.text) := by
  simp [before]

theorem before_trans
    (a b c : Found)
    (hAB : a.before b = true)
    (hBC : b.before c = true) :
    a.before c = true := by
  rw [before_iff] at hAB hBC ⊢
  rcases hAB with hAB | ⟨hAB, hNameAB⟩
  · left
    rcases hBC with hBC | ⟨hBC, _⟩
    · omega
    · omega
  · rcases hBC with hBC | ⟨hBC, hNameBC⟩
    · left
      omega
    · exact Or.inr ⟨hAB.trans hBC,
        String.le_trans hNameBC hNameAB⟩

theorem before_total
    (a b : Found) :
    (a.before b || b.before a) = true := by
  rw [Bool.or_eq_true, before_iff, before_iff]
  rcases Nat.lt_trichotomy a.stamp b.stamp with
    hLess | hEq | hMore
  · exact Or.inr (Or.inl hLess)
  · rcases String.le_total b.name.text a.name.text with
      hName | hName
    · exact Or.inl (Or.inr ⟨hEq, hName⟩)
    · exact Or.inr (Or.inr ⟨hEq.symm, hName⟩)
  · exact Or.inl (Or.inl hMore)

theorem before_antisymm
    {a b : Found}
    (hAB : a.before b = true)
    (hBA : b.before a = true) :
    a = b := by
  rw [before_iff] at hAB hBA
  have hStamp : a.stamp = b.stamp := by omega
  have hNames :
      b.name.text ≤ a.name.text ∧ a.name.text ≤ b.name.text := by
    constructor
    · rcases hAB with hLess | hSame
      · omega
      · exact hSame.2
    · rcases hBA with hLess | hSame
      · omega
      · exact hSame.2
  have hName : a.name = b.name :=
    Name.text_injective (String.le_antisymm hNames.2 hNames.1)
  cases a
  cases b
  cases hStamp
  cases hName
  rfl

/- Backups with growing stamps are sorted by turning around. -/
theorem mergeSort_of_growing
    {backups : List Found}
    (h : backups.Pairwise fun a b => a.stamp < b.stamp) :
    backups.mergeSort before = backups.reverse := by
  apply List.Perm.eq_of_pairwise
  · intro a b _ _ hAB hBA
    exact before_antisymm hAB hBA
  · exact List.pairwise_mergeSort before_trans before_total _
  · rw [List.pairwise_reverse]
    apply h.imp
    intro a b hLess
    exact before_iff.mpr (Or.inl hLess)
  · exact (List.mergeSort_perm _ _).trans
      (List.reverse_perm _).symm

end Found

end Backup

end GradleMigration

------------------------------------------------------------
-- The Backups of a File
------------------------------------------------------------

namespace GradleMigration

namespace Backup

/- What a name is found to be. -/
theorem found?_eq_some_iff
    {file : String}
    {name : Name}
    {found : Found} :
    found? file name = some found ↔
      ∃ digits,
        Spells name.text.toList file.toList digits ∧
          found = ⟨Text.digitsValue digits, name⟩ := by
  unfold found?
  constructor
  · intro h
    split at h
    · cases h
    · next owner digits hDecode =>
        split at h
        · next hOwner =>
            cases h
            refine ⟨digits, ?_, rfl⟩
            rw [← hOwner, String.toList_ofList]
            exact decode_eq_some_iff.mp hDecode
        · cases h
  · rintro ⟨digits, hSpells, rfl⟩
    simp only [decode_eq_some_iff.mpr hSpells,
      String.ofList_toList, if_true]

end Backup

namespace FileTree

/-
  The backups of a file whose name means nothing but itself:
  what is found among the names in its folder, in order.
-/
theorem backups_eq
    {tree : FileTree}
    {folder : Path}
    {place location : Location}
    {file : Name}
    (hFolder : tree.InFolder folder place)
    (hFile : tree.locate (folder.below [file]) = .ok location)
    (hOrdinary : file.text.toList.all Glob.isOrdinary = true) :
    tree.backups (folder.below [file]) =
      .ok ((((tree.namesIn place).filterMap
        (Backup.found? file.text)).mergeSort
          Backup.Found.before).map fun backup =>
            folder.below [backup.name]) := by
  have hPattern :
      (file.text.toList ++ Backup.mark).all Glob.isOrdinary =
        true := by
    rw [List.all_append, hOrdinary]
    decide
  have hLocate := hFolder.locate_eq hFile
  have hDirectory : tree.isDirectory folder = .ok true := by
    unfold isDirectory find? find
    simp [hLocate, hFolder.directory, Except.map]
  have hNames :
      ((tree.namesIn place).filter fun name =>
        (Glob.parse (file.text.toList ++ Backup.mark ++
          ['*'])).matchesName name.text.toList).filterMap
            (Backup.found? file.text) =
        (tree.namesIn place).filterMap
          (Backup.found? file.text) := by
    rw [List.filterMap_filter]
    apply List.filterMap_congr
    intro name _
    split
    · rfl
    · next hOther =>
        cases hFound : Backup.found? file.text name with
        | none => rfl
        | some found =>
            rcases Backup.found?_eq_some_iff.mp hFound with
              ⟨digits, hSpells, _⟩
            rcases hSpells.starts with ⟨rest, hRest⟩
            rw [hRest] at hOther
            exact absurd (Glob.matchesName_starred
              (Glob.bracket_not_mem_of_ordinary hPattern) rest)
              hOther
  unfold backups glob
  simp only [Path.parent_below, Path.name_below_one,
    Glob.hasDoubleStar_marked, hDirectory, hLocate, hNames,
    Glob.hasDoubleStar_of_ordinary hOrdinary,
    Bool.false_eq_true, if_false]

end FileTree

end GradleMigration
