import GradleMigration.Backup.Name
import GradleMigration.Proofs.File.Order

/-
  Which names are those of backups, and what they tell: the
  name of a file, the mark and some digits, behind which one
  line feed is passed over.

  Main declarations:
    * `Backup.Spells`
    * `Backup.decode_eq_some_iff`
    * `Backup.owner_cases`
    * `Backup.owner_eq_ok_none_iff`
    * `Backup.owner_eq_ok_some_iff`
    * `Backup.owner_eq_error_iff`
-/

------------------------------------------------------------
-- Parts of a Name
------------------------------------------------------------

namespace GradleMigration

namespace Backup

/- A text before a stamp ends with a dot. -/
theorem getLast?_marked
    (file : List Char) :
    (file ++ mark).getLast? = some '.' := by
  have hMark : mark.getLast? = some '.' := by decide
  rw [List.getLast?_append, hMark]
  rfl

/- Digits behind another character are those of the stamp. -/
theorem stampDigits_append
    {front digits : List Char}
    {c : Char}
    (hFront : front.getLast? = some c)
    (hC : Text.isDigit c = false)
    (hDigits : ∀ d ∈ digits, Text.isDigit d = true) :
    stampDigits (front ++ digits) = digits := by
  have hStop : front.reverse.takeWhile Text.isDigit = [] := by
    rw [List.getLast?_eq_head?_reverse] at hFront
    rcases List.head?_eq_some_iff.mp hFront with ⟨rest, hRest⟩
    rw [hRest, List.takeWhile_cons, hC]
    rfl
  unfold stampDigits
  rw [List.reverse_append, List.takeWhile_append_of_pos
    (fun d hD => hDigits d (List.mem_reverse.mp hD)), hStop,
    List.append_nil, List.reverse_reverse]

/- The digits of the stamp end the text. -/
theorem stampDigits_suffix
    (text : List Char) :
    stampDigits text <:+ text := by
  have hPrefix :=
    List.takeWhile_prefix (l := text.reverse) Text.isDigit
  simpa [stampDigits] using List.reverse_suffix.mpr hPrefix

theorem isDigit_of_mem_stampDigits
    {text : List Char}
    {c : Char}
    (h : c ∈ stampDigits text) :
    Text.isDigit c = true :=
  List.all_eq_true.mp List.all_takeWhile c
    (List.mem_reverse.mp h)

/- What stands in front of an ending, by the lengths. -/
theorem take_of_append
    {front back text : List Char}
    (h : front ++ back = text) :
    text.take (text.length - back.length) = front := by
  subst h
  rw [List.length_append, Nat.add_sub_cancel, List.take_left]

/- At most one line feed is passed over. -/
theorem eq_or_of_dropFinalNewline
    (text : List Char) :
    text = dropFinalNewline text ∨
      text = dropFinalNewline text ++ ['\n'] := by
  unfold dropFinalNewline
  split
  · next hLast =>
      rcases List.getLast?_eq_some_iff.mp hLast with
        ⟨front, hFront⟩
      right
      rw [hFront, List.dropLast_concat]
  · exact Or.inl rfl

end Backup

end GradleMigration

------------------------------------------------------------
-- Names of Backups
------------------------------------------------------------

namespace GradleMigration

namespace Backup

/-
  How the name of a backup is put together from that of a
  file, which is on one line, and the digits of a stamp.
-/
structure Spells
    (name file digits : List Char) : Prop where
  text :
    name = file ++ mark ++ digits ∨
      name = file ++ mark ++ digits ++ ['\n']
  file_ne_nil : file ≠ []
  oneLine : '\n' ∉ file
  digits_ne_nil : digits ≠ []
  areDigits : ∀ c ∈ digits, Text.isDigit c = true

namespace Spells

variable {name file digits : List Char}

/- A name that spells a file starts with it and the mark. -/
theorem starts
    (h : Spells name file digits) :
    ∃ rest, name = file ++ mark ++ rest := by
  rcases h.text with hPlain | hFed
  · exact ⟨digits, hPlain⟩
  · exact ⟨digits ++ ['\n'], by rw [hFed, List.append_assoc]⟩

/- Only the line feed behind the digits is passed over. -/
theorem dropFinalNewline_eq
    (h : Spells name file digits) :
    dropFinalNewline name = file ++ mark ++ digits := by
  have hLast :
      (file ++ mark ++ digits).getLast? ≠ some '\n' := by
    intro hFeed
    rcases List.eq_nil_or_concat digits with
      hNil | ⟨front, c, hDigits⟩
    · exact h.digits_ne_nil hNil
    · have hC : c = '\n' := by
        rw [hDigits, List.concat_eq_append,
          ← List.append_assoc, List.getLast?_concat] at hFeed
        exact Option.some.inj hFeed
      have hDigit := h.areDigits c (by simp [hDigits])
      rw [hC] at hDigit
      exact absurd hDigit (by decide)
  unfold dropFinalNewline
  rcases h.text with hPlain | hFed
  · rw [hPlain, if_neg hLast]
  · rw [hFed, List.getLast?_concat, if_pos rfl,
      List.dropLast_concat]

/- The digits of the stamp are all the digits at the end. -/
theorem stampDigits_eq
    (h : Spells name file digits) :
    stampDigits (file ++ mark ++ digits) = digits :=
  stampDigits_append (getLast?_marked file) (by decide)
    h.areDigits

end Spells

/- What names of backups are read as. -/
theorem decode_eq_some_iff
    {name file digits : List Char} :
    decode name = some (file, digits) ↔
      Spells name file digits := by
  constructor
  · intro h
    unfold decode at h
    simp only at h
    split at h
    · cases h
    · next hParts =>
        rcases stampDigits_suffix (dropFinalNewline name) with
          ⟨front, hFront⟩
        rw [take_of_append hFront] at h hParts
        simp only [Bool.or_eq_true, Bool.not_eq_true', not_or,
          Bool.not_eq_false] at hParts
        obtain ⟨⟨⟨hDigits, hMark⟩, hFile⟩, hLine⟩ := hParts
        rcases List.isSuffixOf_iff_suffix.mp hMark with
          ⟨file, hWhole⟩
        rw [take_of_append hWhole] at h hFile hLine
        cases h
        refine
          { text := ?_
            file_ne_nil := by simpa using hFile
            oneLine := by simpa using hLine
            digits_ne_nil := by simpa using hDigits
            areDigits := fun _ => isDigit_of_mem_stampDigits }
        rw [hWhole, hFront]
        exact eq_or_of_dropFinalNewline name
  · intro h
    have hSuffix : mark.isSuffixOf (file ++ mark) = true :=
      List.isSuffixOf_iff_suffix.mpr (List.suffix_append _ _)
    unfold decode
    simp only [h.dropFinalNewline_eq, h.stampDigits_eq,
      take_of_append rfl]
    rw [if_neg]
    simp [hSuffix, h.file_ne_nil, h.digits_ne_nil, h.oneLine]

end Backup

end GradleMigration

------------------------------------------------------------
-- The File of a Backup
------------------------------------------------------------

namespace GradleMigration

namespace Path

/- The last name of a path, where there is one. -/
theorem name_cases
    (path : Path) :
    path.name = "" ∨
      ∃ last, path.parts.getLast? = some last ∧
        path.name = last.text := by
  unfold name
  cases path.parts.getLast? with
  | none => exact Or.inl rfl
  | some last => exact Or.inr ⟨last, rfl, rfl⟩

end Path

namespace Backup

/- What a backup spells is a name, or a single dot. -/
theorem Spells.isName_iff
    {path : Path}
    {file digits : List Char}
    (h : Spells path.name.toList file digits) :
    IsName (String.ofList file) ↔ file ≠ ['.'] := by
  have hSlash : '/' ∉ file := by
    intro hMem
    have hThere : '/' ∈ path.name.toList := by
      rcases h.text with hPlain | hFed
      · simp [hPlain, hMem]
      · simp [hFed, hMem]
    rcases path.name_cases with hEmpty | ⟨last, _, hName⟩
    · simp [hEmpty] at hThere
    · rw [hName] at hThere
      exact last.valid.2.2 hThere
  have hDot : String.ofList file = "." ↔ file = ['.'] := by
    rw [← String.toList_inj, String.toList_ofList]
    rfl
  unfold IsName
  rw [String.toList_ofList, Ne, Ne, hDot]
  simp [h.file_ne_nil, hSlash]

/- A name tells at most one file and one stamp. -/
theorem Spells.unique
    {name file digits other more : List Char}
    (h : Spells name file digits)
    (hOther : Spells name other more) :
    file = other ∧ digits = more := by
  have hBoth := (decode_eq_some_iff.mpr h).symm.trans
    (decode_eq_some_iff.mpr hOther)
  simpa using hBoth

/-
  What the name of a path tells: no file, a single dot, which
  is no name, or a sibling.
-/
theorem owner_cases
    (path : Path) :
    ((∀ file digits, ¬ Spells path.name.toList file digits) ∧
        owner path = .ok none) ∨
      (∃ digits, Spells path.name.toList ['.'] digits ∧
        owner path = .error (.notName ".")) ∨
      ∃ (file : Name) (digits : List Char),
        Spells path.name.toList file.text.toList digits ∧
          owner path =
            .ok (some (path.parent.below [file])) := by
  unfold owner
  cases hDecode : decode path.name.toList with
  | none =>
      refine Or.inl ⟨fun file digits hSpells => ?_, rfl⟩
      rw [decode_eq_some_iff.mpr hSpells] at hDecode
      cases hDecode
  | some parts =>
      rcases parts with ⟨file, digits⟩
      have hSpells := decode_eq_some_iff.mp hDecode
      have hParts : path.parts ≠ [] := by
        intro hNil
        rcases hSpells.text with hPlain | hFed
        · simp [Path.name, hNil, hSpells.file_ne_nil] at hPlain
        · simp [Path.name, hNil, hSpells.file_ne_nil] at hFed
      right
      simp only [Path.withName, Name.ofText?, if_neg hParts]
      by_cases hDot : file = ['.']
      · subst hDot
        rw [dif_neg (by simp [hSpells.isName_iff])]
        exact Or.inl ⟨digits, hSpells, rfl⟩
      · have hName := hSpells.isName_iff.mpr hDot
        rw [dif_pos hName]
        refine Or.inr ⟨⟨_, hName⟩, digits, ?_, rfl⟩
        simpa using hSpells

/- The name of another file tells no file. -/
theorem owner_eq_ok_none_iff
    {path : Path} :
    owner path = .ok none ↔
      ∀ file digits, ¬ Spells path.name.toList file digits := by
  rcases owner_cases path with
    ⟨hNone, hOwner⟩ | ⟨digits, hSpells, hOwner⟩ |
      ⟨file, digits, hSpells, hOwner⟩
  · exact iff_of_true hOwner hNone
  · exact iff_of_false (by simp [hOwner]) (· _ _ hSpells)
  · exact iff_of_false (by simp [hOwner]) (· _ _ hSpells)

/- The name of a backup tells the sibling that it spells. -/
theorem owner_eq_ok_some_iff
    {path original : Path} :
    owner path = .ok (some original) ↔
      ∃ (file : Name) (digits : List Char),
        Spells path.name.toList file.text.toList digits ∧
          original = path.parent.below [file] := by
  rcases owner_cases path with
    ⟨hNone, hOwner⟩ | ⟨digits, hSpells, hOwner⟩ |
      ⟨file, digits, hSpells, hOwner⟩
  · refine iff_of_false (by simp [hOwner]) ?_
    rintro ⟨file, digits, hSpells, _⟩
    exact hNone _ _ hSpells
  · refine iff_of_false (by simp [hOwner]) ?_
    rintro ⟨file, more, hOther, _⟩
    have hDot := (hOther.unique hSpells).1
    exact file.valid.2.1 (String.toList_inj.mp hDot)
  · rw [hOwner]
    constructor
    · intro h
      cases h
      exact ⟨file, digits, hSpells, rfl⟩
    · rintro ⟨other, more, hOther, rfl⟩
      have hSame : file = other := Name.text_injective
        (String.toList_inj.mp (hSpells.unique hOther).1)
      rw [hSame]

/- The one thing that is told and names nothing is a dot. -/
theorem owner_eq_error_iff
    {path : Path}
    {fault : NameFault} :
    owner path = .error fault ↔
      (∃ digits, Spells path.name.toList ['.'] digits) ∧
        fault = .notName "." := by
  rcases owner_cases path with
    ⟨hNone, hOwner⟩ | ⟨digits, hSpells, hOwner⟩ |
      ⟨file, digits, hSpells, hOwner⟩
  · refine iff_of_false (by simp [hOwner]) ?_
    rintro ⟨⟨digits, hSpells⟩, _⟩
    exact hNone _ _ hSpells
  · rw [hOwner]
    constructor
    · intro h
      cases h
      exact ⟨⟨digits, hSpells⟩, rfl⟩
    · rintro ⟨_, rfl⟩
      rfl
  · refine iff_of_false (by simp [hOwner]) ?_
    rintro ⟨⟨more, hOther⟩, _⟩
    have hDot := (hSpells.unique hOther).1
    exact file.valid.2.1 (String.toList_inj.mp hDot)

end Backup

end GradleMigration
