import GradleMigration.Text.Case

/-
  What taking a text in upper case does to the letters from
  `a` to `z`: none of them is left, and of a text in ASCII
  nothing else changes.

  Main declarations:
    * `Text.HasNoLower`, `Text.IsAscii` and `Text.SameLetters`
    * `Text.hasNoLower_upperText`
    * `Text.toList_upperText`
    * `Text.upperText_eq_iff`
-/

------------------------------------------------------------
-- ASCII Letters
------------------------------------------------------------

namespace GradleMigration

namespace Text

/- A text without letters from `a` to `z`. -/
def HasNoLower
    (text : String) : Prop :=
  ∀ c ∈ text.toList, c.isLower = false

instance
    (text : String) : Decidable (HasNoLower text) :=
  List.decidableBAll (fun c : Char => c.isLower = false) _

/- A text in ASCII. -/
def IsAscii
    (text : String) : Prop :=
  ∀ c ∈ text.toList, c.toNat < 0x80

instance
    (text : String) : Decidable (IsAscii text) :=
  List.decidableBAll (fun c : Char => c.toNat < 0x80) _

/- Two texts that differ at most in the case of ASCII letters. -/
def SameLetters
    (a b : String) : Prop :=
  a.toList.map Char.toUpper = b.toList.map Char.toUpper

instance
    (a b : String) : Decidable (SameLetters a b) :=
  inferInstanceAs (Decidable
    (a.toList.map Char.toUpper = b.toList.map Char.toUpper))

/- The letters in lower case stand between two of them. -/
theorem isLower_iff_between
    {c : Char} :
    c.isLower = true ↔ 'a'.val ≤ c.val ∧ c.val ≤ 'z'.val := by
  change (decide ('a'.val ≤ c.val) && decide (c.val ≤ 'z'.val)) =
    true ↔ _
  rw [Bool.and_eq_true, decide_eq_true_eq, decide_eq_true_eq]

theorem isLower_iff
    {c : Char} :
    c.isLower = true ↔ 97 ≤ c.toNat ∧ c.toNat ≤ 122 := by
  rw [isLower_iff_between, UInt32.le_iff_toNat_le,
    UInt32.le_iff_toNat_le]
  rfl

/- Other characters than lower-case letters stay as they are. -/
theorem toUpper_of_not_isLower
    {c : Char}
    (h : c.isLower = false) :
    c.toUpper = c := by
  unfold Char.toUpper
  rw [dif_neg]
  rw [← isLower_iff_between, h]
  exact Bool.false_ne_true

/- No lower-case letter is left. -/
theorem isLower_toUpper
    (c : Char) :
    c.toUpper.isLower = false := by
  cases hLower : c.isLower with
  | false => rw [toUpper_of_not_isLower hLower, hLower]
  | true =>
      have hCodes := isLower_iff.mp hLower
      have hShift : ('A'.val - 'a'.val).toNat = 2 ^ 32 - 32 := rfl
      unfold Char.toUpper
      rw [dif_pos (isLower_iff_between.mp hLower),
        Bool.eq_false_iff, Ne, isLower_iff, ← Char.toNat_val,
        UInt32.toNat_add, hShift, Char.toNat_val]
      omega

/- A text stays as it is where it holds no such letters. -/
theorem map_toUpper_eq_iff
    {text : List Char} :
    text.map Char.toUpper = text ↔
      ∀ c ∈ text, c.isLower = false := by
  constructor
  · intro h c hC
    rw [← h] at hC
    rcases List.mem_map.mp hC with ⟨d, _, rfl⟩
    exact isLower_toUpper d
  · intro h
    exact (List.map_congr_left fun c hC =>
      toUpper_of_not_isLower (h c hC)).trans (List.map_id text)

end Text

end GradleMigration

------------------------------------------------------------
-- Upper Case
------------------------------------------------------------

namespace GradleMigration

namespace Text

/- No shift leads to an ASCII letter in lower case. -/
theorem upperShifts_apart :
    ∀ shift ∈ upperShifts,
      shift.last + shift.delta < 97 ∨
        122 < shift.first + shift.delta := by
  decide +kernel

/- No expansion holds an ASCII letter in lower case. -/
theorem upperExpansions_apart :
    ∀ pair ∈ upperExpansions, ∀ code ∈ pair.2,
      (Char.ofNat code).isLower = false := by
  decide +kernel

/- The character with a code is in lower case as the code is. -/
theorem isLower_ofNat
    {code : Nat}
    (h : code < 97 ∨ 122 < code) :
    (Char.ofNat code).isLower = false := by
  unfold Char.ofNat
  by_cases hValid : code.isValidChar
  · rw [dif_pos hValid, Bool.eq_false_iff, Ne, isLower_iff]
    change ¬ (97 ≤ code ∧ code ≤ 122)
    omega
  · rw [dif_neg hValid]
    rfl

theorem isLower_shiftCode
    {code : Nat}
    (h : 128 ≤ code) :
    (Char.ofNat (shiftCode upperShifts code)).isLower =
      false := by
  apply isLower_ofNat
  unfold shiftCode
  cases hFind : upperShifts.find? (·.moves code) with
  | none =>
      simp only
      omega
  | some shift =>
      have hMoves := List.find?_some hFind
      have hApart := upperShifts_apart shift
        (List.mem_of_find?_eq_some hFind)
      simp only [CaseShift.moves, Bool.and_eq_true,
        decide_eq_true_eq] at hMoves
      simp only
      omega

/- What a character becomes in upper case has no such letter. -/
theorem isLower_of_mem_upper
    {c d : Char}
    (h : d ∈ upper c) :
    d.isLower = false := by
  unfold upper at h
  split at h
  · rw [List.mem_singleton.mp h]
    exact isLower_toUpper c
  · next hHigh =>
      split at h
      · next codes hCodes =>
          rcases List.mem_map.mp h with ⟨code, hCode, rfl⟩
          rcases List.lookup_eq_some_iff.mp hCodes with
            ⟨front, back, hSplit, _⟩
          exact upperExpansions_apart (c.toNat, codes)
            (by simp [hSplit]) code hCode
      · rw [List.mem_singleton.mp h]
        exact isLower_shiftCode (Nat.le_of_not_lt hHigh)

/- Nothing in upper case holds an ASCII letter in lower case. -/
theorem hasNoLower_upperText
    (text : String) :
    HasNoLower (upperText text) := by
  intro c hC
  unfold upperText at hC
  rw [String.toList_ofList] at hC
  rcases List.mem_flatMap.mp hC with ⟨d, _, hUpper⟩
  exact isLower_of_mem_upper hUpper

theorem flatMap_upper
    {text : List Char}
    (h : ∀ c ∈ text, c.toNat < 0x80) :
    text.flatMap upper = text.map Char.toUpper := by
  induction text with
  | nil => rfl
  | cons c rest ih =>
      have hFirst : upper c = [c.toUpper] := by
        unfold upper
        rw [if_pos (h c List.mem_cons_self)]
      rw [List.flatMap_cons, hFirst, List.map_cons,
        ih fun d hD => h d (List.mem_cons_of_mem _ hD)]
      rfl

/- A text in ASCII becomes upper case letter by letter. -/
theorem toList_upperText
    {text : String}
    (h : IsAscii text) :
    (upperText text).toList = text.toList.map Char.toUpper := by
  unfold upperText
  rw [String.toList_ofList, flatMap_upper h]

/-
  Which texts in ASCII become a text in upper case: those with
  the same letters, if it holds none in lower case.
-/
theorem upperText_eq_iff
    {text wanted : String}
    (h : IsAscii text) :
    upperText text = wanted ↔
      SameLetters text wanted ∧ HasNoLower wanted := by
  rw [← String.toList_inj, toList_upperText h]
  constructor
  · intro hEq
    have hNone : HasNoLower wanted := by
      intro c hC
      rw [← hEq] at hC
      rcases List.mem_map.mp hC with ⟨d, _, rfl⟩
      exact isLower_toUpper d
    refine ⟨?_, hNone⟩
    unfold SameLetters
    rw [hEq, map_toUpper_eq_iff.mpr hNone]
  · rintro ⟨hSame, hNone⟩
    rw [hSame]
    exact map_toUpper_eq_iff.mpr hNone

end Text

end GradleMigration
