import GradleMigration.Proofs.Text.Lines

/-
  Marks in a text: given texts whose first character is not in
  the rest of them, so that no two marks share characters.

  A mark that is neither in front of a place nor behind it
  stands at that place only.

  Main declarations:
    * `Text.marks_apart`
    * `Text.place_of_mark`
    * `Text.not_infix_of_not_mem`
    * `Text.not_infix_of_pair`
    * `Text.lineOf_of_meets`
-/

------------------------------------------------------------
-- Where a Mark Stands
------------------------------------------------------------

namespace GradleMigration

namespace Text

variable {c : Char} {more : List Char}

/- Of two marks one is behind the other. -/
theorem marks_apart
    (hC : c ∉ more)
    {gap u v : List Char}
    (h : (c :: more) ++ u = gap ++ ((c :: more) ++ v)) :
    gap = [] ∨
      ∃ between, gap = (c :: more) ++ between ∧
        u = between ++ ((c :: more) ++ v) := by
  rcases List.append_eq_append_iff.mp h with
    hBehind | ⟨shared, hMark, hV⟩
  · exact Or.inr hBehind
  · cases gap with
    | nil => exact Or.inl rfl
    | cons d gap =>
        cases shared with
        | nil =>
            refine Or.inr ⟨[], ?_, hV.symm⟩
            rw [List.append_nil] at hMark ⊢
            exact hMark.symm
        | cons e shared =>
            -- The second mark would start inside of the first.
            rw [List.cons_append, List.cons.injEq] at hMark
            rw [List.cons_append, List.cons_append,
              List.cons.injEq] at hV
            refine absurd ?_ hC
            rw [hMark.2, hV.1]
            simp

/- A mark that is nowhere else stands at one place. -/
theorem place_of_mark
    (hC : c ∉ more)
    {a b front rest : List Char}
    (hA : ¬ (c :: more) <:+: a)
    (hB : ¬ (c :: more) <:+: b)
    (h : a ++ ((c :: more) ++ b) =
      front ++ ((c :: more) ++ rest)) :
    front = a ∧ rest = b := by
  rcases List.append_eq_append_iff.mp h with
    ⟨gap, hFront, hMarks⟩ | ⟨gap, hFront, hMarks⟩
  · rcases marks_apart hC hMarks with
      hNil | ⟨between, _, hBehind⟩
    · subst hNil
      rw [List.append_nil] at hFront
      exact ⟨hFront, (List.append_cancel_left hMarks).symm⟩
    · refine absurd ⟨between, rest, ?_⟩ hB
      rw [hBehind, List.append_assoc]
  · rcases marks_apart hC hMarks with
      hNil | ⟨between, hGap, _⟩
    · subst hNil
      rw [List.append_nil] at hFront
      exact ⟨hFront.symm, List.append_cancel_left hMarks⟩
    · refine absurd ⟨front, between, ?_⟩ hA
      rw [hFront, hGap, List.append_assoc]

/- No mark starts in a text without its first character. -/
theorem not_infix_of_not_mem
    {text rest : List Char}
    (hC : c ∉ text)
    (h : ¬ (c :: more) <:+: rest) :
    ¬ (c :: more) <:+: text ++ rest := by
  induction text with
  | nil => exact h
  | cons d others ih =>
      rw [List.mem_cons, not_or] at hC
      rw [List.cons_append, List.infix_cons_iff, not_or]
      refine ⟨?_, ih hC.2⟩
      intro hPrefix
      exact hC.1 (List.cons_prefix_cons.mp hPrefix).1

/-
  No mark goes across the start of two characters if it does
  not end with the first one and does not hold the second.
-/
theorem not_infix_of_pair
    {mark front rest : List Char}
    {d e : Char}
    (hFront : ¬ mark <:+: front)
    (hRest : ¬ mark <:+: d :: e :: rest)
    (hLast : mark.getLast? ≠ some d)
    (hSecond : e ∉ mark) :
    ¬ mark <:+: front ++ (d :: e :: rest) := by
  rintro ⟨left, right, hSplit⟩
  rw [List.append_assoc] at hSplit
  rcases List.append_eq_append_iff.mp hSplit with
    ⟨inner, hLeft, hMark⟩ | ⟨inner, _, hMark⟩
  · rcases List.append_eq_append_iff.mp hMark with
      ⟨gap, hInner, _⟩ | ⟨shared, hInner, hShared⟩
    · refine hFront ⟨left, gap, ?_⟩
      rw [hLeft, hInner, List.append_assoc]
    · match shared with
      | [] =>
          refine hFront ⟨left, [], ?_⟩
          rw [hLeft, hInner]
          simp
      | [last] =>
          rw [List.singleton_append, List.cons.injEq] at hShared
          apply hLast
          rw [hInner, hShared.1, List.getLast?_concat]
      | first :: second :: others =>
          rw [List.cons_append, List.cons_append,
            List.cons.injEq, List.cons.injEq] at hShared
          apply hSecond
          rw [hInner, hShared.2.1]
          simp
  · exact hRest ⟨inner, right, by
      rw [List.append_assoc, hMark]⟩

end Text

end GradleMigration

------------------------------------------------------------
-- The Line around a Text
------------------------------------------------------------

namespace GradleMigration

namespace Text

/- A text without line feeds is in one line. -/
theorem takeWhile_append_inLine
    {word : List Char}
    (h : '\n' ∉ word)
    (rest : List Char) :
    (word ++ rest).takeWhile (· != '\n') =
      word ++ rest.takeWhile (· != '\n') := by
  apply List.takeWhile_append_of_pos
  intro c hC
  have hNe : c ≠ '\n' := fun hEq => h (hEq ▸ hC)
  simpa using hNe

/- The line of a place in such a text starts in front of it. -/
theorem lineStart_le_of_inLine
    (before : List Char)
    {word : List Char}
    (hWord : '\n' ∉ word)
    (after : List Char)
    {start : Nat}
    (h : start ≤ before.length + word.length) :
    lineStart (before ++ (word ++ after)) start ≤
      before.length := by
  by_cases hFront : start ≤ before.length
  · exact Nat.le_trans (lineStart_le _ _) hFront
  · have hTake : (before ++ (word ++ after)).take start =
        before ++ word.take (start - before.length) := by
      rw [List.take_append, List.take_of_length_le (by omega),
        List.take_append_of_le_length (by omega)]
    have hFeed :
        '\n' ∉ (word.take (start - before.length)).reverse :=
      fun hIn => hWord
        (List.mem_of_mem_take (List.mem_reverse.mp hIn))
    unfold lineStart
    simp only [hTake, List.reverse_append,
      takeWhile_append_inLine hFeed, List.length_append,
      List.length_reverse, List.length_take]
    omega

/- It ends behind such a text. -/
theorem le_lineStop_of_inLine
    (before : List Char)
    {word : List Char}
    (hWord : '\n' ∉ word)
    (after : List Char)
    {stop : Nat}
    (h : before.length ≤ stop) :
    before.length + word.length ≤
      lineStop (before ++ (word ++ after)) stop := by
  by_cases hBehind : before.length + word.length ≤ stop
  · exact Nat.le_trans hBehind (Nat.le_add_right _ _)
  · have hDrop : (before ++ (word ++ after)).drop stop =
        word.drop (stop - before.length) ++ after := by
      rw [List.drop_append, List.drop_eq_nil_of_le h,
        List.nil_append,
        List.drop_append_of_le_length (by omega)]
    have hFeed : '\n' ∉ word.drop (stop - before.length) :=
      fun hIn => hWord (List.mem_of_mem_drop hIn)
    unfold lineStop
    rw [hDrop, takeWhile_append_inLine hFeed,
      List.length_append, List.length_drop]
    omega

/-
  The lines that a span meets hold all of a text without line
  feeds that it meets.
-/
theorem lineOf_of_meets
    (before : List Char)
    {word : List Char}
    (hWord : '\n' ∉ word)
    (after : List Char)
    {start stop : Nat}
    (hStart : start ≤ before.length + word.length)
    (hStop : before.length ≤ stop) :
    ∃ head left right tail,
      before = head ++ left ∧ after = right ++ tail ∧
        lineOf (before ++ (word ++ after)) start stop =
          left ++ (word ++ right) := by
  have hFirst :=
    lineStart_le_of_inLine before hWord after hStart
  have hLast := le_lineStop_of_inLine before hWord after hStop
  unfold lineOf slice
  generalize lineStart (before ++ (word ++ after)) start = first
    at hFirst ⊢
  generalize lineStop (before ++ (word ++ after)) stop = last
    at hLast ⊢
  refine ⟨before.take first, before.drop first,
    after.take (last - (before.length + word.length)),
    after.drop (last - (before.length + word.length)),
    (List.take_append_drop _ _).symm,
    (List.take_append_drop _ _).symm, ?_⟩
  have hLeft : (before.drop first).length ≤ last - first := by
    rw [List.length_drop]
    omega
  have hInner :
      word.length ≤ last - first - (before.drop first).length := by
    rw [List.length_drop]
    omega
  have hRight :
      last - first - (before.drop first).length - word.length =
        last - (before.length + word.length) := by
    rw [List.length_drop]
    omega
  rw [List.drop_append_of_le_length hFirst, List.take_append,
    List.take_of_length_le hLeft, List.take_append,
    List.take_of_length_le hInner, hRight]

end Text

end GradleMigration
