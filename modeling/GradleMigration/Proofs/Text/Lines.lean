import GradleMigration.Proofs.Pattern.WholeLines

/-
  Texts line by line.

  A text is its last line, or a line with a line feed and the
  text behind it.  The line around a span is the one with the
  number of the span.

  Main declarations:
    * `Text.splitOn_last` and `Text.splitOn_line`
    * `Text.linewise` and `Text.frontwise`
    * `Text.drop_splitOn` and `Text.take_splitOn`
    * `Text.getElem?_splitOn`
    * `Text.getElem?_splitOn_lineOf`
-/

------------------------------------------------------------
-- One Line After Another
------------------------------------------------------------

namespace GradleMigration

namespace Text

/- No character of a text is the one that it does not have. -/
theorem beq_false_of_not_mem
    {c : Char}
    {text : List Char}
    (h : c ∉ text) :
    ∀ d ∈ text, (d == c) = false := by
  intro d hD
  apply beq_false_of_ne
  intro hEq
  subst hEq
  exact h hD

/- A text without a line feed is one line. -/
theorem splitOn_last
    {line : List Char}
    (h : '\n' ∉ line) :
    line.splitOn '\n' = [line] := by
  rw [List.splitOn_eq_splitOnP]
  exact List.splitOnP_eq_singleton (beq_false_of_not_mem h)

/- Behind the first line are the others. -/
theorem splitOn_line
    {line : List Char}
    (h : '\n' ∉ line)
    (rest : List Char) :
    (line ++ '\n' :: rest).splitOn '\n' =
      line :: rest.splitOn '\n' := by
  simp only [List.splitOn_eq_splitOnP]
  exact List.splitOnP_append_cons_of_forall_mem
    (beq_false_of_not_mem h) '\n' (by decide) rest

/- What holds of every text is shown from line to line. -/
@[elab_as_elim]
theorem linewise
    {motive : List Char → Prop}
    (last : ∀ line, '\n' ∉ line → motive line)
    (line : ∀ line rest, '\n' ∉ line → motive rest →
      motive (line ++ '\n' :: rest))
    (text : List Char) :
    motive text := by
  induction hLength : text.length using Nat.strongRecOn
    generalizing text with
  | _ n ih =>
      subst hLength
      by_cases hFeed : '\n' ∈ text
      · rcases List.eq_append_cons_of_mem hFeed with
          ⟨first, rest, hText, hFirst⟩
        subst hText
        have hShort :
            rest.length < (first ++ '\n' :: rest).length := by
          rw [List.length_append, List.length_cons]
          omega
        exact line first rest hFirst (ih _ hShort rest rfl)
      · exact last text hFeed

end Text

end GradleMigration

------------------------------------------------------------
-- Whole Lines in a List of Lines
------------------------------------------------------------

namespace GradleMigration

namespace Text

/- The line feeds of a line with its end. -/
theorem count_line
    {line : List Char}
    (h : '\n' ∉ line)
    (rest : List Char) :
    (line ++ '\n' :: rest).count '\n' =
      rest.count '\n' + 1 := by
  rw [List.count_append, List.count_eq_zero.mpr h,
    List.count_cons_self, Nat.zero_add]

/- There is one line more than there are line feeds. -/
theorem length_splitOn
    (text : List Char) :
    (text.splitOn '\n').length = text.count '\n' + 1 := by
  induction text using linewise with
  | last line hLine =>
      rw [splitOn_last hLine, List.count_eq_zero.mpr hLine]
      rfl
  | line line rest hLine ih =>
      rw [splitOn_line hLine, List.length_cons, ih,
        count_line hLine]

/-
  What holds of every text that ends with a line feed, if
  there is anything in it, is shown from line to line.
-/
theorem frontwise
    {motive : List Char → Prop}
    (nil : motive [])
    (line : ∀ line rest, '\n' ∉ line → motive rest →
      motive (line ++ '\n' :: rest))
    {front : List Char}
    (hFront : front = [] ∨ front.getLast? = some '\n') :
    motive front := by
  induction front using linewise with
  | last front hFeed =>
      rcases hFront with hNil | hEnd
      · exact hNil ▸ nil
      · exact absurd (List.mem_of_getLast? hEnd) hFeed
  | line first rest hFirst ih =>
      apply line first rest hFirst
      apply ih
      cases rest with
      | nil => exact Or.inl rfl
      | cons c more =>
          right
          rcases hFront with hNil | hEnd
          · simp at hNil
          · simpa [List.getLast?_append] using hEnd

/- Behind whole lines are the lines of the rest. -/
theorem drop_splitOn
    {front : List Char}
    (hFront : front = [] ∨ front.getLast? = some '\n')
    (text : List Char) :
    ((front ++ text).splitOn '\n').drop (front.count '\n') =
      text.splitOn '\n' := by
  apply frontwise (motive := fun front =>
    ((front ++ text).splitOn '\n').drop (front.count '\n') =
      text.splitOn '\n') rfl ?_ hFront
  intro line rest hLine ih
  rw [List.append_assoc, List.cons_append, splitOn_line hLine,
    count_line hLine, List.drop_succ_cons, ih]

/- Before whole lines are the lines of the text before them. -/
theorem take_splitOn
    (text : List Char)
    {behind : List Char}
    (hBehind : behind = [] ∨ behind.head? = some '\n') :
    ((text ++ behind).splitOn '\n').take
        (text.count '\n' + 1) =
      text.splitOn '\n' := by
  induction text using linewise with
  | last line hLine =>
      rw [List.count_eq_zero.mpr hLine, splitOn_last hLine]
      rcases hBehind with hNil | hStart
      · rw [hNil, List.append_nil, splitOn_last hLine]
        rfl
      · rcases List.head?_eq_some_iff.mp hStart with
          ⟨rest, hRest⟩
        rw [hRest, splitOn_line hLine]
        rfl
  | line line rest hLine ih =>
      rw [List.append_assoc, List.cons_append,
        splitOn_line hLine, splitOn_line hLine,
        count_line hLine, List.take_succ_cons, ih]

/- A whole line is numbered by the line feeds before it. -/
theorem getElem?_splitOn
    {front line behind : List Char}
    (hLines : WholeLines front behind)
    (hLine : '\n' ∉ line) :
    ((front ++ (line ++ behind)).splitOn '\n')[
      front.count '\n']? = some line := by
  have hFirst := take_splitOn line hLines.behind_start
  rw [List.count_eq_zero.mpr hLine, splitOn_last hLine]
    at hFirst
  rw [← List.head?_drop, drop_splitOn hLines.front_end]
  simpa [List.head?_take] using congrArg List.head? hFirst

end Text

end GradleMigration

------------------------------------------------------------
-- The Lines of a Span
------------------------------------------------------------

namespace GradleMigration

namespace Text

/- The span of a text between two offsets. -/
theorem exists_span
    {content : List Char}
    {start stop : Nat}
    (hSpan : start ≤ stop)
    (hInside : stop ≤ content.length) :
    ∃ front behind,
      content = front ++ (slice content start stop ++ behind) ∧
        start = front.length ∧
          stop = front.length +
            (slice content start stop).length := by
  refine ⟨content.take start, content.drop stop, ?_, ?_, ?_⟩
  · have hBehind : content.drop stop =
        (content.drop start).drop (stop - start) := by
      rw [List.drop_drop, Nat.add_sub_cancel' hSpan]
    rw [slice, hBehind, List.take_append_drop,
      List.take_append_drop]
  · rw [List.length_take]
    omega
  · rw [slice, List.length_take, List.length_take,
      List.length_drop]
    omega

/- A text is the rest of a line, and whole lines behind it. -/
theorem exists_takeWhile
    (text : List Char) :
    ∃ line rest, text = line ++ rest ∧
      text.takeWhile (· != '\n') = line ∧ '\n' ∉ line ∧
        (rest = [] ∨ rest.head? = some '\n') := by
  refine ⟨_, _, List.takeWhile_append_dropWhile.symm, rfl, ?_,
    head?_dropWhile_ne '\n' text⟩
  intro hIn
  have hTest := List.all_eq_true.mp
    (List.all_takeWhile (p := (· != '\n')) (l := text)) _ hIn
  simp at hTest

/-
  The lines around a span: what is before it in its first
  line, the span, and what is behind it in its last one.
-/
theorem exists_lineOf
    (front middle behind : List Char) :
    ∃ head left right tail,
      front = head ++ left ∧ '\n' ∉ left ∧
        behind = right ++ tail ∧ '\n' ∉ right ∧
          WholeLines head tail ∧
            lineOf (front ++ (middle ++ behind)) front.length
                (front.length + middle.length) =
              left ++ (middle ++ right) := by
  rcases exists_takeWhile front.reverse with
    ⟨left, head, hReverse, hTaken, hLeft, hHead⟩
  rcases exists_takeWhile behind with
    ⟨right, tail, hBehind, hPassed, hRight, hTail⟩
  have hFront : front = head.reverse ++ left.reverse := by
    rw [← List.reverse_append, ← hReverse,
      List.reverse_reverse]
  have hLines : WholeLines head.reverse tail := by
    refine ⟨?_, hTail⟩
    rw [List.getLast?_reverse, List.reverse_eq_nil_iff]
    exact hHead
  have hFeed : '\n' ∉ left.reverse := by
    rwa [List.mem_reverse]
  refine ⟨head.reverse, left.reverse, right, tail, hFront,
    hFeed, hBehind, hRight, hLines, ?_⟩
  have hLength := congrArg List.length hFront
  rw [List.length_append, List.length_reverse,
    List.length_reverse] at hLength
  have hStart :
      lineStart (front ++ (middle ++ behind)) front.length =
        head.length := by
    unfold lineStart
    simp only [List.take_left, hTaken]
    omega
  have hStop :
      lineStop (front ++ (middle ++ behind))
          (front.length + middle.length) - head.length =
        (left.reverse ++ (middle ++ right)).length := by
    unfold lineStop
    rw [← List.drop_drop, List.drop_left, List.drop_left,
      hPassed, List.length_append, List.length_append,
      List.length_reverse]
    omega
  have hContent : front ++ (middle ++ behind) =
      head.reverse ++
        ((left.reverse ++ (middle ++ right)) ++ tail) := by
    rw [hFront, hBehind]
    simp only [List.append_assoc]
  unfold lineOf slice
  rw [hStart, hStop, hContent, List.drop_left' (by simp),
    List.take_left]

/- The line around a span inside of it. -/
theorem getElem?_splitOn_lineOf
    (front : List Char)
    {middle : List Char}
    (hMiddle : '\n' ∉ middle)
    (behind : List Char) :
    ((front ++ (middle ++ behind)).splitOn '\n')[
        front.count '\n']? =
      some (lineOf (front ++ (middle ++ behind)) front.length
        (front.length + middle.length)) := by
  rcases exists_lineOf front middle behind with
    ⟨head, left, right, tail, hFront, hLeft, hBehind, hRight,
      hLines, hLineOf⟩
  have hLine : '\n' ∉ left ++ (middle ++ right) := by
    simp [hLeft, hMiddle, hRight]
  have hCount : front.count '\n' = head.count '\n' := by
    rw [hFront, List.count_append,
      List.count_eq_zero.mpr hLeft, Nat.add_zero]
  have hContent : front ++ (middle ++ behind) =
      head ++ ((left ++ (middle ++ right)) ++ tail) := by
    rw [hFront, hBehind]
    simp only [List.append_assoc]
  rw [hLineOf, hCount, hContent]
  exact getElem?_splitOn hLines hLine

end Text

end GradleMigration
