import GradleMigration.Proofs.Scan.Origin
import GradleMigration.Proofs.Text.Lines

/-
  The lines that a finding shows, and the number it gives them.

  The lines around a span are looked for from its ends, and the
  number of a line is counted from the start of the text.  Both
  mean the same lines of the text.

  Main declarations:
    * `Text.lineOffset` and `Text.column`
    * `Text.Shows`
    * `Text.shows_lineOf`
    * `Rule.context_and_number`
-/

------------------------------------------------------------
-- Offsets of Lines
------------------------------------------------------------

namespace GradleMigration

namespace Text

/- How many lines end before an offset. -/
def linesBefore
    (content : List Char)
    (offset : Nat) : Nat :=
  (content.take offset).count '\n'

/- The offset at which the line with a number begins. -/
def lineOffset
    (content : List Char)
    (number : Nat) : Nat :=
  (((content.splitOn '\n').take number).flatMap fun line =>
    line ++ ['\n']).length

/- How far an offset is from the beginning of its line. -/
def column
    (content : List Char)
    (offset : Nat) : Nat :=
  offset - lineOffset content (linesBefore content offset)

/- Behind whole lines a line begins. -/
theorem lineOffset_of_front
    {front : List Char}
    (hFront : front = [] ∨ front.getLast? = some '\n')
    (text : List Char) :
    lineOffset (front ++ text) (front.count '\n') =
      front.length := by
  apply frontwise (motive := fun front =>
    lineOffset (front ++ text) (front.count '\n') =
      front.length) rfl ?_ hFront
  intro line rest hLine ih
  unfold lineOffset at ih ⊢
  rw [List.append_assoc, List.cons_append, splitOn_line hLine,
    count_line hLine, List.take_succ_cons, List.flatMap_cons,
    List.length_append, ih]
  simp only [List.length_append, List.length_cons,
    List.length_nil]
  omega

/- A span is of a number of lines that end before it. -/
theorem linesBefore_front
    (front rest : List Char) :
    linesBefore (front ++ rest) front.length =
      front.count '\n' := by
  rw [linesBefore, List.take_left]

/- The first line holds what is before the first line feed. -/
theorem exists_head_splitOn
    {left : List Char}
    (hLeft : '\n' ∉ left)
    (rest : List Char) :
    ∃ line, ((left ++ rest).splitOn '\n').head? = some line ∧
      left.length ≤ line.length := by
  rcases exists_takeWhile rest with
    ⟨more, behind, hRest, _, hMore, hBehind⟩
  have hLine : '\n' ∉ left ++ more := by
    simp [hLeft, hMore]
  have hFirst := take_splitOn (left ++ more) hBehind
  rw [List.count_eq_zero.mpr hLine, splitOn_last hLine,
    List.append_assoc, ← hRest] at hFirst
  refine ⟨left ++ more, ?_, ?_⟩
  · simpa [List.head?_take] using congrArg List.head? hFirst
  · rw [List.length_append]
    omega

end Text

end GradleMigration

------------------------------------------------------------
-- Lines Around Spans
------------------------------------------------------------

namespace GradleMigration

namespace Text

/-
  A context shows the lines of a span: all the lines from the
  one that the span begins in to the one that it ends in, with
  the span at its place in the first of them.
-/
structure Shows
    (content : List Char)
    (start stop : Nat)
    (context : List Char) : Prop where
  ordered :
    linesBefore content start ≤ linesBefore content stop
  present :
    linesBefore content stop < (content.splitOn '\n').length
  lines :
    context.splitOn '\n' =
      (content.splitOn '\n').extract
        (linesBefore content start)
        (linesBefore content stop + 1)
  joined :
    context =
      ['\n'].intercalate
        ((content.splitOn '\n').extract
          (linesBefore content start)
          (linesBefore content stop + 1))
  first :
    ∃ line,
      (content.splitOn '\n')[linesBefore content start]? =
          some line ∧
        (context.splitOn '\n').head? = some line ∧
          column content start ≤ line.length
  offset :
    start =
      lineOffset content (linesBefore content start) +
        column content start
  holds :
    slice context (column content start)
        (column content start + (stop - start)) =
      slice content start stop

/-
  The parts of a text around a span: whole lines before and
  behind it, and what else its own lines hold.
-/
structure SpanParts
    (content : List Char)
    (start stop : Nat)
    (head left middle right tail : List Char) : Prop where
  whole :
    content = head ++ (left ++ (middle ++ right) ++ tail)
  start_eq : start = (head ++ left).length
  stop_eq : stop = (head ++ left ++ middle).length
  lines : WholeLines head tail
  left_line : '\n' ∉ left
  right_line : '\n' ∉ right

/- Every span has such parts, and its lines are in between. -/
theorem exists_spanParts
    {content : List Char}
    {start stop : Nat}
    (hSpan : start ≤ stop)
    (hInside : stop ≤ content.length) :
    ∃ head left middle right tail,
      SpanParts content start stop head left middle right
          tail ∧
        lineOf content start stop =
          left ++ (middle ++ right) := by
  rcases exists_span hSpan hInside with
    ⟨front, behind, hContent, hStart, hStop⟩
  generalize slice content start stop = middle at hContent hStop
  rcases exists_lineOf front middle behind with
    ⟨head, left, right, tail, hFront, hLeft, hBehind, hRight,
      hLines, hLineOf⟩
  rw [← hContent, ← hStop, ← hStart] at hLineOf
  refine ⟨head, left, middle, right, tail,
    { whole := ?_
      start_eq := ?_
      stop_eq := ?_
      lines := hLines
      left_line := hLeft
      right_line := hRight }, hLineOf⟩
  · rw [hContent, hFront, hBehind]
    simp only [List.append_assoc]
  · rw [hStart, hFront]
  · rw [hStop, hFront, ← List.length_append]

namespace SpanParts

variable {content head left middle right tail : List Char}
variable {start stop : Nat}

/- The span begins in the line behind the whole lines. -/
theorem linesBefore_start
    (h : SpanParts content start stop head left middle right
      tail) :
    linesBefore content start = head.count '\n' := by
  have hSplit : content =
      (head ++ left) ++ (middle ++ right ++ tail) := by
    rw [h.whole]
    simp only [List.append_assoc]
  rw [hSplit, h.start_eq, linesBefore_front, List.count_append,
    List.count_eq_zero.mpr h.left_line, Nat.add_zero]

/- The span ends as many lines later as end in it. -/
theorem linesBefore_stop
    (h : SpanParts content start stop head left middle right
      tail) :
    linesBefore content stop =
      head.count '\n' + middle.count '\n' := by
  have hSplit : content =
      (head ++ left ++ middle) ++ (right ++ tail) := by
    rw [h.whole]
    simp only [List.append_assoc]
  rw [hSplit, h.stop_eq, linesBefore_front, List.count_append,
    List.count_append, List.count_eq_zero.mpr h.left_line,
    Nat.add_zero]

/- The lines of the span begin behind the whole lines. -/
theorem lineOffset_start
    (h : SpanParts content start stop head left middle right
      tail) :
    lineOffset content (linesBefore content start) =
      head.length := by
  rw [h.linesBefore_start, h.whole,
    lineOffset_of_front h.lines.front_end]

/- The span begins behind what is before it in its line. -/
theorem column_start
    (h : SpanParts content start stop head left middle right
      tail) :
    column content start = left.length := by
  rw [column, h.lineOffset_start, h.start_eq,
    List.length_append, Nat.add_sub_cancel_left]

/- From the line of the span on there are its own lines. -/
theorem drop_start
    (h : SpanParts content start stop head left middle right
      tail) :
    (content.splitOn '\n').drop (linesBefore content start) =
      (left ++ (middle ++ right) ++ tail).splitOn '\n' := by
  rw [h.linesBefore_start, h.whole,
    drop_splitOn h.lines.front_end]

/- The line that the span begins in reaches up to it. -/
theorem exists_line
    (h : SpanParts content start stop head left middle right
      tail) :
    ∃ line,
      (content.splitOn '\n')[linesBefore content start]? =
          some line ∧
        column content start ≤ line.length := by
  rcases exists_head_splitOn h.left_line
      (middle ++ right ++ tail) with ⟨line, hFirst, hLeft⟩
  refine ⟨line, ?_, ?_⟩
  · rw [← List.head?_drop, h.drop_start, ← hFirst]
    simp only [List.append_assoc]
  · rw [h.column_start]
    exact hLeft

/- The lines of the span are those between the whole lines. -/
theorem extract_splitOn
    (h : SpanParts content start stop head left middle right
      tail) :
    (content.splitOn '\n').extract
        (linesBefore content start)
        (linesBefore content stop + 1) =
      (left ++ (middle ++ right)).splitOn '\n' := by
  have hBlock : (left ++ (middle ++ right)).count '\n' =
      middle.count '\n' := by
    rw [List.count_append, List.count_append,
      List.count_eq_zero.mpr h.left_line,
      List.count_eq_zero.mpr h.right_line, Nat.zero_add,
      Nat.add_zero]
  have hCount : linesBefore content stop + 1 -
      linesBefore content start =
        (left ++ (middle ++ right)).count '\n' + 1 := by
    rw [h.linesBefore_start, h.linesBefore_stop, hBlock]
    omega
  rw [List.extract_eq_take_drop, hCount, h.drop_start,
    take_splitOn _ h.lines.behind_start]

/- The span ends in a line of the text. -/
theorem linesBefore_stop_lt
    (h : SpanParts content start stop head left middle right
      tail) :
    linesBefore content stop <
      (content.splitOn '\n').length := by
  rw [length_splitOn, h.linesBefore_stop, h.whole]
  simp only [List.count_append]
  omega

/- The text of the span is the same in its lines. -/
theorem slice_context
    (h : SpanParts content start stop head left middle right
      tail) :
    slice (left ++ (middle ++ right)) (column content start)
        (column content start + (stop - start)) =
      slice content start stop := by
  have hLength : stop - start = middle.length := by
    rw [h.start_eq, h.stop_eq, List.length_append,
      Nat.add_sub_cancel_left]
  have hSplit : content =
      (head ++ left) ++ (middle ++ (right ++ tail)) := by
    rw [h.whole]
    simp only [List.append_assoc]
  have hHere : slice content start stop = middle := by
    rw [slice, hLength, hSplit, h.start_eq, List.drop_left,
      List.take_left]
  rw [hHere, slice, Nat.add_sub_cancel_left, hLength,
    h.column_start, List.drop_left, List.take_left]

end SpanParts

/- The lines around a span show it. -/
theorem shows_lineOf
    {content : List Char}
    {start stop : Nat}
    (hSpan : start ≤ stop)
    (hInside : stop ≤ content.length) :
    Shows content start stop
      (lineOf content start stop) := by
  rcases exists_spanParts hSpan hInside with
    ⟨head, left, middle, right, tail, hParts, hLineOf⟩
  have hOrdered :
      linesBefore content start ≤ linesBefore content stop := by
    rw [hParts.linesBefore_start, hParts.linesBefore_stop]
    omega
  have hLines : (lineOf content start stop).splitOn '\n' =
      (content.splitOn '\n').extract
        (linesBefore content start)
        (linesBefore content stop + 1) := by
    rw [hLineOf, hParts.extract_splitOn]
  rcases hParts.exists_line with ⟨line, hLine, hColumn⟩
  refine
    { ordered := hOrdered
      present := hParts.linesBefore_stop_lt
      lines := hLines
      joined := ?_
      first := ⟨line, hLine, ?_, hColumn⟩
      offset := ?_
      holds := ?_ }
  · rw [← hLines, List.intercalate_splitOn]
  · rw [hLines, List.extract_eq_take_drop, List.head?_take,
      if_neg (by omega), List.head?_drop, hLine]
  · rw [hParts.lineOffset_start, hParts.column_start,
      ← List.length_append]
    exact hParts.start_eq
  · rw [hLineOf]
    exact hParts.slice_context

end Text

end GradleMigration

------------------------------------------------------------
-- Findings
------------------------------------------------------------

namespace GradleMigration

namespace Rule

/-
  The context of a match shows its lines, and the number that
  an occurrence at its offset is given is the one of the
  first of them.
-/
theorem context_and_number
    {content : List Char}
    {start stop : Nat}
    (hSpan : start ≤ stop)
    (hInside : stop ≤ content.length) :
    Text.Shows content start stop
        (Text.lineOf content start stop) ∧
      ∀ (rule : Rule) place hit found,
        hit.start = start →
        rule.occurrence place content hit = .ok found →
          found.line =
            ((Text.linesBefore content start + 1 : Nat) :
              Int) := by
  refine ⟨Text.shows_lineOf hSpan hInside, ?_⟩
  intro rule place hit found hStart hFound
  rw [(line_of_occurrence hFound).1, hStart]
  rfl

/- A rule for a letter at the end of a line. -/
def lineEndRule : Rule where
  id := "LINE_END"
  pattern :=
    { source := "c\n"
      pattern := .seq (.one ⟨false, [.char 'c'], .exact⟩)
        (.one ⟨false, [.char '\n'], .exact⟩)
      groupCount := 0
      groupNames := [] }
  severity := .low
  title := "Line end"
  description := "A letter at the end of a line."
  autoFixable := true
  explanation := none
  kind := .substitution
  substitutions := []

/- A script in which a match takes the end of its line. -/
def lineEndScript : List Char :=
  "a\nbc\nd\n".toList

theorem context_and_number_in_lineEndScript :
    3 ≤ 5 ∧ 5 ≤ lineEndScript.length ∧
      lineEndRule.hits lineEndScript =
        [⟨3, "c\n".toList, []⟩] ∧
      Text.lineOf lineEndScript 3 5 = "bc\nd".toList ∧
      Text.column lineEndScript 3 = 1 ∧
      Text.Shows lineEndScript 3 5
        (Text.lineOf lineEndScript 3 5) ∧
      ∃ found,
        lineEndRule.occurrence ⟨⟨.slash, []⟩, "app"⟩
            lineEndScript ⟨3, "c\n".toList, []⟩ =
          .ok found ∧
        found.line = 2 := by
  have hStart : 3 ≤ 5 := by decide
  have hInside : 5 ≤ lineEndScript.length := by decide
  have hContext := context_and_number hStart hInside
  have hTotal : lineEndRule.Total :=
    fun content => ⟨content, rfl⟩
  rcases occurrence_of_total hTotal ⟨⟨.slash, []⟩, "app"⟩
      lineEndScript ⟨3, "c\n".toList, []⟩ with
    ⟨found, hFound⟩
  exact ⟨hStart, hInside, by decide +kernel,
    by decide +kernel, by decide +kernel, hContext.1, found,
    hFound, hContext.2 _ _ _ _ rfl hFound⟩

end Rule

end GradleMigration
