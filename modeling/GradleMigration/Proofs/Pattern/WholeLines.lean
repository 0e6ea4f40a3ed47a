import GradleMigration.Proofs.Pattern.Hits
import GradleMigration.Text.Lines

/-
  Patterns that see no difference between whole lines of a
  text and the text around them.

  Where such a pattern has a hit in some whole lines of a
  text, it has a hit in the text.

  Main declarations:
    * `Pattern.isLineLocal`
    * `Text.WholeLines`
    * `Text.wholeLines_lineOf`
    * `Pattern.ways_within`
    * `Regex.hits_ne_nil_of_wholeLines`
-/

------------------------------------------------------------
-- Whole Lines
------------------------------------------------------------

namespace GradleMigration

namespace Text

/-
  Between two texts there are whole lines: the first one ends
  and the second one starts with a line feed, if there is
  anything in them at all.
-/
structure WholeLines
    (front behind : List Char) : Prop where
  front_end : front = [] ∨ front.getLast? = some '\n'
  behind_start : behind = [] ∨ behind.head? = some '\n'

/- What is passed over to find a character does not hold it. -/
theorem head?_dropWhile_ne
    (c : Char)
    (text : List Char) :
    text.dropWhile (· != c) = [] ∨
      (text.dropWhile (· != c)).head? = some c := by
  induction text with
  | nil => exact Or.inl rfl
  | cons d rest ih =>
      by_cases h : d = c
      · subst h
        simp
      · have hNe : (d != c) = true := by simpa using h
        simp only [List.dropWhile_cons, hNe, if_true]
        exact ih

/- What is left of a text behind its first line feed. -/
theorem drop_takeWhile
    (text : List Char)
    (test : Char → Bool) :
    text.drop (text.takeWhile test).length =
      text.dropWhile test := by
  induction text with
  | nil => rfl
  | cons c rest ih =>
      cases hTest : test c with
      | false => simp [hTest]
      | true => simpa [hTest] using ih

/- The start of a line is not behind the offset. -/
theorem lineStart_le
    (content : List Char)
    (start : Nat) :
    lineStart content start ≤ start := by
  unfold lineStart
  simp only [List.length_take]
  omega

/- The lines around an offset begin behind a line feed. -/
theorem take_lineStart_end
    (content : List Char)
    (start : Nat) :
    content.take (lineStart content start) = [] ∨
      (content.take (lineStart content start)).getLast? =
        some '\n' := by
  have hSplit :
      content.take (lineStart content start) =
        ((content.take start).reverse.dropWhile
          (· != '\n')).reverse := by
    rw [← Nat.min_eq_left (lineStart_le content start),
      ← List.take_take]
    unfold lineStart
    rw [← drop_takeWhile, List.reverse_drop,
      List.reverse_reverse, List.length_reverse]
  rw [hSplit]
  rcases head?_dropWhile_ne '\n' (content.take start).reverse
    with hNil | hHead
  · exact Or.inl (by rw [hNil]; rfl)
  · exact Or.inr (by rw [List.getLast?_reverse, hHead])

/- The lines around an offset end before a line feed. -/
theorem drop_lineStop_start
    (content : List Char)
    (stop : Nat) :
    content.drop (lineStop content stop) = [] ∨
      (content.drop (lineStop content stop)).head? =
        some '\n' := by
  have hSplit :
      content.drop (lineStop content stop) =
        (content.drop stop).dropWhile (· != '\n') := by
    unfold lineStop
    rw [← List.drop_drop, drop_takeWhile]
  rw [hSplit]
  exact head?_dropWhile_ne '\n' _

/- The lines of a span do not end before they begin. -/
theorem lineStart_le_lineStop
    (content : List Char)
    {start stop : Nat}
    (h : start ≤ stop) :
    lineStart content start ≤ lineStop content stop := by
  have hStart := lineStart_le content start
  unfold lineStop
  omega

/- A text is what is around the lines of a span, and these. -/
theorem append_lineOf
    (content : List Char)
    {start stop : Nat}
    (h : start ≤ stop) :
    content = content.take (lineStart content start) ++
      lineOf content start stop ++
        content.drop (lineStop content stop) := by
  have hOrder := lineStart_le_lineStop content h
  have hBehind :
      content.drop (lineStop content stop) =
        (content.drop (lineStart content start)).drop
          (lineStop content stop -
            lineStart content start) := by
    rw [List.drop_drop, Nat.add_sub_cancel' hOrder]
  unfold lineOf slice
  rw [hBehind, List.append_assoc, List.take_append_drop,
    List.take_append_drop]

/- The lines that a span meets are whole lines of the text. -/
theorem wholeLines_lineOf
    (content : List Char)
    {start stop : Nat}
    (h : start ≤ stop) :
    ∃ front behind,
      content = front ++ lineOf content start stop ++ behind ∧
        WholeLines front behind :=
  ⟨_, _, append_lineOf content h,
    ⟨take_lineStart_end content start,
      drop_lineStop_start content stop⟩⟩

end Text

end GradleMigration

------------------------------------------------------------
-- Line-Local Patterns
------------------------------------------------------------

namespace GradleMigration

/- Anchors that hold at the ends of lines as at those of texts. -/
def Anchor.isLineLocal : Anchor → Bool
| .lineStart => true
| .lineEnd => true
| .boundary _ _ => true
| _ => false

namespace Pattern

/- Patterns for one character that is no line feed. -/
def isInLine : Pattern → Bool
| .one test => !test.accepts '\n'
| _ => false

/-
  Patterns that match in some whole lines only where they
  match in the text around them.
-/
def isLineLocal : Pattern → Bool
| .empty => true
| .one _ => true
| .anchor a => a.isLineLocal
| .seq p q => p.isLineLocal && q.isLineLocal
| .alt p q => p.isLineLocal && q.isLineLocal
| .group _ p => p.isLineLocal
| .loop _ greed p => greed != .possessive && p.isLineLocal
| .ahead negated p =>
    if negated then p.isInLine else p.isLineLocal
| _ => false

end Pattern

/-
  The same place, seen in a text and in a longer one that has
  something in front of it and behind it.
-/
structure Spot.Within
    (front behind : List Char)
    (s t : Spot) : Prop where
  before : t.before = s.before ++ front.reverse
  after : t.after = s.after ++ behind
  pos : t.pos = s.pos + front.length

variable {front behind : List Char}

/- The word characters at the end of whole lines. -/
theorem Anchor.wordAt_append
    {lines : List Char}
    (ascii : Bool)
    (h : lines = [] ∨ lines.head? = some '\n')
    (text : List Char) :
    wordAt ascii (text ++ lines) = wordAt ascii text := by
  cases text with
  | cons c rest => rfl
  | nil =>
      rcases h with hNil | hHead
      · rw [hNil]
        rfl
      · cases lines with
        | nil => cases hHead
        | cons d rest =>
            cases hHead
            show CharKind.word.holds ascii '\n' = false
            cases ascii with
            | false => decide
            | true => decide

/- Line-local anchors that hold in lines hold in the text. -/
theorem Anchor.holds_within
    (hLines : Text.WholeLines front behind)
    {a : Anchor}
    (hLocal : a.isLineLocal = true)
    {s t : Spot}
    (hWithin : s.Within front behind t)
    (h : a.holds s.before s.after = true) :
    a.holds t.before t.after = true := by
  have hFront :
      front.reverse = [] ∨ front.reverse.head? = some '\n' := by
    rw [List.head?_reverse, List.reverse_eq_nil_iff]
    exact hLines.front_end
  rw [hWithin.before, hWithin.after]
  cases a with
  | textStart => cases hLocal
  | textEnd => cases hLocal
  | lastLineEnd => cases hLocal
  | lineStart =>
      cases hBefore : s.before with
      | nil => simpa [holds, hBefore] using hFront
      | cons c rest => simpa [holds, hBefore] using h
  | lineEnd =>
      cases hAfter : s.after with
      | nil =>
          simpa [holds, hAfter] using hLines.behind_start
      | cons c rest => simpa [holds, hAfter] using h
  | boundary ascii negated =>
      simp only [holds, Bool.and_eq_true] at h ⊢
      rw [wordAt_append ascii hFront,
        wordAt_append ascii hLines.behind_start]
      refine ⟨?_, h.2⟩
      have hSome := h.1
      revert hSome
      cases s.before with
      | cons c rest => simp
      | nil =>
          cases s.after with
          | cons c rest => simp
          | nil => simp

namespace Repetition

/- Ways in lines have their counterparts in the text. -/
def Carried
    (front behind : List Char)
    (ways : Spot → List Spot) : Prop :=
  ∀ s s' t, s.Within front behind s' → t ∈ ways s →
    ∃ t' ∈ ways s', t.Within front behind t'

variable {ways : Spot → List Spot}

theorem carried_requiredWays
    (h : Carried front behind ways)
    (n : Nat) :
    Carried front behind (requiredWays ways n) := by
  induction n with
  | zero =>
      intro s s' t hWithin hT
      cases List.mem_singleton.mp hT
      exact ⟨s', List.mem_singleton.mpr rfl, hWithin⟩
  | succ n ih =>
      intro s s' t hWithin hT
      rcases List.mem_flatMap.mp hT with ⟨u, hU, hT⟩
      rcases h s s' u hWithin hU with ⟨u', hU', hWithinU⟩
      rcases ih u u' t hWithinU hT with ⟨t', hT', hWithinT⟩
      exact ⟨t', List.mem_flatMap.mpr ⟨u', hU', hT'⟩,
        hWithinT⟩

/- Another round is allowed in lines as in the text. -/
theorem mayGoOn_within
    {s s' : Spot}
    (hWithin : s.Within front behind s')
    (room last : Option Nat) :
    mayGoOn room (last.map (· + front.length)) s' =
      mayGoOn room last s := by
  unfold mayGoOn
  rw [hWithin.pos]
  congr 1
  cases last with
  | none => rfl
  | some pos =>
      rw [Bool.eq_iff_iff]
      simp

/- Stopping is always one of the ways. -/
theorem self_mem_greedyWays
    (fuel : List Char)
    (room last : Option Nat)
    (s : Spot) :
    s ∈ greedyWays ways fuel room last s := by
  cases fuel with
  | nil =>
      rw [greedyWays]
      split
      · simp
      · simp
  | cons c fuel =>
      rw [greedyWays]
      split
      · simp
      · simp

/- A text pays for at least as many rounds as its lines. -/
theorem within_greedyWays
    (h : Carried front behind ways)
    {fuel more : List Char}
    (hFuel : fuel.length ≤ more.length)
    {room last : Option Nat}
    {s s' t : Spot}
    (hWithin : s.Within front behind s')
    (hT : t ∈ greedyWays ways fuel room last s) :
    ∃ t' ∈ greedyWays ways more room
        (last.map (· + front.length)) s',
      t.Within front behind t' := by
  induction fuel generalizing more room last s s' with
  | nil =>
      rw [greedyWays] at hT
      have hStop :
          t = s →
            ∃ t' ∈ greedyWays ways more room
                (last.map (· + front.length)) s',
              t.Within front behind t' := by
        intro hEq
        exact ⟨s', self_mem_greedyWays _ _ _ _,
          hEq ▸ hWithin⟩
      split at hT
      · next hMay =>
          rcases List.mem_append.mp hT with hRound | hEnd
          · rcases h s s' t hWithin hRound with
              ⟨t', hT', hWithinT⟩
            refine ⟨t', ?_, hWithinT⟩
            cases more with
            | nil =>
                rw [greedyWays, mayGoOn_within hWithin,
                  if_pos hMay]
                exact List.mem_append_left _ hT'
            | cons c more =>
                rw [greedyWays, mayGoOn_within hWithin,
                  if_pos hMay]
                exact List.mem_append_left _
                  (List.mem_flatMap.mpr ⟨t', hT',
                    self_mem_greedyWays _ _ _ _⟩)
          · exact hStop (List.mem_singleton.mp hEnd)
      · exact hStop (List.mem_singleton.mp hT)
  | cons c fuel ih =>
      cases more with
      | nil => simp at hFuel
      | cons d more =>
          rw [greedyWays, mayGoOn_within hWithin]
          rw [greedyWays] at hT
          split at hT
          · next hMay =>
              rw [if_pos hMay]
              rcases List.mem_append.mp hT with hRound | hEnd
              · rcases List.mem_flatMap.mp hRound with
                  ⟨u, hU, hT⟩
                rcases h s s' u hWithin hU with
                  ⟨u', hU', hWithinU⟩
                rcases ih (Nat.le_of_succ_le_succ hFuel)
                    hWithinU hT with
                  ⟨t', hT', hWithinT⟩
                refine ⟨t', List.mem_append_left _
                  (List.mem_flatMap.mpr ⟨u', hU', ?_⟩),
                  hWithinT⟩
                rw [hWithin.pos]
                exact hT'
              · cases List.mem_singleton.mp hEnd
                exact ⟨s', by simp, hWithin⟩
          · next hMay =>
              rw [if_neg hMay]
              cases List.mem_singleton.mp hT
              exact ⟨s', by simp, hWithin⟩

end Repetition

namespace Pattern

/- A character that is not there in lines is not there. -/
theorem ways_eq_nil_of_isInLine
    (hLines : Text.WholeLines front behind)
    {p : Pattern}
    (hInLine : p.isInLine = true)
    {s s' : Spot}
    (hWithin : s.Within front behind s')
    (h : p.ways s = []) :
    p.ways s' = [] := by
  cases p with
  | one test =>
      have hFeed : test.accepts '\n' = false := by
        simpa [isInLine] using hInLine
      rw [ways] at h ⊢
      rw [hWithin.after]
      cases hAfter : s.after with
      | cons c rest => simpa [hAfter] using h
      | nil =>
          rcases hLines.behind_start with hNil | hHead
          · simp [hNil]
          · cases behind with
            | nil => cases hHead
            | cons d rest =>
                cases hHead
                simp [hFeed]
  | _ => cases hInLine

/-
  Every way of a line-local pattern in whole lines has its
  counterpart in the text.
-/
theorem ways_within
    (hLines : Text.WholeLines front behind)
    {p : Pattern}
    (hLocal : p.isLineLocal = true) :
    Repetition.Carried front behind p.ways := by
  induction p with
  | empty =>
      intro s s' t hWithin hT
      cases List.mem_singleton.mp hT
      exact ⟨s', List.mem_singleton.mpr rfl, hWithin⟩
  | one test =>
      intro s s' t hWithin hT
      rcases of_mem_one hT with
        ⟨c, rest, hAfter, hAccepts, hEq⟩
      subst hEq
      refine ⟨s'.step c (rest ++ behind), ?_, ?_⟩
      · rw [ways, hWithin.after, hAfter]
        simp [hAccepts]
      · exact
          { before := by simp [Spot.step, hWithin.before]
            after := rfl
            pos := by
              simp only [Spot.step, hWithin.pos]
              omega }
  | anchor a =>
      intro s s' t hWithin hT
      rcases of_mem_anchor hT with ⟨hSame, hHolds⟩
      subst hSame
      refine ⟨s', ?_, hWithin⟩
      rw [ways,
        if_pos (a.holds_within hLines hLocal hWithin hHolds)]
      exact List.mem_singleton.mpr rfl
  | seq p q ihP ihQ =>
      rcases Bool.and_eq_true_iff.mp hLocal with ⟨hP, hQ⟩
      intro s s' t hWithin hT
      rcases List.mem_flatMap.mp hT with ⟨u, hU, hT⟩
      rcases ihP hP s s' u hWithin hU with
        ⟨u', hU', hWithinU⟩
      rcases ihQ hQ u u' t hWithinU hT with
        ⟨t', hT', hWithinT⟩
      exact ⟨t', List.mem_flatMap.mpr ⟨u', hU', hT'⟩,
        hWithinT⟩
  | alt p q ihP ihQ =>
      rcases Bool.and_eq_true_iff.mp hLocal with ⟨hP, hQ⟩
      intro s s' t hWithin hT
      rcases List.mem_append.mp hT with hFirst | hSecond
      · rcases ihP hP s s' t hWithin hFirst with
          ⟨t', hT', hWithinT⟩
        exact ⟨t', List.mem_append_left _ hT', hWithinT⟩
      · rcases ihQ hQ s s' t hWithin hSecond with
          ⟨t', hT', hWithinT⟩
        exact ⟨t', List.mem_append_right _ hT', hWithinT⟩
  | group index p ih =>
      intro s s' t hWithin hT
      rcases List.mem_map.mp hT with ⟨u, hU, hEq⟩
      rcases ih hLocal s s' u hWithin hU with
        ⟨u', hU', hWithinU⟩
      subst hEq
      exact ⟨_, List.mem_map_of_mem hU',
        ⟨hWithinU.before, hWithinU.after, hWithinU.pos⟩⟩
  | loop bounds greed p ih =>
      rcases Bool.and_eq_true_iff.mp hLocal with
        ⟨hGreed, hP⟩
      have hBody := ih hP
      -- The text has more characters left to pay for rounds.
      have hFuel :
          ∀ u u' : Spot, u.Within front behind u' →
            u.after.length ≤ u'.after.length := by
        intro u u' hWithin
        rw [hWithin.after, List.length_append]
        omega
      have hGreedy : Repetition.Carried front behind
          (Pattern.loop bounds .greedy p).ways := by
        intro s s' t hWithin hT
        rcases List.mem_flatMap.mp hT with ⟨u, hU, hT⟩
        rcases Repetition.carried_requiredWays hBody _
            s s' u hWithin hU with
          ⟨u', hU', hWithinU⟩
        rcases Repetition.within_greedyWays hBody
            (hFuel u u' hWithinU) hWithinU hT with
          ⟨t', hT', hWithinT⟩
        exact ⟨t', List.mem_flatMap.mpr ⟨u', hU', hT'⟩,
          hWithinT⟩
      cases greed with
      | greedy => exact hGreedy
      | lazy =>
          intro s s' t hWithin hT
          rcases hGreedy s s' t hWithin
              (mem_ways_lazy.mp hT) with
            ⟨t', hT', hWithinT⟩
          exact ⟨t', mem_ways_lazy.mpr hT', hWithinT⟩
      | possessive => cases hGreed
  | ahead negated p ih =>
      intro s s' t hWithin hT
      cases negated with
      | true =>
          rcases of_mem_ahead_not hT with ⟨hSame, hNone⟩
          subst hSame
          have hNil := ways_eq_nil_of_isInLine hLines
            hLocal hWithin hNone
          refine ⟨s', ?_, hWithin⟩
          rw [ways, hNil]
          exact List.mem_singleton.mpr rfl
      | false =>
          rcases of_mem_ahead hT with ⟨u, hU, hEq⟩
          subst hEq
          rcases ih hLocal s s' u hWithin hU with ⟨u', hU', _⟩
          cases hHead : (p.ways s').head? with
          | none =>
              rw [List.head?_eq_none_iff.mp hHead] at hU'
              cases hU'
          | some v =>
              refine ⟨{ s' with groups := v.groups }, ?_,
                ⟨hWithin.before, hWithin.after, hWithin.pos⟩⟩
              rw [ways, hHead]
              exact List.mem_singleton.mpr rfl
  | atomic p ih => cases hLocal
  | behind negated width p ih => cases hLocal
  | backref index folding => cases hLocal
  | ifGroup index present absent ihP ihA => cases hLocal

end Pattern

/-
  A line-local pattern that has a hit in some whole lines of a
  text has a hit in the text.
-/
theorem Regex.hits_ne_nil_of_wholeLines
    (hLines : Text.WholeLines front behind)
    {regex : Regex}
    (hLocal : regex.pattern.isLineLocal = true)
    {lines : List Char}
    (h : regex.hits lines ≠ []) :
    regex.hits (front ++ lines ++ behind) ≠ [] := by
  intro hNone
  apply h
  rw [hits_eq_nil_iff] at hNone ⊢
  intro start rest hSplit
  have hWithin :
      (Spot.at start rest).Within front behind
        (.at (front ++ start) (rest ++ behind)) :=
    { before := by simp [Spot.at]
      after := rfl
      pos := by simp [Spot.at, Nat.add_comm] }
  have hWhole :=
    hNone (front ++ start) (rest ++ behind) (by simp [hSplit])
  apply List.eq_nil_iff_forall_not_mem.mpr
  intro t hT
  rcases Pattern.ways_within hLines hLocal _ _ t hWithin hT with
    ⟨t', hT', _⟩
  rw [hWhole] at hT'
  cases hT'

end GradleMigration
