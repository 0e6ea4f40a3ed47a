import GradleMigration.Proofs.Script.Blocks

/-
  The scans of a script as loops over offsets: for the end of
  a string literal, and for the brace that closes a block.

  A turn of such a loop looks at the text at one offset and
  goes to an offset further on, by one character, over an
  escaped one or behind a whole lexeme.  So every scan comes
  to an end, with the answer that the recursion on the text
  gives.  What the scan for a brace looks at ends with the
  brace that it finds.

  Main declarations:
    * `Turns` and `ForwardTurns`
    * `exists_forwardTurns`
    * `literalTurn` and `exists_turns_of_literalEnd`
    * `braceTurn` and `exists_turns_of_closingBrace`
    * `closingBrace_inside`
    * `scans_go_forward`
-/

------------------------------------------------------------
-- Loops That Go Forward
------------------------------------------------------------

namespace GradleMigration

namespace Script

/- What a turn of a loop comes to. -/
inductive Turn (State Answer : Type) where
| go (next : State)
| stop (answer : Answer)

/-
  The turns of a loop from a state to its answer, with the
  states that they go to.
-/
inductive Turns
    {State Answer : Type}
    (turn : State → Turn State Answer) :
    State → List State → Answer → Prop
| stop
    {state : State}
    {answer : Answer}
    (stops : turn state = .stop answer) :
    Turns turn state [] answer
| go
    {state next : State}
    {trail : List State}
    {answer : Answer}
    (goes : turn state = .go next)
    (more : Turns turn next trail answer) :
    Turns turn state (next :: trail) answer

/-
  The turns of a loop each of which goes to an offset further
  on, but not behind a limit.
-/
structure ForwardTurns
    {State Answer : Type}
    (turn : State → Turn State Answer)
    (offset : State → Nat)
    (limit : Nat)
    (state : State)
    (trail : List State)
    (answer : Answer) : Prop where
  turns : Turns turn state trail answer
  forward :
    ((state :: trail).map offset).Pairwise (· < ·)
  inside : ∀ place ∈ trail, offset place ≤ limit

section

variable {State Answer : Type}
variable {turn : State → Turn State Answer}
variable {offset : State → Nat} {limit : Nat}

/- One more turn in front of turns that go forward. -/
theorem ForwardTurns.cons
    {state next : State}
    {trail : List State}
    {answer : Answer}
    (h : ForwardTurns turn offset limit next trail answer)
    (hGo : turn state = .go next)
    (hForward : offset state < offset next)
    (hInside : offset next ≤ limit) :
    ForwardTurns turn offset limit state (next :: trail)
      answer where
  turns := .go hGo h.turns
  forward := by
    rw [List.map_cons, List.pairwise_cons]
    refine ⟨?_, h.forward⟩
    intro later hLater
    rw [List.map_cons] at hLater
    rcases List.mem_cons.mp hLater with hNext | hBehind
    · rw [hNext]
      exact hForward
    · have hMore := h.forward
      rw [List.map_cons, List.pairwise_cons] at hMore
      exact Nat.lt_trans hForward (hMore.1 later hBehind)
  inside := by
    intro place hPlace
    rcases List.mem_cons.mp hPlace with hNext | hBehind
    · rw [hNext]
      exact hInside
    · exact h.inside place hBehind

/- The answer of a loop is a value that its turns keep. -/
theorem Turns.answer_eq
    {value : State → Answer}
    (hGo : ∀ {state next : State},
      turn state = .go next → value state = value next)
    (hStop : ∀ {state : State} {answer : Answer},
      turn state = .stop answer → answer = value state)
    {state : State}
    {trail : List State}
    {answer : Answer}
    (h : Turns turn state trail answer) :
    answer = value state := by
  induction h with
  | stop stops => exact hStop stops
  | go goes _ ih => exact ih.trans (hGo goes).symm

/-
  A loop comes to its answer if each of its turns goes forward
  up to a limit: what is left up to the limit gets less.
-/
theorem exists_forwardTurns
    (hTurn : ∀ {state next : State},
      turn state = .go next →
        offset state < offset next ∧ offset next ≤ limit)
    (state : State) :
    ∃ trail answer,
      ForwardTurns turn offset limit state trail answer := by
  induction hLeft : limit - offset state using Nat.strongRecOn
    generalizing state with
  | _ left ih =>
      subst hLeft
      cases hHere : turn state with
      | stop answer =>
          exact ⟨[], answer, .stop hHere,
            List.pairwise_singleton _ _, by simp⟩
      | go next =>
          rcases hTurn hHere with ⟨hForward, hInside⟩
          have hLess :
              limit - offset next < limit - offset state := by
            omega
          rcases ih _ hLess next rfl with
            ⟨trail, answer, hMore⟩
          exact ⟨next :: trail, answer,
            hMore.cons hHere hForward hInside⟩

end

end Script

end GradleMigration

------------------------------------------------------------
-- Texts from an Offset On
------------------------------------------------------------

namespace GradleMigration

namespace Text

section

variable {content rest : List Char} {offset : Nat} {c : Char}

/- What is left of a text behind the character at an offset. -/
theorem drop_succ_of_drop
    (h : content.drop offset = c :: rest) :
    content.drop (offset + 1) = rest := by
  rw [← List.drop_drop, h]
  rfl

/- The length of a text with a character at an offset. -/
theorem length_of_drop
    (h : content.drop offset = c :: rest) :
    content.length = offset + (rest.length + 1) := by
  have hLength := congrArg List.length h
  rw [List.length_drop, List.length_cons] at hLength
  omega

end

end Text

end GradleMigration

------------------------------------------------------------
-- The End of a Literal
------------------------------------------------------------

namespace GradleMigration

namespace Script

/- The delimiter of the literal that opens at an offset. -/
def delimiterAt
    (content : List Char)
    (start : Nat) : List Char :=
  match content[start]? with
  | none => []
  | some quote =>
      delimiterFor quote
        ([quote, quote, quote].isPrefixOf
          (content.drop start))

/-
  A turn of the scan for the end of a literal.  It steps over
  an escaped character even where the text ends before one.
-/
def literalTurn
    (content delimiter : List Char)
    (offset : Nat) : Turn Nat Nat :=
  match content[offset]? with
  | none => .stop content.length
  | some c =>
      if c = '\\' then
        .go (offset + 2)
      else if delimiter.isPrefixOf (content.drop offset) then
        .stop (offset + delimiter.length)
      else if delimiter.length = 1 && c = '\n' then
        .stop offset
      else
        .go (offset + 1)

variable {content delimiter : List Char}

/- A turn of the scan goes forward. -/
theorem literalTurn_forward
    {offset next : Nat}
    (h : literalTurn content delimiter offset = .go next) :
    offset < next ∧ next ≤ content.length + 1 := by
  unfold literalTurn at h
  split at h
  · cases h
  · next c hC =>
      have hOffset := (List.getElem?_eq_some_iff.mp hC).1
      split at h
      · cases h
        omega
      · split at h
        · cases h
        · split at h
          · cases h
          · cases h
            omega

/- A turn at the end of the text. -/
theorem literalTurn_nil
    {offset : Nat}
    (h : content.drop offset = []) :
    literalTurn content delimiter offset =
      .stop content.length := by
  unfold literalTurn
  rw [← List.head?_drop, h]
  rfl

/- A turn at a character of the text. -/
theorem literalTurn_cons
    {rest : List Char}
    {offset : Nat}
    {c : Char}
    (h : content.drop offset = c :: rest) :
    literalTurn content delimiter offset =
      if c = '\\' then
        .go (offset + 2)
      else if delimiter.isPrefixOf (c :: rest) then
        .stop (offset + delimiter.length)
      else if delimiter.length = 1 && c = '\n' then
        .stop offset
      else
        .go (offset + 1) := by
  unfold literalTurn
  rw [← List.head?_drop, h]
  rfl

/-
  The end of a literal whose inside goes on at an offset, or
  the end of the text from an offset behind it.
-/
def literalStop
    (content delimiter : List Char)
    (offset : Nat) : Nat :=
  min offset content.length +
    literalBody delimiter (content.drop offset)

/- A turn keeps the end of the literal. -/
theorem literalStop_of_go
    {offset next : Nat}
    (h : literalTurn content delimiter offset = .go next) :
    literalStop content delimiter offset =
      literalStop content delimiter next := by
  unfold literalStop
  cases hText : content.drop offset with
  | nil =>
      rw [literalTurn_nil hText] at h
      cases h
  | cons c rest =>
      have hRest := Text.drop_succ_of_drop hText
      have hLength := Text.length_of_drop hText
      rw [literalTurn_cons hText] at h
      split at h
      · next hEscape =>
          cases h
          subst hEscape
          cases rest with
          | nil =>
              -- The escape takes the scan out of the text.
              rw [List.length_nil] at hLength
              have hBehind : content.drop (offset + 2) = [] :=
                List.drop_eq_nil_iff.mpr (by omega)
              rw [hBehind, literalBody, literalBody]
              omega
          | cons d tail =>
              rw [List.length_cons] at hLength
              rw [Text.drop_succ_of_drop hRest, literalBody]
              omega
      · next hEscape =>
          rw [literalBody_cons hEscape]
          split at h
          · cases h
          · next hPrefix =>
              rw [if_neg hPrefix]
              split at h
              · cases h
              · next hFeed =>
                  cases h
                  rw [if_neg hFeed, hRest]
                  omega

/- A turn that stops does so at the end of the literal. -/
theorem literalStop_of_stop
    {offset answer : Nat}
    (h : literalTurn content delimiter offset = .stop answer) :
    answer = literalStop content delimiter offset := by
  unfold literalStop
  cases hText : content.drop offset with
  | nil =>
      rw [literalTurn_nil hText] at h
      cases h
      rw [Nat.min_eq_right (List.drop_eq_nil_iff.mp hText)]
      rfl
  | cons c rest =>
      have hLength := Text.length_of_drop hText
      rw [Nat.min_eq_left (by omega)]
      rw [literalTurn_cons hText] at h
      split at h
      · cases h
      · next hEscape =>
          rw [literalBody_cons hEscape]
          split at h
          · next hPrefix =>
              cases h
              rw [if_pos hPrefix]
          · next hPrefix =>
              rw [if_neg hPrefix]
              split at h
              · next hFeed =>
                  cases h
                  rw [if_pos hFeed, Nat.add_zero]
              · cases h

/- The delimiter that a quote opens is seen at its offset. -/
theorem delimiterAt_eq
    {rest : List Char}
    {start : Nat}
    {quote : Char}
    (h : content.drop start = quote :: rest) :
    delimiterAt content start = delimiterOf quote rest := by
  unfold delimiterAt
  rw [← List.head?_drop, h]
  simp only [List.head?_cons]
  unfold delimiterFor delimiterOf
  simp only [List.isPrefixOf, beq_self_eq_true, Bool.true_and]

/- A delimiter opens a literal with at least one quote. -/
theorem delimiterOf_opens
    (quote : Char)
    (rest : List Char) :
    delimiterOf quote rest <+: quote :: rest ∧
      1 ≤ (delimiterOf quote rest).length := by
  unfold delimiterOf
  split
  · next hTripled =>
      rw [List.isPrefixOf_iff_prefix] at hTripled
      exact ⟨List.cons_prefix_cons.mpr ⟨rfl, hTripled⟩,
        by simp⟩
  · exact ⟨⟨rest, rfl⟩, Nat.le_refl 1⟩

section

variable {start : Nat}

/- The delimiter of a literal is not empty. -/
theorem delimiterAt_ne_nil
    (h : start < content.length) :
    delimiterAt content start ≠ [] := by
  rw [delimiterAt_eq (List.drop_eq_getElem_cons h)]
  exact List.ne_nil_of_length_pos (delimiterOf_opens _ _).2

/- A literal ends where its inside does. -/
theorem literalEnd_eq
    (h : start < content.length) :
    literalEnd content start =
      some (literalStop content (delimiterAt content start)
        (start + (delimiterAt content start).length)) := by
  obtain ⟨quote, rest, hText⟩ :
      ∃ quote rest, content.drop start = quote :: rest :=
    ⟨_, _, List.drop_eq_getElem_cons h⟩
  rcases delimiterOf_opens quote rest with ⟨hPrefix, hOpened⟩
  have hFits := hPrefix.length_le
  have hLength := congrArg List.length hText
  rw [List.length_drop] at hLength
  have hInside :
      content.drop (start + (delimiterOf quote rest).length) =
        rest.drop ((delimiterOf quote rest).length - 1) := by
    rw [← List.drop_drop, hText,
      ← Nat.sub_add_cancel hOpened, List.drop_succ_cons,
      Nat.sub_add_cancel hOpened]
  unfold literalEnd literalStop
  rw [delimiterAt_eq hText, hInside, hText,
    Nat.min_eq_left (by omega)]
  simp only [literalLength, Nat.add_assoc]

/- A literal ends in the text and behind its first character. -/
theorem literalEnd_bounds
    (h : start < content.length)
    {stop : Nat}
    (hStop : literalEnd content start = some stop) :
    start < stop ∧ stop ≤ content.length := by
  rw [literalEnd, List.drop_eq_getElem_cons h] at hStop
  cases hStop
  have hBounds := literalLength_bounds content[start]
    (content.drop (start + 1))
  rw [List.length_drop] at hBounds
  omega

/- The scan for the end of a literal comes to its end. -/
theorem exists_turns_of_literalEnd
    (h : start < content.length) :
    ∃ stop trail,
      literalEnd content start = some stop ∧
        start < stop ∧ stop ≤ content.length ∧
        delimiterAt content start ≠ [] ∧
        ForwardTurns
          (literalTurn content (delimiterAt content start)) id
          (content.length + 1)
          (start + (delimiterAt content start).length)
          trail stop := by
  obtain ⟨trail, stop, hTurns⟩ :
      ∃ trail stop,
        ForwardTurns
          (literalTurn content (delimiterAt content start)) id
          (content.length + 1)
          (start + (delimiterAt content start).length)
          trail stop :=
    exists_forwardTurns literalTurn_forward _
  have hStop : literalEnd content start = some stop := by
    rw [literalEnd_eq h, hTurns.turns.answer_eq
      literalStop_of_go literalStop_of_stop]
  rcases literalEnd_bounds h hStop with ⟨hForward, hInside⟩
  exact ⟨stop, trail, hStop, hForward, hInside,
    delimiterAt_ne_nil h, hTurns⟩

end

end Script

end GradleMigration

------------------------------------------------------------
-- The End of a Comment
------------------------------------------------------------

namespace GradleMigration

namespace Text

/- The first offset from `start` on at which a mark stands. -/
def findFrom
    (mark content : List Char)
    (start : Nat) : Option Nat :=
  (List.range' start (content.length - start)).find? fun i =>
    mark.isPrefixOf (content.drop i)

/- A mark stands here, or is looked for further on. -/
theorem findFrom_cons
    {content rest : List Char}
    {start : Nat}
    {c : Char}
    (h : content.drop start = c :: rest)
    (mark : List Char) :
    findFrom mark content start =
      if mark.isPrefixOf (c :: rest) then
        some start
      else
        findFrom mark content (start + 1) := by
  have hLength := length_of_drop h
  have hHere : content.length - start = rest.length + 1 := by
    omega
  have hNext : content.length - (start + 1) = rest.length := by
    omega
  unfold findFrom
  rw [hHere, hNext, List.range'_succ, List.find?_cons, h]
  split
  · next hMark => rw [if_pos hMark]
  · next hMark => rw [hMark, if_neg Bool.false_ne_true]

/- No mark stands behind a text. -/
theorem findFrom_nil
    {content : List Char}
    {start : Nat}
    (h : content.drop start = [])
    (mark : List Char) :
    findFrom mark content start = none := by
  have hEnd := List.drop_eq_nil_iff.mp h
  unfold findFrom
  rw [Nat.sub_eq_zero_of_le hEnd]
  rfl

end Text

namespace Script

variable {content : List Char}

/- A line comment ends before the next line feed. -/
theorem findFrom_lineFeed
    {start : Nat}
    (h : start ≤ content.length) :
    (Text.findFrom ['\n'] content start).getD content.length =
      start + ((content.drop start).takeWhile
        (· != '\n')).length := by
  induction hText : content.drop start generalizing start with
  | nil =>
      have hEnd := List.drop_eq_nil_iff.mp hText
      rw [Text.findFrom_nil hText, Option.getD_none]
      exact Nat.le_antisymm hEnd h
  | cons c rest ih =>
      have hLength := Text.length_of_drop hText
      have hMore := ih (by omega) (Text.drop_succ_of_drop hText)
      rw [Text.findFrom_cons hText, List.takeWhile_cons]
      by_cases hFeed : c = '\n'
      · subst hFeed
        rfl
      · rw [if_neg (by simp [List.isPrefixOf, Ne.symm hFeed]),
          if_pos (by simp [hFeed]), hMore, List.length_cons]
        omega

/- A block comment ends behind the next mark that closes it. -/
theorem findFrom_blockEnd
    {start : Nat}
    (h : start ≤ content.length) :
    ((Text.findFrom ['*', '/'] content start).map
        (· + 2)).getD content.length =
      start + blockCommentBody (content.drop start) := by
  induction hText : content.drop start generalizing start with
  | nil =>
      have hEnd := List.drop_eq_nil_iff.mp hText
      rw [Text.findFrom_nil hText, Option.map_none,
        Option.getD_none]
      exact Nat.le_antisymm hEnd h
  | cons c rest ih =>
      have hLength := Text.length_of_drop hText
      have hMore := ih (by omega) (Text.drop_succ_of_drop hText)
      have hMark :
          ['*', '/'].isPrefixOf (c :: rest) = true ↔
            c = '*' ∧ rest.head? = some '/' := by
        rw [List.isPrefixOf_iff_prefix, List.cons_prefix_cons,
          List.head?_eq_some_iff, eq_comm]
        exact and_congr_right fun _ =>
          exists_congr fun _ => eq_comm
      rw [Text.findFrom_cons hText, blockCommentBody_cons]
      split
      · next hHere =>
          rw [if_pos (hMark.mp hHere)]
          rfl
      · next hHere =>
          rw [if_neg fun hIs => hHere (hMark.mpr hIs), hMore]
          omega

/-
  The offset behind the comment that starts at an offset, if
  one does.  What closes it is looked for in the text.
-/
def commentEnd
    (content : List Char)
    (offset : Nat) : Option Nat :=
  if ['/', '/'].isPrefixOf (content.drop offset) then
    some ((Text.findFrom ['\n'] content offset).getD
      content.length)
  else if ['/', '*'].isPrefixOf (content.drop offset) then
    some (((Text.findFrom ['*', '/'] content
      (offset + 2)).map (· + 2)).getD content.length)
  else
    none

/- A comment ends as far behind its start as it is long. -/
theorem commentEnd_eq
    (content : List Char)
    (offset : Nat) :
    commentEnd content offset =
      (commentLength (content.drop offset)).map
        (offset + ·) := by
  unfold commentEnd
  by_cases hLine : ['/', '/'] <+: content.drop offset
  · rw [if_pos (List.isPrefixOf_iff_prefix.mpr hLine)]
    rcases hLine with ⟨rest, hText⟩
    have hLength := Text.length_of_drop hText.symm
    rw [findFrom_lineFeed (by omega), ← hText]
    simp [commentLength, Nat.add_comm 2, ← Nat.add_assoc]
  · rw [if_neg fun hIs =>
      hLine (List.isPrefixOf_iff_prefix.mp hIs)]
    by_cases hBlock : ['/', '*'] <+: content.drop offset
    · rw [if_pos (List.isPrefixOf_iff_prefix.mpr hBlock)]
      rcases hBlock with ⟨rest, hText⟩
      have hLength : content.length =
          offset + (rest.length + 2) :=
        Text.length_of_drop hText.symm
      rw [findFrom_blockEnd (by omega), ← List.drop_drop,
        ← hText]
      simp [commentLength, Nat.add_assoc]
    · rw [if_neg fun hIs =>
          hBlock (List.isPrefixOf_iff_prefix.mp hIs),
        commentLength_eq_none_iff.mpr ⟨hLine, hBlock⟩,
        Option.map_none]

end Script

end GradleMigration

------------------------------------------------------------
-- The Brace That Closes
------------------------------------------------------------

namespace GradleMigration

namespace Script

variable {content : List Char}

/- A place of the scan for a closing brace. -/
structure BracePlace where
  offset : Nat
  depth : Int

/- A turn of the scan for a closing brace. -/
def braceTurn
    (content : List Char)
    (place : BracePlace) : Turn BracePlace (Option Nat) :=
  match content[place.offset]? with
  | none => .stop none
  | some c =>
      if isQuote c then
        .go ⟨(literalEnd content place.offset).getD
          content.length, place.depth⟩
      else
        match commentEnd content place.offset with
        | some stop => .go ⟨stop, place.depth⟩
        | none =>
            if c = '\x7b' then
              .go ⟨place.offset + 1, place.depth + 1⟩
            else if c = '\x7d' then
              if place.depth = 1 then
                .stop (some place.offset)
              else
                .go ⟨place.offset + 1, place.depth - 1⟩
            else
              .go ⟨place.offset + 1, place.depth⟩

/- What a character does to the depth of braces. -/
def braceChange
    (c : Char) : Int :=
  if c = '\x7b' then 1 else if c = '\x7d' then -1 else 0

/- The depth stays at a character that is no brace. -/
theorem braceChange_eq_zero
    {c : Char}
    (hOpen : c ≠ '\x7b')
    (hClose : c ≠ '\x7d') :
    braceChange c = 0 := by
  rw [braceChange, if_neg hOpen, if_neg hClose]

/- A turn at the end of the text. -/
theorem braceTurn_nil
    {place : BracePlace}
    (h : content.drop place.offset = []) :
    braceTurn content place = .stop none := by
  unfold braceTurn
  rw [← List.head?_drop, h]
  rfl

/-
  A turn at a character of the text stops at the brace that
  leads to depth zero, and goes on behind any other lexeme.
-/
theorem braceTurn_cons
    {rest : List Char}
    {c : Char}
    {place : BracePlace}
    (h : content.drop place.offset = c :: rest) :
    braceTurn content place =
      if c = '\x7d' ∧ place.depth = 1 then
        .stop (some place.offset)
      else
        .go ⟨place.offset + lexemeLength c rest,
          place.depth + braceChange c⟩ := by
  unfold braceTurn
  rw [← List.head?_drop, commentEnd_eq, literalEnd, h]
  simp only [List.head?_cons, Option.getD_some]
  by_cases hOpen : c = '\x7b'
  · subst hOpen
    rfl
  · by_cases hClose : c = '\x7d'
    · subst hClose
      change (if place.depth = 1 then
          Turn.stop (some place.offset)
        else
          Turn.go (BracePlace.mk (place.offset + 1)
            (place.depth - 1))) = _
      by_cases hDepth : place.depth = 1
      · rw [if_pos hDepth, if_pos (And.intro rfl hDepth)]
      · rw [if_neg hDepth, if_neg fun hIs => hDepth hIs.2]
        rfl
    · have hOther : ¬ (c = '\x7d' ∧ place.depth = 1) :=
        fun hIs => hClose hIs.1
      rw [if_neg hOther, braceChange_eq_zero hOpen hClose,
        Int.add_zero, lexemeLength]
      split
      · rfl
      · cases commentLength (c :: rest) with
        | none => rfl
        | some length => rfl

/- A turn of the scan goes forward. -/
theorem braceTurn_forward
    {place next : BracePlace}
    (h : braceTurn content place = .go next) :
    place.offset < next.offset ∧
      next.offset ≤ content.length := by
  cases hText : content.drop place.offset with
  | nil =>
      rw [braceTurn_nil hText] at h
      cases h
  | cons c rest =>
      have hLength := Text.length_of_drop hText
      have hLexeme := lexemeLength_bounds c rest
      rw [braceTurn_cons hText] at h
      split at h
      · cases h
      · cases h
        simp only
        omega

/- One lexeme on the way to a closing brace, at any depth. -/
theorem blockEndFrom_lexeme
    {c : Char}
    {body tail : List Char}
    (hLexeme : lexemeLength c (body ++ tail) = body.length + 1)
    (depth : Int)
    (pos : Nat) :
    blockEndFrom 0 depth pos (c :: (body ++ tail)) =
      if c = '\x7d' ∧ depth = 1 then
        some pos
      else
        blockEndFrom 0 (depth + braceChange c)
          (pos + (body.length + 1)) tail := by
  by_cases hOpen : c = '\x7b'
  · subst hOpen
    have hNil : body = [] :=
      List.eq_nil_of_length_eq_zero (Nat.succ.inj hLexeme).symm
    subst hNil
    rfl
  · by_cases hClose : c = '\x7d'
    · subst hClose
      have hNil : body = [] :=
        List.eq_nil_of_length_eq_zero
          (Nat.succ.inj hLexeme).symm
      subst hNil
      rw [blockEndFrom, if_neg hOpen, if_pos rfl]
      by_cases hDepth : depth = 1
      · rw [if_pos hDepth, if_pos ⟨rfl, hDepth⟩]
      · rw [if_neg hDepth, if_neg fun hIs => hDepth hIs.2]
        rfl
    · rw [if_neg fun hIs => hClose hIs.1,
        braceChange_eq_zero hOpen hClose, Int.add_zero]
      exact isPassed_lexeme hOpen hClose hLexeme depth pos

/- The brace that closes, counted from a place of the scan. -/
def braceStop
    (content : List Char)
    (place : BracePlace) : Option Nat :=
  blockEndFrom 0 place.depth place.offset
    (content.drop place.offset)

/- A turn keeps the brace that closes. -/
theorem braceStop_of_go
    {place next : BracePlace}
    (h : braceTurn content place = .go next) :
    braceStop content place = braceStop content next := by
  unfold braceStop
  cases hText : content.drop place.offset with
  | nil =>
      rw [braceTurn_nil hText] at h
      cases h
  | cons c rest =>
      rcases exists_lexeme c rest with
        ⟨body, tail, hRest, hLexeme⟩
      subst hRest
      rw [braceTurn_cons hText, hLexeme] at h
      rw [blockEndFrom_lexeme hLexeme]
      split at h
      · cases h
      · next hOther =>
          cases h
          have hTail :
              content.drop (place.offset + (body.length + 1)) =
                tail := by
            rw [← List.drop_drop, hText, List.drop_succ_cons,
              List.drop_left]
          simp only
          rw [if_neg hOther, hTail]

/- A turn that stops does so at the brace that closes. -/
theorem braceStop_of_stop
    {place : BracePlace}
    {answer : Option Nat}
    (h : braceTurn content place = .stop answer) :
    answer = braceStop content place := by
  unfold braceStop
  cases hText : content.drop place.offset with
  | nil =>
      rw [braceTurn_nil hText] at h
      cases h
      rw [blockEndFrom]
  | cons c rest =>
      rcases exists_lexeme c rest with
        ⟨body, tail, hRest, hLexeme⟩
      subst hRest
      rw [braceTurn_cons hText] at h
      rw [blockEndFrom_lexeme hLexeme]
      split at h
      · next hHere =>
          cases h
          rw [if_pos hHere]
      · cases h

/- The scan for a closing brace comes to its end. -/
theorem exists_turns_of_closingBrace
    (content : List Char)
    (start : Nat) :
    ∃ trail,
      ForwardTurns (braceTurn content) BracePlace.offset
        content.length ⟨start, 0⟩ trail
        (closingBrace content start) := by
  rcases exists_forwardTurns braceTurn_forward
      (BracePlace.mk start 0) with
    ⟨trail, answer, h⟩
  have hAnswer : answer = closingBrace content start :=
    h.turns.answer_eq braceStop_of_go braceStop_of_stop
  subst hAnswer
  exact ⟨trail, h⟩

end Script

end GradleMigration

------------------------------------------------------------
-- What a Closing Brace Is Seen From
------------------------------------------------------------

namespace GradleMigration

namespace Script

variable {content : List Char}

/-
  The brace that is found is seen from the text up to it, at
  whatever offset the text stands and whatever follows.
-/
theorem exists_inside_of_blockEndFrom
    {text : List Char}
    {depth : Int}
    {pos close : Nat}
    (h : blockEndFrom 0 depth pos text = some close) :
    ∃ inside back,
      text = inside ++ '\x7d' :: back ∧
        close = pos + inside.length ∧
        ∀ other start,
          blockEndFrom 0 depth start
              (inside ++ '\x7d' :: other) =
            some (start + inside.length) := by
  induction text using lexeme_induction
    generalizing depth pos with
  | nil => cases h
  | @lexeme c body tail hLexeme ih =>
      rw [blockEndFrom_lexeme hLexeme] at h
      split at h
      · next hHere =>
          cases h
          refine ⟨[], body ++ tail, by rw [hHere.1]; rfl, rfl,
            ?_⟩
          intro other start
          rw [List.nil_append, blockEndFrom,
            if_neg (by decide), if_pos rfl, if_pos hHere.2]
          rfl
      · next hOther =>
          rcases ih h with
            ⟨inside, back, hTail, hClose, hInside⟩
          subst hTail
          refine ⟨c :: (body ++ inside), back, by simp, ?_, ?_⟩
          · rw [hClose, List.length_cons, List.length_append]
            omega
          · intro other start
            -- A lexeme looks at one more character, which is
            -- the brace at most.
            have hSame :
                lexemeLength c
                    (body ++ (inside ++ '\x7d' :: other)) =
                  body.length + 1 := by
              refine lexemeLength_congr ?_ hLexeme
              rw [List.head?_append, List.head?_append]
              rfl
            rw [List.cons_append, List.append_assoc,
              blockEndFrom_lexeme hSame, if_neg hOther,
              hInside, List.length_cons, List.length_append]
            congr 1
            omega

/-
  A closing brace stands behind the offset where the scan for
  it starts, and is found in any other text that holds what is
  between them.
-/
theorem closingBrace_inside
    {start close : Nat}
    (h : closingBrace content start = some close) :
    start < close ∧ close < content.length ∧
      ∀ before behind,
        closingBrace
            (before ++
              Text.slice content start (close + 1) ++ behind)
            before.length =
          some (before.length + (close - start)) := by
  rcases exists_inside_of_blockEndFrom h with
    ⟨inside, back, hText, hClose, hInside⟩
  have hLength := congrArg List.length hText
  rw [List.length_drop, List.length_append,
    List.length_cons] at hLength
  -- At depth zero the scan does not end with its first brace.
  have hSome : inside ≠ [] := by
    intro hNil
    have hHere := hInside [] 0
    rw [hNil] at hHere
    cases hHere
  have hFirst := List.length_pos_iff.mpr hSome
  have hSlice :
      Text.slice content start (close + 1) =
        inside ++ ['\x7d'] := by
    have hSplit :
        content.drop start = (inside ++ ['\x7d']) ++ back := by
      simpa using hText
    unfold Text.slice
    rw [hSplit, List.take_left']
    rw [List.length_append, List.length_singleton]
    omega
  refine ⟨by omega, by omega, fun before behind => ?_⟩
  unfold closingBrace
  rw [hSlice, List.append_assoc, List.drop_left,
    List.append_assoc, List.singleton_append, hInside]
  congr 1
  omega

/-
  The scans of a script come to their ends by turns that go
  forward, the first one for a literal over its delimiter.  A
  literal ends behind its first character and in the text.
  The brace that closes stands behind the offset where the
  scan for it starts.  It is the answer for the text from one
  to the other whatever comes before that text or behind it.
-/
theorem scans_go_forward
    {start : Nat}
    (hStart : start < content.length) :
    (∃ stop trail,
        literalEnd content start = some stop ∧
          start < stop ∧ stop ≤ content.length ∧
          delimiterAt content start ≠ [] ∧
          ForwardTurns
            (literalTurn content (delimiterAt content start)) id
            (content.length + 1)
            (start + (delimiterAt content start).length)
            trail stop) ∧
      (∃ trail,
        ForwardTurns (braceTurn content) BracePlace.offset
          content.length ⟨start, 0⟩ trail
          (closingBrace content start)) ∧
      ∀ close, closingBrace content start = some close →
        start < close ∧ close < content.length ∧
          ∀ before behind,
            closingBrace
                (before ++
                  Text.slice content start (close + 1) ++
                  behind)
                before.length =
              some (before.length + (close - start)) :=
  ⟨exists_turns_of_literalEnd hStart,
    exists_turns_of_closingBrace content start,
    fun _ h => closingBrace_inside h⟩

/-
  A block with a brace in a literal and one in a comment, and
  behind it a literal that the text leaves open after a
  backslash.
-/
def openEnded : List Char :=
  "x \x7b '\x7d' /*\x7d*/ \x7d \"\\".toList

/-
  The block is found in other surroundings as well.  The scan
  of the literal leaves the text by one.
-/
theorem scans_go_forward_openEnded :
    (2 < openEnded.length ∧
      closingBrace openEnded 2 = some 14 ∧
      closingBrace
          ("''".toList ++ Text.slice openEnded 2 15 ++
            "'\x7b".toList) 2 = some 14) ∧
      16 < openEnded.length ∧
      delimiterAt openEnded 16 = [Text.doubleQuote] ∧
      ∃ trail,
        ForwardTurns
          (literalTurn openEnded [Text.doubleQuote]) id 19 17
          trail 18 := by
  have hStart : 2 < openEnded.length := by decide
  have hClose : closingBrace openEnded 2 = some 14 := by
    decide +kernel
  have hLast : 16 < openEnded.length := by decide
  have hDelimiter :
      delimiterAt openEnded 16 = [Text.doubleQuote] := by
    decide +kernel
  have hEnd : literalEnd openEnded 16 = some 18 := by
    decide +kernel
  rcases (scans_go_forward hLast).1 with
    ⟨stop, trail, hStop, _, _, _, hTurns⟩
  rw [hEnd, Option.some.injEq] at hStop
  subst hStop
  rw [hDelimiter] at hTurns
  exact ⟨⟨hStart, hClose,
    ((scans_go_forward hStart).2.2 14 hClose).2.2 _ _⟩,
    hLast, hDelimiter, trail, hTurns⟩

end Script

end GradleMigration
