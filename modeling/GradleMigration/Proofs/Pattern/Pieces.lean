import GradleMigration.Proofs.Pattern.Spelling
import GradleMigration.Proofs.Pattern.Transport
import GradleMigration.Proofs.Text.Words

/-
  Patterns that can read a text in one way only.

  Signs, gaps and words are read one after another.  A gap or
  a name takes all it can: what follows it could not start
  with what it would give back.  So the preferred way of such
  a pattern is found by reading the text once, and there is no
  way where reading fails.

  Main declarations:
    * `Piece` and `Piece.patterns`
    * `Piece.take` and `Piece.read`
    * `Piece.isLaid`
    * `Pattern.ways_sequence_append`
    * `Pattern.ways_stretch`
    * `Piece.head?_ways`
-/

------------------------------------------------------------
-- Pieces
------------------------------------------------------------

namespace GradleMigration

namespace Pattern

/- As many characters of a kind as there are. -/
def stretch
    (kind : CharKind)
    (needed : Bool) : Pattern :=
  .loop ⟨if needed then 1 else 0, none⟩ .greedy
    (.one ⟨false, [.kind kind false false], .exact⟩)

/- A place where a word starts or ends. -/
def edge : Pattern :=
  .anchor (.boundary false false)

end Pattern

/-
  A piece of a text: a sign, a gap of blanks, which may be
  remembered or called for, any word, or a given one.
-/
inductive Piece where
| sign (c : Char)
| gap (kept needed : Bool)
| name
| word (text : List Char)
deriving DecidableEq, Repr

/- What has been read of a text, and what is left of it. -/
structure Taken where
  passed : List Char
  captured : List (Nat × List Char)
  rest : List Char

namespace Piece

/- The patterns for a piece, to be put one after another. -/
def patterns : Piece → List Pattern
| .sign c => [.letter c]
| .gap kept needed =>
    let blanks := Pattern.stretch .blank needed
    [if kept then .group 1 blanks else blanks]
| .name => [.stretch .word true]
| .word text => text.map .letter ++ [.edge]

/- What a piece takes from the front of a text. -/
def take : Piece → List Char → Option (List Char)
| .sign c, text =>
    if text.head? = some c then some [c] else none
| .gap _ needed, text =>
    let blanks := text.takeWhile Text.isBlank
    if needed && blanks.isEmpty then none else some blanks
| .name, text =>
    let word := text.takeWhile Text.isWord
    if word.isEmpty then none else some word
| .word given, text =>
    if text.takeWhile Text.isWord = given then
      some given
    else
      none

/- What is remembered of a piece. -/
def captured
    (piece : Piece)
    (part : List Char) : List (Nat × List Char) :=
  match piece with
  | .gap true _ => [(1, part)]
  | _ => []

/- Read pieces one after another. -/
def read : List Piece → List Char → Option Taken
| [], text => some ⟨[], [], text⟩
| piece :: pieces, text =>
    (piece.take text).bind fun part =>
      (read pieces (text.drop part.length)).map fun taken =>
        { taken with
          passed := part ++ taken.passed
          captured := taken.captured ++ piece.captured part }

/- Signs are no blanks and in no word, and words are words. -/
def isProper : Piece → Bool
| .sign c => !Text.isWord c && !Text.isBlank c
| .word text => !text.isEmpty && text.all Text.isWord
| _ => true

/- Whether pieces may start with a character of a word. -/
def opensWord : List Piece → Bool
| .sign _ :: _ => false
| .gap _ needed :: pieces => !needed && opensWord pieces
| _ => true

/- Whether pieces may start with what a piece gives back. -/
def clashes : Piece → List Piece → Bool
| .gap _ _, .gap _ _ :: _ => true
| .name, pieces => opensWord pieces
| _, _ => false

/- Whether no piece takes from the one behind it. -/
def isLaid : List Piece → Bool
| [] => true
| piece :: pieces =>
    piece.isProper &&
      ((pieces.isEmpty || !piece.clashes pieces) &&
        isLaid pieces)

end Piece

end GradleMigration

------------------------------------------------------------
-- Reading
------------------------------------------------------------

namespace GradleMigration

namespace Piece

/- What is taken is the front of the text. -/
theorem append_drop_of_take
    {piece : Piece}
    {text part : List Char}
    (h : piece.take text = some part) :
    text = part ++ text.drop part.length := by
  have hPrefix : part <+: text := by
    cases piece with
    | sign c =>
        rw [take] at h
        split at h
        · next hHead =>
            cases h
            rcases List.head?_eq_some_iff.mp hHead with
              ⟨rest, hText⟩
            exact ⟨rest, hText.symm⟩
        · cases h
    | gap kept needed =>
        simp only [take] at h
        split at h
        · cases h
        · cases h
          exact List.takeWhile_prefix _
    | name =>
        simp only [take] at h
        split at h
        · cases h
        · cases h
          exact List.takeWhile_prefix _
    | word given =>
        rw [take] at h
        split at h
        · next hGiven =>
            cases h
            rw [← hGiven]
            exact List.takeWhile_prefix _
        · cases h
  rcases hPrefix with ⟨rest, hText⟩
  rw [← hText, List.drop_left]

/- Pieces are read one after another. -/
theorem of_read_cons
    {piece : Piece}
    {pieces : List Piece}
    {text : List Char}
    {taken : Taken}
    (h : read (piece :: pieces) text = some taken) :
    ∃ part later, piece.take text = some part ∧
      read pieces (text.drop part.length) = some later ∧
        taken =
          ⟨part ++ later.passed,
            later.captured ++ piece.captured part,
            later.rest⟩ := by
  rcases Option.bind_eq_some_iff.mp h with
    ⟨part, hPart, hRest⟩
  rcases Option.map_eq_some_iff.mp hRest with
    ⟨later, hLater, hEq⟩
  exact ⟨part, later, hPart, hLater, hEq.symm⟩

/- What has been read is the front of the text. -/
theorem append_of_read
    {pieces : List Piece}
    {text : List Char}
    {taken : Taken}
    (h : read pieces text = some taken) :
    text = taken.passed ++ taken.rest := by
  induction pieces generalizing text taken with
  | nil =>
      cases h
      rfl
  | cons piece pieces ih =>
      rcases of_read_cons h with
        ⟨part, later, hPart, hLater, hEq⟩
      subst hEq
      rw [List.append_assoc, ← ih hLater]
      exact append_drop_of_take hPart

/- What is remembered are blanks. -/
theorem isBlank_of_captured
    {pieces : List Piece}
    {text : List Char}
    {taken : Taken}
    (h : read pieces text = some taken) :
    ∀ entry ∈ taken.captured,
      ∀ c ∈ entry.2, Text.isBlank c = true := by
  induction pieces generalizing text taken with
  | nil =>
      cases h
      simp
  | cons piece pieces ih =>
      rcases of_read_cons h with
        ⟨part, later, hPart, hLater, hEq⟩
      subst hEq
      intro entry hEntry
      rcases List.mem_append.mp hEntry with hThere | hHere
      · exact ih hLater entry hThere
      · unfold captured at hHere
        split at hHere
        · next needed =>
            cases List.mem_singleton.mp hHere
            simp only [take] at hPart
            split at hPart
            · cases hPart
            · cases hPart
              exact List.all_eq_true.mp List.all_takeWhile
        · cases hHere

/- What the pieces take. -/
theorem of_take_sign
    {c : Char}
    {text part : List Char}
    (h : (Piece.sign c).take text = some part) :
    part = [c] := by
  rw [take] at h
  split at h
  · cases h
    rfl
  · cases h

theorem of_take_name
    {text part : List Char}
    (h : Piece.name.take text = some part) :
    part ≠ [] ∧ ∀ c ∈ part, Text.isWord c = true := by
  simp only [take] at h
  split at h
  · cases h
  · next hNil =>
      cases h
      exact ⟨fun hEmpty => hNil (List.isEmpty_iff.mpr hEmpty),
        List.all_eq_true.mp List.all_takeWhile⟩

theorem of_take_word
    {given text part : List Char}
    (h : (Piece.word given).take text = some part) :
    part = given ∧
      Anchor.wordAt false (text.drop part.length) = false := by
  rw [take] at h
  split at h
  · next hGiven =>
      cases h
      refine ⟨rfl, ?_⟩
      rw [← hGiven, Text.drop_takeWhile]
      exact Text.wordAt_dropWhile text
  · cases h

/- A sign is taken only where it stands. -/
theorem take_sign_eq_none
    {c : Char}
    {text : List Char}
    (h : text.head? ≠ some c) :
    (Piece.sign c).take text = none :=
  if_neg h

/- No gap is in front of a word. -/
theorem takeWhile_isBlank_of_wordAt
    {text : List Char}
    (h : Anchor.wordAt false text = true) :
    text.takeWhile Text.isBlank = [] := by
  cases text with
  | nil => rfl
  | cons c rest =>
      have hC : Text.isWord c = true := h
      apply List.takeWhile_cons_of_neg
      intro hBlank
      rw [Text.isWord_of_isBlank hBlank] at hC
      cases hC

/- Pieces that open with no word do not read one. -/
theorem read_eq_none_of_wordAt
    {pieces : List Piece}
    (hLaid : isLaid pieces = true)
    (hOpens : opensWord pieces = false)
    {text : List Char}
    (h : Anchor.wordAt false text = true) :
    read pieces text = none := by
  induction pieces with
  | nil => cases hOpens
  | cons piece pieces ih =>
      simp only [isLaid, Bool.and_eq_true] at hLaid
      rw [read]
      cases piece with
      | sign c =>
          have hSign : Text.isWord c = false := by
            have hProper := hLaid.1
            simp only [isProper, Bool.and_eq_true,
              Bool.not_eq_true'] at hProper
            exact hProper.1
          rw [take_sign_eq_none]
          · rfl
          · intro hHead
            rcases List.head?_eq_some_iff.mp hHead with
              ⟨rest, hText⟩
            subst hText
            have hWord : Text.isWord c = true := h
            rw [hSign] at hWord
            cases hWord
      | gap kept needed =>
          simp only [take, takeWhile_isBlank_of_wordAt h]
          cases needed with
          | true => rfl
          | false =>
              have hRest : read pieces text = none :=
                ih hLaid.2.2 hOpens
              simp [hRest]
      | name => cases hOpens
      | word given => cases hOpens

/- A blank opens nothing but a gap. -/
theorem read_eq_none_of_isBlank
    {pieces : List Piece}
    (hLaid : isLaid pieces = true)
    (hMore : pieces ≠ [])
    {kept needed : Bool}
    (hClash : (Piece.gap kept needed).clashes pieces = false)
    {c : Char}
    (h : Text.isBlank c = true)
    (rest : List Char) :
    read pieces (c :: rest) = none := by
  cases pieces with
  | nil => exact absurd rfl hMore
  | cons piece pieces =>
      simp only [isLaid, Bool.and_eq_true] at hLaid
      have hProper := hLaid.1
      have hNone : (c :: rest).takeWhile Text.isWord = [] := by
        simp [Text.isWord_of_isBlank h]
      rw [read]
      cases piece with
      | gap kept needed => cases hClash
      | sign d =>
          rw [take_sign_eq_none]
          · rfl
          · intro hHead
            cases hHead
            rw [isProper, h] at hProper
            simp at hProper
      | name =>
          simp only [take, hNone]
          rfl
      | word given =>
          have hGiven : ¬ [] = given := by
            intro hEmpty
            subst hEmpty
            cases hProper
          simp only [take, hNone, if_neg hGiven]
          rfl

/- Whether a text goes on with what a piece would take. -/
def goesOn : Piece → List Char → Bool
| .gap _ _, text => text.head?.any Text.isBlank
| .name, text => text.head?.any Text.isWord
| _, _ => false

/- What a piece gives back is not read by the next. -/
theorem read_eq_none_of_goesOn
    {piece : Piece}
    {pieces : List Piece}
    (hLaid : isLaid (piece :: pieces) = true)
    (hMore : pieces ≠ [])
    {text : List Char}
    (h : piece.goesOn text = true) :
    read pieces text = none := by
  simp only [isLaid, Bool.and_eq_true, Bool.or_eq_true,
    List.isEmpty_iff, hMore, false_or,
    Bool.not_eq_true'] at hLaid
  rcases hLaid with ⟨_, hClash, hRest⟩
  cases text with
  | nil => cases piece <;> cases h
  | cons c rest =>
      cases piece with
      | sign d => cases h
      | word given => cases h
      | gap kept needed =>
          exact read_eq_none_of_isBlank hRest hMore hClash h _
      | name => exact read_eq_none_of_wordAt hRest hClash h

end Piece

end GradleMigration

------------------------------------------------------------
-- Ways of Sequences and Stretches
------------------------------------------------------------

namespace GradleMigration

/- The spot behind some text, with more captures. -/
def Spot.past
    (s : Spot)
    (text rest : List Char)
    (captured : List (Nat × List Char)) : Spot where
  before := text.reverse ++ s.before
  after := rest
  pos := s.pos + text.length
  groups := captured ++ s.groups

@[simp] theorem Spot.past_after
    (s : Spot)
    (text rest : List Char)
    (captured : List (Nat × List Char)) :
    (s.past text rest captured).after = rest :=
  rfl

/- Passing over one text and then over another. -/
theorem Spot.past_past
    (s : Spot)
    (first second behind rest : List Char)
    (captured more : List (Nat × List Char)) :
    (s.past first behind captured).past second rest more =
      s.past (first ++ second) rest (more ++ captured) := by
  simp [past, Nat.add_assoc]

theorem Spot.step_eq_past
    (s : Spot)
    (c : Char)
    (rest : List Char) :
    s.step c rest = s.past [c] rest [] :=
  rfl

theorem Spot.past_nil
    (s : Spot) :
    s.past [] s.after [] = s :=
  rfl

namespace Pattern

/- The ways of a sequence, part by part. -/
theorem ways_sequence_cons
    (p : Pattern)
    (ps : List Pattern)
    (s : Spot) :
    (sequence (p :: ps)).ways s =
      (p.ways s).flatMap (sequence ps).ways := by
  cases ps with
  | nil =>
      have hEmpty : (sequence []).ways = fun t => [t] := rfl
      rw [hEmpty, List.flatMap_singleton']
      rfl
  | cons q qs => rfl

theorem ways_sequence_append
    (ps qs : List Pattern)
    (s : Spot) :
    (sequence (ps ++ qs)).ways s =
      ((sequence ps).ways s).flatMap (sequence qs).ways := by
  induction ps generalizing s with
  | nil => simp [sequence, ways]
  | cons p ps ih =>
      rw [List.cons_append, ways_sequence_cons,
        ways_sequence_cons, List.flatMap_assoc]
      exact congrArg (fun f => (p.ways s).flatMap f) (funext ih)

/- A letter is passed over where it stands. -/
theorem ways_letter
    (c : Char)
    (s : Spot) :
    (letter c).ways s =
      if s.after.head? = some c then
        [s.past [c] s.after.tail []]
      else
        [] := by
  unfold letter
  rw [ways]
  cases hAfter : s.after with
  | nil => rfl
  | cons d rest =>
      simp only [List.head?_cons, Option.some.injEq,
        List.tail_cons, accepts_letter]
      split
      · next hD =>
          subst hD
          rfl
      · rfl

/- Letters are passed over where their text stands. -/
theorem ways_letters
    (text : List Char)
    (s : Spot) :
    (sequence (text.map letter)).ways s =
      if text <+: s.after then
        [s.past text (s.after.drop text.length) []]
      else
        [] := by
  induction text generalizing s with
  | nil => simp [sequence, ways, Spot.past_nil]
  | cons c rest ih =>
      rw [List.map_cons, ways_sequence_cons, ways_letter]
      cases hAfter : s.after with
      | nil => simp
      | cons d more =>
          by_cases hD : d = c
          · subst hD
            simp only [List.head?_cons, if_true, List.tail_cons,
              List.flatMap_cons, List.flatMap_nil,
              List.append_nil, ih, Spot.past_after,
              List.cons_prefix_cons, true_and, Spot.past_past,
              List.length_cons, List.drop_succ_cons,
              List.singleton_append]
          · have hNe : ¬ c = d := fun hEq => hD hEq.symm
            simp [hD, hNe, List.cons_prefix_cons]

/- An edge is where a word starts or ends. -/
theorem ways_edge
    (s : Spot) :
    edge.ways s =
      if Anchor.wordAt false s.before =
          Anchor.wordAt false s.after then
        []
      else
        [s] := by
  have hHolds : (Anchor.boundary false false).holds s.before
      s.after =
        (Anchor.wordAt false s.before !=
          Anchor.wordAt false s.after) := by
    cases hBefore : s.before with
    | nil =>
        cases hAfter : s.after with
        | nil => rfl
        | cons c rest => simp [Anchor.holds]
    | cons c rest => simp [Anchor.holds]
  unfold edge
  rw [ways, hHolds]
  by_cases hSame : Anchor.wordAt false s.before =
      Anchor.wordAt false s.after
  · rw [if_pos hSame, hSame, bne_self_eq_false]
    rfl
  · rw [if_neg hSame, if_pos (bne_iff_ne.mpr hSame)]

variable {test : CharTest}

/-
  Ways of which the first is given; the others stop where the
  text goes on as described.
-/
def Prefers
    (goesOn : List Char → Bool)
    (first : Option Spot)
    (ways : List Spot) : Prop :=
  match first with
  | none => ways = []
  | some t =>
      ∃ others, ways = t :: others ∧
        ∀ u ∈ others, goesOn u.after = true

/- Without a character that is accepted there is no round. -/
theorem ways_one_eq_nil
    {s : Spot}
    (h : s.after.head?.any test.accepts = false) :
    (Pattern.one test).ways s = [] := by
  rw [ways]
  cases hAfter : s.after with
  | nil => rfl
  | cons c rest =>
      rw [hAfter] at h
      exact if_neg (Bool.eq_false_iff.mp h)

/- A stretch of what a text does not start with is empty. -/
theorem span_of_head?
    {given : Char → Bool}
    {text : List Char}
    (h : text.head?.any given = false) :
    text.takeWhile given = [] ∧
      text.dropWhile given = text := by
  cases text with
  | nil => exact ⟨rfl, rfl⟩
  | cons c rest =>
      have hC : ¬ given c = true := Bool.eq_false_iff.mp h
      exact ⟨List.takeWhile_cons_of_neg hC,
        List.dropWhile_cons_of_neg hC⟩

/- With nothing to take, the only way is to stay. -/
theorem greedyWays_one_of_head?
    {s : Spot}
    (h : s.after.head?.any test.accepts = false)
    (fuel : List Char)
    (last : Option Nat) :
    Prefers (·.head?.any test.accepts)
      (some (s.past (s.after.takeWhile test.accepts)
        (s.after.dropWhile test.accepts) []))
      (Repetition.greedyWays (Pattern.one test).ways fuel none
        last s) := by
  refine ⟨[], ?_, by simp⟩
  rw [Repetition.greedyWays_of_stuck (ways_one_eq_nil h),
    (span_of_head? h).1, (span_of_head? h).2, Spot.past_nil]

/- The ways through more rounds start with the longest. -/
theorem greedyWays_one
    {fuel : List Char}
    {last : Option Nat}
    {s : Spot}
    (hFuel : s.after.length ≤ fuel.length)
    (hLast : ∀ pos ∈ last, pos < s.pos) :
    Prefers (·.head?.any test.accepts)
      (some (s.past (s.after.takeWhile test.accepts)
        (s.after.dropWhile test.accepts) []))
      (Repetition.greedyWays (Pattern.one test).ways fuel none
        last s) := by
  induction fuel generalizing last s with
  | nil =>
      apply greedyWays_one_of_head?
      rw [List.eq_nil_of_length_eq_zero (Nat.le_zero.mp hFuel)]
      rfl
  | cons d fuel ih =>
      by_cases hHead : s.after.head?.any test.accepts = true
      · cases hAfter : s.after with
        | nil =>
            rw [hAfter] at hHead
            cases hHead
        | cons c rest =>
            rw [hAfter] at hHead hFuel
            have hC : test.accepts c = true := hHead
            have hRound : (Pattern.one test).ways s =
                [s.step c rest] := by
              rw [ways, hAfter]
              exact if_pos hC
            have hShort :
                (s.step c rest).after.length ≤ fuel.length :=
              Nat.le_of_succ_le_succ hFuel
            have hMoved : ∀ pos ∈ some s.pos,
                pos < (s.step c rest).pos := by
              rintro pos ⟨⟩
              exact Nat.lt_succ_self _
            rcases ih hShort hMoved with
              ⟨others, hOthers, hRest⟩
            refine ⟨others ++ [s], ?_, ?_⟩
            · have hRoom :
                  Repetition.useRoom none = none := rfl
              rw [Repetition.greedyWays,
                Repetition.mayGoOn_of_lt hLast, hRound,
                List.flatMap_singleton, hRoom, hOthers,
                List.takeWhile_cons_of_pos hC,
                List.dropWhile_cons_of_pos hC,
                Spot.step_eq_past, Spot.past_past]
              rfl
            · intro t hT
              rcases List.mem_append.mp hT with hLater | hHere
              · exact hRest t hLater
              · cases List.mem_singleton.mp hHere
                rw [hAfter]
                exact hHead
      · exact greedyWays_one_of_head?
          (Bool.eq_false_iff.mpr hHead) _ _

/- A stretch prefers to take all it can. -/
theorem ways_stretch
    (kind : CharKind)
    (needed : Bool)
    (s : Spot) :
    Prefers (·.head?.any (kind.holds false))
      (if needed &&
          (s.after.takeWhile (kind.holds false)).isEmpty then
        none
      else
        some (s.past (s.after.takeWhile (kind.holds false))
          (s.after.dropWhile (kind.holds false)) []))
      ((stretch kind needed).ways s) := by
  let test : CharTest :=
    ⟨false, [.kind kind false false], .exact⟩
  have hAccepts : test.accepts = kind.holds false := by
    funext c
    simp [test, CharTest.accepts, SetItem.accepts]
  have hWays : ∀ needed, (stretch kind needed).ways s =
      (Repetition.requiredWays (Pattern.one test).ways
        (if needed then 1 else 0) s).flatMap fun t =>
          Repetition.greedyWays (Pattern.one test).ways
            t.after none none t :=
    fun _ => rfl
  have hMore : ∀ t : Spot,
      Prefers (·.head?.any (kind.holds false))
        (some (t.past (t.after.takeWhile (kind.holds false))
          (t.after.dropWhile (kind.holds false)) []))
        (Repetition.greedyWays (Pattern.one test).ways
          t.after none none t) := by
    intro t
    rw [← hAccepts]
    exact greedyWays_one (Nat.le_refl _) (by simp)
  rw [hWays]
  cases needed with
  | false =>
      simp only [Bool.false_eq_true, if_false, Bool.false_and,
        Repetition.requiredWays, List.flatMap_singleton]
      exact hMore s
  | true =>
      simp only [if_true, Bool.true_and,
        Repetition.requiredWays, List.flatMap_assoc,
        List.flatMap_singleton]
      by_cases hHead :
          s.after.head?.any (kind.holds false) = true
      · cases hAfter : s.after with
        | nil =>
            rw [hAfter] at hHead
            cases hHead
        | cons c rest =>
            rw [hAfter] at hHead
            have hC : kind.holds false c = true := hHead
            have hRound : (Pattern.one test).ways s =
                [s.step c rest] := by
              rw [ways, hAfter, hAccepts]
              exact if_pos hC
            rw [hRound, List.flatMap_singleton,
              List.takeWhile_cons_of_pos hC,
              List.dropWhile_cons_of_pos hC]
            have hStep := hMore (s.step c rest)
            rw [Spot.step_eq_past, Spot.past_past] at hStep
            exact hStep
      · have hNone := Bool.eq_false_iff.mpr hHead
        have hRound : (Pattern.one test).ways s = [] :=
          ways_one_eq_nil (hAccepts ▸ hNone)
        rw [hRound, (span_of_head? hNone).1]
        rfl

end Pattern

end GradleMigration

------------------------------------------------------------
-- Ways of Pieces
------------------------------------------------------------

namespace GradleMigration

open Pattern

namespace Piece

/- Behind a word there is a word in front. -/
theorem wordAt_reverse_append
    {word : List Char}
    (hNil : word ≠ [])
    (h : ∀ c ∈ word, Text.isWord c = true)
    (before : List Char) :
    Anchor.wordAt false (word.reverse ++ before) = true := by
  rw [← List.dropLast_concat_getLast hNil]
  simp only [List.reverse_append, List.reverse_cons,
    List.reverse_nil, List.nil_append, List.cons_append]
  exact h _ (List.getLast_mem hNil)

/- A word is read where it stands and ends. -/
theorem ways_word
    {given : List Char}
    (hProper : (Piece.word given).isProper = true)
    (s : Spot) :
    (sequence (Piece.word given).patterns).ways s =
      if s.after.takeWhile Text.isWord = given then
        [s.past given (s.after.drop given.length) []]
      else
        [] := by
  simp only [isProper, Bool.and_eq_true, Bool.not_eq_true',
    List.isEmpty_eq_false_iff, List.all_eq_true] at hProper
  have hEdge : Anchor.wordAt false
      (s.past given (s.after.drop given.length) []).before =
        true :=
    wordAt_reverse_append hProper.1 hProper.2 s.before
  rw [patterns, ways_sequence_append, ways_letters]
  by_cases hGiven : given <+: s.after
  · rw [if_pos hGiven, List.flatMap_singleton]
    change edge.ways _ = _
    rw [ways_edge, hEdge, Spot.past_after]
    by_cases hOn : Anchor.wordAt false
        (s.after.drop given.length) = true
    · rw [if_pos hOn.symm, if_neg]
      intro hEq
      have hEnded := (Text.takeWhile_eq_iff hProper.2).mp hEq
      rw [hEnded.2] at hOn
      cases hOn
    · rw [if_neg fun hEq => hOn hEq.symm, if_pos]
      exact (Text.takeWhile_eq_iff hProper.2).mpr
        ⟨hGiven, Bool.eq_false_iff.mpr hOn⟩
  · rw [if_neg hGiven, if_neg]
    · rfl
    · intro hEq
      exact hGiven
        ((Text.takeWhile_eq_iff hProper.2).mp hEq).1

/- A group prefers what its body prefers. -/
theorem prefers_group
    {goesOn : List Char → Bool}
    {p : Pattern}
    {s : Spot}
    {part rest : List Char}
    (h : Prefers goesOn (some (s.past part rest []))
      (p.ways s))
    (hAfter : s.after = part ++ rest) :
    Prefers goesOn (some (s.past part rest [(1, part)]))
      ((Pattern.group 1 p).ways s) := by
  rcases h with ⟨others, hOthers, hRest⟩
  have hPasses : s.Passes (s.past part rest []) part [] :=
    ⟨hAfter, rfl, rfl, rfl⟩
  refine ⟨others.map fun t => t.capture 1 (s.textTo t), ?_, ?_⟩
  · rw [ways, hOthers, List.map_cons, hPasses.textTo_eq]
    rfl
  · intro u hU
    rcases List.mem_map.mp hU with ⟨t, hT, hEq⟩
    subst hEq
    exact hRest t hT

/- A piece prefers what it takes. -/
theorem ways_piece
    {piece : Piece}
    (hProper : piece.isProper = true)
    (s : Spot) :
    Prefers piece.goesOn
      ((piece.take s.after).map fun part =>
        s.past part (s.after.drop part.length)
          (piece.captured part))
      ((sequence piece.patterns).ways s) := by
  cases piece with
  | sign c =>
      have hWays := ways_letter c s
      rw [take]
      by_cases hHead : s.after.head? = some c
      · rw [if_pos hHead] at hWays ⊢
        exact ⟨[], by rw [← List.drop_one] at hWays; exact hWays,
          by simp⟩
      · rw [if_neg hHead] at hWays ⊢
        exact hWays
  | gap kept needed =>
      have hStretch := ways_stretch .blank needed s
      have hHolds : CharKind.blank.holds false = Text.isBlank :=
        rfl
      simp only [hHolds] at hStretch
      simp only [take]
      by_cases hNone : (needed &&
          (s.after.takeWhile Text.isBlank).isEmpty) = true
      · rw [if_pos hNone] at hStretch ⊢
        cases kept with
        | false => exact hStretch
        | true =>
            change ((stretch .blank needed).ways s).map _ = []
            rw [List.map_eq_nil_iff]
            exact hStretch
      · rw [if_neg hNone] at hStretch ⊢
        rw [Option.map_some, Text.drop_takeWhile]
        cases kept with
        | false => exact hStretch
        | true =>
            exact prefers_group hStretch
              List.takeWhile_append_dropWhile.symm
  | name =>
      have hStretch := ways_stretch .word true s
      have hHolds : CharKind.word.holds false = Text.isWord :=
        rfl
      simp only [hHolds, Bool.true_and] at hStretch
      simp only [take]
      by_cases hNone :
          (s.after.takeWhile Text.isWord).isEmpty = true
      · rw [if_pos hNone] at hStretch ⊢
        exact hStretch
      · rw [if_neg hNone] at hStretch ⊢
        rw [Option.map_some, Text.drop_takeWhile]
        exact hStretch
  | word given =>
      rw [ways_word hProper, take]
      by_cases hGiven : s.after.takeWhile Text.isWord = given
      · rw [if_pos hGiven, if_pos hGiven]
        exact ⟨[], rfl, by simp⟩
      · rw [if_neg hGiven, if_neg hGiven]
        rfl

/- The spot behind what has been read. -/
def behind
    (s : Spot)
    (taken : Taken) : Spot :=
  s.past taken.passed taken.rest taken.captured

/-
  The preferred way of pieces that do not take from each other
  is to read them; there is none where they cannot be read.
-/
theorem head?_ways
    {pieces : List Piece}
    (hLaid : isLaid pieces = true)
    (s : Spot) :
    ((sequence (pieces.flatMap patterns)).ways s).head? =
      (read pieces s.after).map (behind s) := by
  induction pieces generalizing s with
  | nil => rfl
  | cons piece pieces ih =>
      have hParts := hLaid
      simp only [isLaid, Bool.and_eq_true] at hParts
      have hPiece := ways_piece hParts.1 s
      rw [List.flatMap_cons, ways_sequence_append, read]
      cases hTake : piece.take s.after with
      | none =>
          rw [hTake] at hPiece
          rw [show (sequence piece.patterns).ways s = [] from
            hPiece]
          rfl
      | some part =>
          rw [hTake] at hPiece
          rcases hPiece with ⟨others, hOthers, hRest⟩
          have hNext := ih hParts.2.2
            (s.past part (s.after.drop part.length)
              (piece.captured part))
          have hRead :
              ((sequence (pieces.flatMap patterns)).ways
                (s.past part (s.after.drop part.length)
                  (piece.captured part))).head? =
                (read pieces (s.after.drop part.length)).map
                  fun taken => behind s
                    { taken with
                      passed := part ++ taken.passed
                      captured :=
                        taken.captured ++
                          piece.captured part } := by
            rw [hNext]
            refine Option.map_congr fun taken _ => ?_
            exact s.past_past _ _ _ _ _ _
          rw [hOthers, List.flatMap_cons, Option.bind_some,
            Option.map_map]
          by_cases hMore : pieces = []
          · subst hMore
            exact hRead
          · -- What is given back leads nowhere.
            have hNone : others.flatMap
                (sequence (pieces.flatMap patterns)).ways = [] := by
              rw [List.flatMap_eq_nil_iff]
              intro u hU
              have hStuck := ih hParts.2.2 u
              rw [read_eq_none_of_goesOn hLaid hMore
                (hRest u hU)] at hStuck
              exact List.head?_eq_none_iff.mp hStuck
            rw [hNone, List.append_nil]
            exact hRead

end Piece

end GradleMigration
