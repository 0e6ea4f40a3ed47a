import GradleMigration.Proofs.Pattern.Pieces
import GradleMigration.Proofs.Rule.OnePerLine

/-
  Constructs that are known by a word and what stands behind
  it, and what comes in their place.

  A form for such a construct rewrites a text word by word:
  hits start in a word that is long enough for them only, so
  the walk over the text keeps every other word whole.

  Main declarations:
    * `Construct` and `Construct.form`
    * `Construct.occurs` and `Construct.rewrite`
    * `Form.Reads`
    * `Construct.reads_form`
    * `Form.Reads.rewrite_eq`
-/

------------------------------------------------------------
-- Constructs
------------------------------------------------------------

namespace GradleMigration

/-
  A word with the pieces behind it, and what is put before and
  behind the part that is kept.  A loose construct may end a
  longer word, and is kept whole; else gaps may be kept.
-/
structure Construct where
  loose : Bool := false
  word : List Char
  tail : List Piece
  lead : List Char
  close : List Char
  word_ne_nil : word ≠ [] := by decide
  word_word : ∀ c ∈ word, Text.isWord c = true := by
    exact List.all_eq_true.mp (by decide)
  tail_laid : Piece.isLaid tail = true := by decide
  tail_apart : Piece.opensWord tail = false := by decide

/- The gap that has been kept. -/
def Taken.kept
    (taken : Taken) : List Char :=
  (taken.captured.lookup 1).getD []

namespace Construct

variable (p : Construct)

/- Whether a gap is kept. -/
def keeps : Bool :=
  p.tail.any fun piece =>
    match piece with
    | .gap kept _ => kept
    | _ => false

/- What comes in the place of a construct. -/
def put
    (taken : Taken) : List Char :=
  p.lead ++
    ((if p.loose then
        p.word ++ taken.passed
      else if p.keeps then
        taken.kept
      else
        []) ++ p.close)

/- Whether a word may belong to a construct. -/
def heads
    (word : List Char) : Bool :=
  if p.loose then
    p.word.isSuffixOf word
  else
    word == p.word

/- What a word and the text behind it have of a construct. -/
def occurs
    (word behind : List Char) : Option Taken :=
  if p.heads word then Piece.read p.tail behind else none

/- Replace a construct, and keep other words. -/
def edit
    (word behind : List Char) : Text.Edit :=
  match p.occurs word behind with
  | none => ⟨word, 0⟩
  | some taken =>
      ⟨word.take (word.length - p.word.length) ++ p.put taken,
        taken.passed.length⟩

/- Replace all constructs in a text. -/
def rewrite
    (text : List Char) : List Char :=
  Text.rewriteWords p.edit text

/- The form that replaces constructs that are not loose. -/
def form : Form where
  pattern :=
    .sequence (.edge :: (p.word.map .letter ++
      p.tail.flatMap Piece.patterns))
  template :=
    literals p.lead ++
      ((if p.keeps then [.group 1] else []) ++
        literals p.close)

end Construct

end GradleMigration

------------------------------------------------------------
-- Words with a Construct
------------------------------------------------------------

namespace GradleMigration

namespace Construct

variable {p : Construct}

/- A word that heads a construct ends with its word. -/
theorem heads_iff
    {word : List Char} :
    p.heads word = true ↔
      ∃ front, word = front ++ p.word ∧
        (p.loose = false → front = []) := by
  unfold heads
  cases p.loose with
  | true =>
      rw [if_pos rfl, List.isSuffixOf_iff_suffix]
      constructor
      · rintro ⟨front, hWord⟩
        exact ⟨front, hWord.symm, nofun⟩
      · rintro ⟨front, hWord, _⟩
        exact ⟨front, hWord.symm⟩
  | false =>
      rw [if_neg Bool.false_ne_true, beq_iff_eq]
      constructor
      · intro hWord
        exact ⟨[], hWord, fun _ => rfl⟩
      · rintro ⟨front, hWord, hNil⟩
        rw [hWord, hNil rfl]
        rfl

/- A word and the text behind it hold a construct. -/
structure Occurs
    (p : Construct)
    (front behind : List Char)
    (taken : Taken) : Prop where
  strict : p.loose = false → front = []
  read : Piece.read p.tail behind = some taken

/- The parts of a construct. -/
theorem exists_occurs
    {word behind : List Char}
    {taken : Taken}
    (h : p.occurs word behind = some taken) :
    ∃ front, word = front ++ p.word ∧
      p.Occurs front behind taken := by
  unfold occurs at h
  split at h
  · next hHeads =>
      rcases heads_iff.mp hHeads with ⟨front, hWord, hStrict⟩
      exact ⟨front, hWord, hStrict, h⟩
  · cases h

/- A construct is replaced, and what is in front kept. -/
theorem edit_of_occurs
    {word behind : List Char}
    {taken : Taken}
    (h : p.occurs word behind = some taken) :
    p.edit word behind =
      ⟨word.take (word.length - p.word.length) ++ p.put taken,
        taken.passed.length⟩ := by
  unfold edit
  rw [h]

theorem edit_of_occurs_none
    {word behind : List Char}
    (h : p.occurs word behind = none) :
    p.edit word behind = ⟨word, 0⟩ := by
  unfold edit
  rw [h]

/- A word without a construct is kept. -/
theorem rewrite_of_occurs_none
    {word behind : List Char}
    (hRun : Text.IsRun word behind)
    (h : p.occurs word behind = none) :
    p.rewrite (word ++ behind) = word ++ p.rewrite behind := by
  unfold rewrite
  rw [Text.rewriteWords_run hRun, edit_of_occurs_none h]
  rfl

/- A construct is replaced. -/
theorem rewrite_of_occurs
    {front behind : List Char}
    {taken : Taken}
    (hRun : Text.IsRun (front ++ p.word) behind)
    (h : p.Occurs front behind taken) :
    p.rewrite (front ++ p.word ++ behind) =
      front ++ (p.put taken ++ p.rewrite taken.rest) := by
  have hHeads : p.heads (front ++ p.word) = true :=
    heads_iff.mpr ⟨front, rfl, h.strict⟩
  have hOccurs : p.occurs (front ++ p.word) behind =
      some taken := by
    rw [occurs, if_pos hHeads, h.read]
  have hRest : behind.drop taken.passed.length =
      taken.rest := by
    rw [Piece.append_of_read h.read, List.drop_left]
  unfold rewrite
  rw [Text.rewriteWords_run hRun, edit_of_occurs hOccurs]
  simp only [hRest]
  rw [List.length_append, Nat.add_sub_cancel, List.take_left,
    List.append_assoc]

end Construct

end GradleMigration

------------------------------------------------------------
-- Forms that Read Constructs
------------------------------------------------------------

namespace GradleMigration

open Script

namespace Construct

variable (p : Construct)

/- What a text that starts with a construct has of it. -/
def starts
    (text : List Char) : Option Taken :=
  if text.takeWhile Text.isWord = p.word then
    Piece.read p.tail (text.dropWhile Text.isWord)
  else
    none

/- What of a construct is found at a place. -/
def find
    (insideWord : Bool)
    (text : List Char) : Option Taken :=
  if !p.loose && insideWord then none else p.starts text

end Construct

/-
  The ways of a form are those to read a construct, and its
  template puts what belongs in the place of the construct.
-/
structure Form.Reads
    (form : Form)
    (p : Construct) : Prop where
  moving : form.pattern.isMoving = true
  ways_eq_nil : ∀ {before text : List Char},
    p.find (Anchor.wordAt false before) text = none →
      form.pattern.ways (Pattern.spotAt before text) = []
  head? : ∀ {before text : List Char} {taken : Taken},
    p.find (Anchor.wordAt false before) text = some taken →
      ∃ t,
        (form.pattern.ways
          (Pattern.spotAt before text)).head? = some t ∧
          t.before =
            (p.word ++ taken.passed).reverse ++ before ∧
          t.after = taken.rest ∧
          expand form.template
              (.between (Pattern.spotAt before text) t) =
            p.put taken

namespace Piece

/- No word goes on at a place. -/
def Outside
    (before text : List Char) : Prop :=
  Anchor.wordAt false before = false ∨
    Anchor.wordAt false text = false

/- No word goes on behind a piece if none did before it. -/
theorem outside_of_take
    {piece : Piece}
    (hProper : piece.isProper = true)
    {before text part : List Char}
    (h : Outside before text)
    (hTake : piece.take text = some part) :
    Outside (part.reverse ++ before)
      (text.drop part.length) := by
  cases piece with
  | sign c =>
      rw [take] at hTake
      split at hTake
      · cases hTake
        left
        rw [isProper, Bool.and_eq_true, Bool.not_eq_true']
          at hProper
        exact hProper.1
      · cases hTake
  | gap kept needed =>
      simp only [take] at hTake
      split at hTake
      · cases hTake
      · cases hTake
        by_cases hNil : text.takeWhile Text.isBlank = []
        · rw [hNil]
          exact h
        · left
          rw [← List.dropLast_concat_getLast hNil]
          simp only [List.reverse_append, List.reverse_cons,
            List.reverse_nil, List.nil_append,
            List.cons_append]
          have hBlank : Text.isBlank
              ((text.takeWhile Text.isBlank).getLast hNil) =
                true :=
            List.all_eq_true.mp List.all_takeWhile _
              (List.getLast_mem hNil)
          exact Text.isWord_of_isBlank hBlank
  | name =>
      simp only [take] at hTake
      split at hTake
      · cases hTake
      · cases hTake
        right
        rw [Text.drop_takeWhile]
        exact Text.wordAt_dropWhile text
  | word given =>
      rw [take] at hTake
      split at hTake
      · next hGiven =>
          cases hTake
          right
          rw [← hGiven, Text.drop_takeWhile]
          exact Text.wordAt_dropWhile text
      · cases hTake

/- No word goes on behind pieces if none did before them. -/
theorem outside_of_read
    {pieces : List Piece}
    (hLaid : isLaid pieces = true)
    {before text : List Char}
    {taken : Taken}
    (h : Outside before text)
    (hRead : read pieces text = some taken) :
    Outside (taken.passed.reverse ++ before) taken.rest := by
  induction pieces generalizing before text taken with
  | nil =>
      cases hRead
      exact h
  | cons piece pieces ih =>
      simp only [isLaid, Bool.and_eq_true] at hLaid
      rcases of_read_cons hRead with
        ⟨part, later, hPart, hLater, hEq⟩
      subst hEq
      have hLast := ih hLaid.2.2
        (outside_of_take hLaid.1 h hPart) hLater
      rw [List.reverse_append, List.append_assoc]
      exact hLast

end Piece

/- The end of a word. -/
theorem Text.IsRun.suffix
    {front word behind : List Char}
    (h : IsRun (front ++ word) behind)
    (hNil : word ≠ []) :
    IsRun word behind where
  ne_nil := hNil
  isWord c hC := h.isWord c (List.mem_append_right _ hC)
  ended := h.ended

namespace Construct

variable {p : Construct}

/- A construct starts with its word. -/
theorem find_run
    {word behind : List Char}
    (hRun : Text.IsRun word behind)
    (insideWord : Bool) :
    p.find insideWord (word ++ behind) =
      if !p.loose && insideWord then
        none
      else if word = p.word then
        Piece.read p.tail behind
      else
        none := by
  unfold find starts
  rw [hRun.takeWhile_eq, hRun.dropWhile_eq]

/- Nothing is found in a word that holds no construct. -/
theorem find_of_occurs_none
    {passed left behind : List Char}
    (hRun : Text.IsRun (passed ++ left) behind)
    (hLeft : left ≠ [])
    (h : p.occurs (passed ++ left) behind = none)
    {insideWord : Bool}
    (hInside : passed ≠ [] → insideWord = true) :
    p.find insideWord (left ++ behind) = none := by
  rw [find_run (hRun.suffix hLeft)]
  by_cases hLast : left = p.word
  · subst hLast
    by_cases hBarred : (!p.loose && insideWord) = true
    · rw [if_pos hBarred]
    · rw [if_neg hBarred, if_pos rfl]
      -- The construct would have been in the whole word.
      have hHeads : p.heads (passed ++ p.word) = true := by
        refine heads_iff.mpr ⟨passed, rfl, ?_⟩
        intro hStrict
        by_cases hPassed : passed = []
        · exact hPassed
        · refine absurd ?_ hBarred
          rw [hStrict, hInside hPassed]
          rfl
      rw [occurs, if_pos hHeads] at h
      exact h
  · rw [if_neg hLast, ite_self]

/- A text that starts with a construct, and its parts. -/
theorem append_of_starts
    {text : List Char}
    {taken : Taken}
    (h : p.starts text = some taken) :
    text = p.word ++ taken.passed ++ taken.rest := by
  unfold starts at h
  split at h
  · next hWord =>
      rw [List.append_assoc, ← Piece.append_of_read h,
        ← hWord, List.takeWhile_append_dropWhile]
  · cases h

/- No construct starts at a sign. -/
theorem starts_of_wordAt
    {text : List Char}
    (h : Anchor.wordAt false text = false) :
    p.starts text = none := by
  unfold starts
  rw [(Text.takeWhile_of_wordAt h).1, if_neg]
  intro hNil
  exact p.word_ne_nil hNil.symm

theorem find_of_wordAt
    {text : List Char}
    (h : Anchor.wordAt false text = false)
    (insideWord : Bool) :
    p.find insideWord text = none := by
  unfold find
  rw [starts_of_wordAt h, ite_self]

end Construct

namespace Form

variable {form : Form} {p : Construct}

/- What is in front of the word of a construct is kept. -/
theorem Reads.rewriteFrom_front
    (h : form.Reads p)
    {front behind : List Char}
    (hRun : Text.IsRun (front ++ p.word) behind)
    (before : List Char) :
    form.pattern.rewriteFrom (expand form.template) 0 before
        (front ++ (p.word ++ behind)) =
      front ++
        form.pattern.rewriteFrom (expand form.template) 0
          (front.reverse ++ before) (p.word ++ behind) := by
  apply Pattern.rewriteFrom_of_ways_eq_nil
  intro passed left hFront hLeft
  apply h.ways_eq_nil
  rw [hFront, List.append_assoc] at hRun
  have hLong : left ++ p.word ≠ p.word := by
    intro hEq
    exact hLeft (by simpa using hEq)
  rw [← List.append_assoc, Construct.find_run
    (hRun.suffix (by simp [hLeft])), if_neg hLong, ite_self]

/- A word without a construct is kept. -/
theorem Reads.rewriteFrom_run
    (h : form.Reads p)
    {word behind : List Char}
    (hRun : Text.IsRun word behind)
    (hNone : p.occurs word behind = none)
    (before : List Char) :
    form.pattern.rewriteFrom (expand form.template) 0 before
        (word ++ behind) =
      word ++
        form.pattern.rewriteFrom (expand form.template) 0
          (word.reverse ++ before) behind := by
  apply Pattern.rewriteFrom_of_ways_eq_nil
  intro passed left hWord hLeft
  apply h.ways_eq_nil
  subst hWord
  apply Construct.find_of_occurs_none hRun hLeft hNone
  intro hPassed
  exact Piece.wordAt_reverse_append hPassed
    (fun c hC => hRun.isWord c (List.mem_append_left _ hC))
    before

/- A construct is replaced. -/
theorem Reads.rewriteFrom_word
    (h : form.Reads p)
    {behind : List Char}
    {taken : Taken}
    (hRun : Text.IsRun p.word behind)
    {before : List Char}
    (hFree : p.loose = false →
      Anchor.wordAt false before = false)
    (hRead : Piece.read p.tail behind = some taken) :
    form.pattern.rewriteFrom (expand form.template) 0 before
        (p.word ++ behind) =
      p.put taken ++
        form.pattern.rewriteFrom (expand form.template) 0
          ((p.word ++ taken.passed).reverse ++ before)
          taken.rest := by
  have hFind : p.find (Anchor.wordAt false before)
      (p.word ++ behind) = some taken := by
    rw [Construct.find_run hRun, if_neg, if_pos rfl, hRead]
    intro hInside
    rw [Bool.and_eq_true, Bool.not_eq_true'] at hInside
    rw [hFree hInside.1] at hInside
    cases hInside.2
  rcases h.head? hFind with
    ⟨t, hHead, hBefore, hAfter, hExpand⟩
  rw [Pattern.rewriteFrom_of_head? h.moving hHead, hExpand,
    hBefore, hAfter]

/- A form for a construct rewrites a text by its words. -/
theorem Reads.rewriteFrom_eq
    (h : form.Reads p)
    {before text : List Char}
    (hOutside : Piece.Outside before text) :
    form.pattern.rewriteFrom (expand form.template) 0 before
      text = p.rewrite text := by
  induction text using Text.wordwise generalizing before with
  | nil =>
      unfold Construct.rewrite
      rw [Text.rewriteWords_nil]
      rfl
  | sign c rest hC ih =>
      have hSign : Anchor.wordAt false (c :: rest) = false :=
        hC
      have hFind : p.find (Anchor.wordAt false before)
          (c :: rest) = none :=
        Construct.find_of_wordAt hSign _
      have hWays := h.ways_eq_nil hFind
      have hRest := @ih (c :: before) (Or.inl hC)
      unfold Construct.rewrite at hRest ⊢
      rw [Pattern.rewriteFrom, hWays,
        Text.rewriteWords_sign hC, ← hRest]
      rfl
  | word word behind hRun ih =>
      have hBefore : Anchor.wordAt false before = false := by
        rcases hOutside with hBefore | hText
        · exact hBefore
        · rw [hRun.wordAt_append] at hText
          cases hText
      cases hOccurs : p.occurs word behind with
      | none =>
          rw [h.rewriteFrom_run hRun hOccurs,
            Construct.rewrite_of_occurs_none hRun hOccurs]
          exact congrArg _ (ih 0 (Or.inr hRun.ended))
      | some taken =>
          rcases Construct.exists_occurs hOccurs with
            ⟨front, hWord, hParts⟩
          subst hWord
          have hEnd := hRun.suffix p.word_ne_nil
          have hFree : p.loose = false → Anchor.wordAt false
              (front.reverse ++ before) = false := by
            intro hStrict
            rw [hParts.strict hStrict]
            exact hBefore
          have hText := Piece.append_of_read hParts.read
          have hRest := @ih taken.passed.length
            ((p.word ++ taken.passed).reverse ++
              (front.reverse ++ before))
          rw [hText, List.drop_left] at hRest
          rw [Construct.rewrite_of_occurs hRun hParts,
            List.append_assoc, h.rewriteFrom_front hRun,
            h.rewriteFrom_word hEnd hFree hParts.read, hRest]
          rw [List.reverse_append, List.append_assoc]
          exact Piece.outside_of_read p.tail_laid
            (Or.inr hEnd.ended) hParts.read

/- A form for a construct rewrites texts as it should. -/
theorem Reads.rewrite_eq
    (h : form.Reads p)
    (text : List Char) :
    form.rewrite text = p.rewrite text :=
  h.rewriteFrom_eq (Or.inl rfl)

end Form

end GradleMigration

------------------------------------------------------------
-- The Form of a Construct
------------------------------------------------------------

namespace GradleMigration

namespace Pattern

/- A sequence moves on if one of its parts does. -/
theorem isMoving_sequence
    (ps : List Pattern) :
    (sequence ps).isMoving = ps.any isMoving := by
  induction ps with
  | nil => rfl
  | cons p ps ih =>
      cases ps with
      | nil => simp [sequence]
      | cons q qs =>
          rw [List.any_cons, ← ih]
          rfl

end Pattern

namespace Construct

variable {p : Construct}

/- The preferred way through a word and what is behind it. -/
theorem head?_ways_body
    (s : Spot) :
    ((Pattern.sequence (p.word.map .letter ++
        p.tail.flatMap Piece.patterns)).ways s).head? =
      (p.starts s.after).map fun taken =>
        s.past (p.word ++ taken.passed) taken.rest
          taken.captured := by
  rw [Pattern.ways_sequence_append, Pattern.ways_letters,
    starts]
  by_cases hWord : p.word <+: s.after
  · have hTail := Piece.head?_ways p.tail_laid
      (s.past p.word (s.after.drop p.word.length) [])
    rw [if_pos hWord, List.flatMap_singleton, hTail,
      Spot.past_after]
    by_cases hOn : Anchor.wordAt false
        (s.after.drop p.word.length) = true
    · have hLonger :
          ¬ s.after.takeWhile Text.isWord = p.word := by
        intro hEq
        have hEnded := (Text.takeWhile_eq_iff p.word_word).mp
          hEq
        rw [hEnded.2] at hOn
        cases hOn
      rw [if_neg hLonger, Piece.read_eq_none_of_wordAt
        p.tail_laid p.tail_apart hOn]
      rfl
    · have hEq : s.after.takeWhile Text.isWord = p.word :=
        (Text.takeWhile_eq_iff p.word_word).mpr
          ⟨hWord, Bool.eq_false_iff.mpr hOn⟩
      rw [if_pos hEq, ← Text.drop_takeWhile, hEq]
      refine Option.map_congr fun taken _ => ?_
      unfold Piece.behind
      rw [Spot.past_past, List.append_nil]
  · rw [if_neg hWord, if_neg]
    · rfl
    · intro hEq
      exact hWord
        ((Text.takeWhile_eq_iff p.word_word).mp hEq).1

/- The preferred way at an edge. -/
theorem head?_ways_form
    (hStrict : p.loose = false)
    (s : Spot) :
    (p.form.pattern.ways s).head? =
      (p.find (Anchor.wordAt false s.before) s.after).map
        fun taken => s.past (p.word ++ taken.passed)
          taken.rest taken.captured := by
  unfold form find
  rw [Pattern.ways_sequence_cons, Pattern.ways_edge, hStrict,
    Bool.not_false, Bool.true_and]
  cases hAfter : Anchor.wordAt false s.after with
  | false =>
      rw [starts_of_wordAt hAfter, ite_self]
      split
      · rfl
      · rw [List.flatMap_singleton, head?_ways_body,
          starts_of_wordAt hAfter]
  | true =>
      by_cases hBefore : Anchor.wordAt false s.before = true
      · rw [if_pos hBefore, if_pos hBefore]
        rfl
      · rw [if_neg hBefore, if_neg hBefore,
          List.flatMap_singleton, head?_ways_body]

/- What a construct puts in its place is what is put. -/
theorem expand_form
    (hStrict : p.loose = false)
    {before text : List Char}
    (taken : Taken) :
    expand p.form.template
        (.between (Pattern.spotAt before text)
          ((Pattern.spotAt before text).past
            (p.word ++ taken.passed) taken.rest
            taken.captured)) =
      p.put taken := by
  unfold form put
  rw [expand_append, expand_append, expand_literals,
    expand_literals, hStrict]
  cases p.keeps with
  | false => rfl
  | true =>
      rw [if_pos rfl, expand_group]
      simp [Hit.group, Hit.between, Spot.past,
        Pattern.spotAt, Taken.kept, expand]

/- A construct that is not loose is read by its form. -/
theorem reads_form
    (hStrict : p.loose = false) :
    p.form.Reads p := by
  constructor
  · unfold form
    rw [Pattern.isMoving_sequence]
    cases hWord : p.word with
    | nil => exact absurd hWord p.word_ne_nil
    | cons c rest => simp [Pattern.isMoving, Pattern.letter]
  · intro before text hNone
    have hHead := head?_ways_form hStrict
      (Pattern.spotAt before text)
    unfold Pattern.spotAt at hHead ⊢
    rw [hNone] at hHead
    exact List.head?_eq_none_iff.mp hHead
  · intro before text taken hTaken
    have hHead := head?_ways_form hStrict
      (Pattern.spotAt before text)
    unfold Pattern.spotAt at hHead
    rw [hTaken] at hHead
    exact ⟨_, hHead, rfl, rfl, expand_form hStrict taken⟩

end Construct

end GradleMigration
