import GradleMigration.Proofs.Rule.Constructs
import Mathlib.Data.List.Infix

/-
  Texts without a construct.

  A text is free of a construct if none is found at any of its
  places.  Replacing a construct leaves the text free of it,
  and keeps the text free of every construct that it cleared
  before: what is put in has none, and a construct that starts
  in front of it cannot go on in it.

  Main declarations:
    * `Construct.IsFree`
    * `Construct.Clears`
    * `Construct.Clears.read_rewrite`
    * `Construct.Clears.isFree_rewrite`
    * `Construct.clears_of_avoids`
-/

------------------------------------------------------------
-- Texts without a Construct
------------------------------------------------------------

namespace GradleMigration

open Script

/- Whether a place is in a word, from either side. -/
theorem wordAt_reverse
    (front : List Char) :
    Anchor.wordAt false front.reverse =
      insideAfter false front := by
  unfold insideAfter
  rw [← List.head?_reverse]
  cases front.reverse with
  | nil => rfl
  | cons c more => rfl

theorem insideAfter_of_isWord
    {front : List Char}
    (hNil : front ≠ [])
    (h : ∀ c ∈ front, Text.isWord c = true)
    (insideWord : Bool) :
    insideAfter insideWord front = true := by
  rw [← List.dropLast_concat_getLast hNil, insideAfter_concat]
  exact h _ (List.getLast_mem hNil)

namespace Construct

/- No construct is found at any place of a text. -/
def IsFree
    (q : Construct)
    (insideWord : Bool)
    (text : List Char) : Prop :=
  ∀ front rest, text = front ++ rest →
    q.find (insideAfter insideWord front) rest = none

variable {q : Construct}

/- The end of a free text is free. -/
theorem IsFree.suffix
    {insideWord : Bool}
    {first second : List Char}
    (h : q.IsFree insideWord (first ++ second)) :
    q.IsFree (insideAfter insideWord first) second := by
  intro front rest hSecond
  rw [← insideAfter_append]
  apply h
  rw [hSecond, List.append_assoc]

theorem isFree_cons
    {insideWord : Bool}
    {c : Char}
    {rest : List Char} :
    q.IsFree insideWord (c :: rest) ↔
      q.find insideWord (c :: rest) = none ∧
        q.IsFree (Text.isWord c) rest := by
  constructor
  · intro h
    have hText : q.IsFree insideWord ([c] ++ rest) := h
    exact ⟨h [] _ rfl, hText.suffix⟩
  · rintro ⟨hHere, hRest⟩ front rest hText
    cases front with
    | nil =>
        rw [List.nil_append] at hText
        subst hText
        exact hHere
    | cons d more =>
        cases hText
        rw [insideAfter_cons]
        exact hRest more rest rfl

theorem isFree_nil
    (insideWord : Bool) :
    q.IsFree insideWord [] := by
  intro front rest hText
  rw [(List.append_eq_nil_iff.mp hText.symm).2]
  exact find_of_wordAt rfl _

/- Where no word goes on it does not matter what is before. -/
theorem IsFree.of_wordAt
    {text : List Char}
    (hText : Anchor.wordAt false text = false)
    {insideWord : Bool}
    (h : q.IsFree insideWord text)
    (other : Bool) :
    q.IsFree other text := by
  cases text with
  | nil => exact isFree_nil other
  | cons c rest =>
      exact isFree_cons.mpr ⟨find_of_wordAt hText other,
        (isFree_cons.mp h).2⟩

/- Signs hold no construct. -/
theorem isFree_sign
    {c : Char}
    (h : Text.isWord c = false)
    {insideWord : Bool}
    {rest : List Char} :
    q.IsFree insideWord (c :: rest) ↔ q.IsFree false rest := by
  have hSign : Anchor.wordAt false (c :: rest) = false := h
  rw [isFree_cons, find_of_wordAt hSign, h]
  exact and_iff_right rfl

theorem isFree_signs
    {signs rest : List Char}
    (h : ∀ c ∈ signs, Text.isWord c = false)
    (hFree : q.IsFree false rest) :
    q.IsFree false (signs ++ rest) := by
  induction signs with
  | nil => exact hFree
  | cons c more ih =>
      rw [List.forall_mem_cons] at h
      exact (isFree_sign h.1).mpr (ih h.2)

/- A text is free if its first word and the rest are. -/
theorem isFree_run
    {word behind : List Char}
    (hRun : Text.IsRun word behind) :
    q.IsFree false (word ++ behind) ↔
      q.occurs word behind = none ∧
        q.IsFree false behind := by
  constructor
  · intro h
    refine ⟨?_, h.suffix.of_wordAt hRun.ended false⟩
    cases hOccurs : q.occurs word behind with
    | none => rfl
    | some taken =>
        rcases exists_occurs hOccurs with
          ⟨front, hWord, hParts⟩
        subst hWord
        have hFind := h front (q.word ++ behind)
          (List.append_assoc _ _ _)
        rw [find_run (hRun.suffix q.word_ne_nil), if_pos rfl,
          hParts.read, if_neg] at hFind
        · cases hFind
        · rw [Bool.and_eq_true, Bool.not_eq_true']
          rintro ⟨hStrict, hInside⟩
          rw [hParts.strict hStrict] at hInside
          cases hInside
  · rintro ⟨hNone, hBehind⟩ front rest hText
    rcases List.append_eq_append_iff.mp hText with
      ⟨more, hFront, hRest⟩ | ⟨left, hWord, hRest⟩
    · -- The place is behind the word.
      rw [hFront, insideAfter_append]
      exact hBehind.of_wordAt hRun.ended _ more rest hRest
    · subst hRest
      by_cases hLeft : left = []
      · subst hLeft
        exact find_of_wordAt hRun.ended _
      · subst hWord
        apply find_of_occurs_none hRun hLeft hNone
        intro hFront
        exact insideAfter_of_isWord hFront
          (fun c hC =>
            hRun.isWord c (List.mem_append_left _ hC)) false

/- A form has no way in a text that is free of its construct. -/
theorem IsFree.ways_eq_nil
    {form : Form}
    (hReads : form.Reads q)
    {text : List Char}
    (h : q.IsFree false text)
    {front rest : List Char}
    (hText : text = front ++ rest) :
    form.pattern.ways (.at front rest) = [] := by
  have hSpot : Spot.at front rest =
      Pattern.spotAt front.reverse rest := by
    simp [Spot.at, Pattern.spotAt]
  rw [hSpot]
  apply hReads.ways_eq_nil
  rw [wordAt_reverse]
  exact h front rest hText

end Construct

end GradleMigration

------------------------------------------------------------
-- Replacing Keeps Texts Free
------------------------------------------------------------

namespace GradleMigration

open Script

/- Whether pieces open with a word, given or not. -/
def Piece.opensName : List Piece → Bool
| .name :: _ => true
| .word _ :: _ => true
| _ => false

namespace Construct

/-
  Replacing one construct leaves nothing of another: what is
  put in starts with a word and is free of it, and pieces that
  open with a word do not read what is put in.
-/
structure Clears
    (p q : Construct) : Prop where
  opens : ∀ taken text,
    Anchor.wordAt false (p.put taken ++ text) = true
  free : ∀ {front behind rest : List Char} {taken : Taken},
    Text.IsRun (front ++ p.word) behind →
      p.Occurs front behind taken →
        Anchor.wordAt false rest =
            Anchor.wordAt false taken.rest →
          q.IsFree false rest →
            q.IsFree false (front ++ (p.put taken ++ rest))
  bars : ∀ {pieces : List Piece},
    pieces <:+ q.tail → Piece.opensName pieces = true →
      ∀ {front behind rest : List Char} {taken : Taken},
        Text.IsRun (front ++ p.word) behind →
          p.Occurs front behind taken →
            Anchor.wordAt false rest =
                Anchor.wordAt false taken.rest →
              Piece.read pieces
                (front ++ (p.put taken ++ rest)) = none

variable {p q : Construct}

/- Words come in the place of words. -/
theorem Clears.keepsWords
    (h : p.Clears q) :
    Text.KeepsWords p.edit := by
  intro word behind hRun text
  cases hOccurs : p.occurs word behind with
  | none =>
      rw [edit_of_occurs_none hOccurs]
      exact hRun.wordAt_append text
  | some taken =>
      rw [edit_of_occurs hOccurs, List.append_assoc]
      cases hFront :
          word.take (word.length - p.word.length) with
      | nil => exact h.opens taken text
      | cons c more =>
          have hC : c ∈ word := by
            apply List.mem_of_mem_take
            rw [hFront]
            exact List.mem_cons_self
          exact hRun.isWord c hC

theorem Clears.wordAt_rewrite
    (h : p.Clears q)
    (text : List Char) :
    Anchor.wordAt false (p.rewrite text) =
      Anchor.wordAt false text :=
  Text.wordAt_rewriteWords h.keepsWords text

/- A word that is kept is still a whole word. -/
theorem Clears.isRun_rewrite
    (h : p.Clears q)
    {word behind : List Char}
    (hRun : Text.IsRun word behind) :
    Text.IsRun word (p.rewrite behind) where
  ne_nil := hRun.ne_nil
  isWord := hRun.isWord
  ended := by rw [h.wordAt_rewrite, hRun.ended]

/-
  A piece takes the same from a text before and after a
  construct is replaced in it, and leaves the same.
-/
def TakesSame
    (p : Construct)
    (piece : Piece)
    (text : List Char) : Prop :=
  piece.take (p.rewrite text) = piece.take text ∧
    ∀ part, piece.take text = some part →
      (p.rewrite text).drop part.length =
        p.rewrite (text.drop part.length)

theorem takesSame_of_take_none
    {piece : Piece}
    {text : List Char}
    (h : piece.take text = none)
    (hRewrite : piece.take (p.rewrite text) = none) :
    p.TakesSame piece text := by
  refine ⟨hRewrite.trans h.symm, ?_⟩
  intro part hPart
  rw [h] at hPart
  cases hPart

/- Signs and gaps are kept. -/
theorem Clears.takesSame_sign
    (h : p.Clears q)
    {c : Char}
    (hSign : Text.isWord c = false)
    (text : List Char) :
    p.TakesSame (.sign c) text := by
  have hNone : ∀ {other : List Char},
      Anchor.wordAt false other = true →
        (Piece.sign c).take other = none := by
    intro other hOther
    apply Piece.take_sign_eq_none
    intro hHead
    rcases List.head?_eq_some_iff.mp hHead with ⟨rest, hEq⟩
    rw [hEq] at hOther
    have hWord : Text.isWord c = true := hOther
    rw [hSign] at hWord
    cases hWord
  cases hText : Anchor.wordAt false text with
  | true =>
      apply takesSame_of_take_none (hNone hText)
      apply hNone
      rw [h.wordAt_rewrite, hText]
  | false =>
      cases text with
      | nil =>
          apply takesSame_of_take_none rfl
          unfold rewrite
          rw [Text.rewriteWords_nil]
          rfl
      | cons d rest =>
          unfold TakesSame rewrite
          rw [Text.rewriteWords_sign hText]
          refine ⟨rfl, ?_⟩
          intro part hPart
          rw [Piece.take] at hPart
          split at hPart
          · cases hPart
            rfl
          · cases hPart

theorem Clears.takesSame_gap
    (h : p.Clears q)
    (kept needed : Bool)
    (text : List Char) :
    p.TakesSame (.gap kept needed) text := by
  have hSpan := Text.span_rewriteWords h.keepsWords
    (fun c hBlank => Text.isWord_of_isBlank hBlank) text
  unfold TakesSame rewrite
  simp only [Piece.take]
  rw [hSpan.1]
  refine ⟨rfl, ?_⟩
  intro part hPart
  split at hPart
  · cases hPart
  · cases hPart
    rw [Text.drop_takeWhile, ← hSpan.2, ← hSpan.1,
      Text.drop_takeWhile]

/- A piece that is a word takes the first word of a text. -/
theorem takesSame_of_takeWhile
    {piece : Piece}
    (hName : Piece.opensName [piece] = true)
    {text : List Char}
    (hTake : (p.rewrite text).takeWhile Text.isWord =
      text.takeWhile Text.isWord)
    (hDrop : (p.rewrite text).dropWhile Text.isWord =
      p.rewrite (text.dropWhile Text.isWord)) :
    p.TakesSame piece text := by
  have hFirst : ∀ {part : List Char},
      piece.take text = some part →
        part = text.takeWhile Text.isWord := by
    intro part hPart
    cases piece with
    | sign c => cases hName
    | gap kept needed => cases hName
    | name =>
        simp only [Piece.take] at hPart
        split at hPart
        · cases hPart
        · cases hPart
          rfl
    | word given =>
        rw [Piece.take] at hPart
        split at hPart
        · next hGiven =>
            cases hPart
            exact hGiven.symm
        · cases hPart
  constructor
  · cases piece with
    | sign c => cases hName
    | gap kept needed => cases hName
    | name => simp only [Piece.take, hTake]
    | word given => simp only [Piece.take, hTake]
  · intro part hPart
    rw [hFirst hPart, Text.drop_takeWhile, ← hDrop, ← hTake,
      Text.drop_takeWhile]

/-
  Pieces that cannot be read from a text cannot be read from
  it after a construct has been replaced.
-/
theorem Clears.read_rewrite
    (h : p.Clears q)
    {pieces : List Piece}
    (hLaid : Piece.isLaid pieces = true)
    (hTail : pieces <:+ q.tail)
    {text : List Char}
    (hNone : Piece.read pieces text = none) :
    Piece.read pieces (p.rewrite text) = none := by
  induction pieces generalizing text with
  | nil => cases hNone
  | cons piece pieces ih =>
      simp only [Piece.isLaid, Bool.and_eq_true] at hLaid
      have hRest : pieces <:+ q.tail :=
        (List.suffix_cons piece pieces).trans hTail
      -- The step for a piece that takes the same.
      have hStep : p.TakesSame piece text →
          Piece.read (piece :: pieces) (p.rewrite text) =
            none := by
        rintro ⟨hTake, hDrop⟩
        rw [Piece.read, hTake]
        cases hPart : piece.take text with
        | none => rfl
        | some part =>
            rw [Piece.read, hPart, Option.bind_some,
              Option.map_eq_none_iff] at hNone
            rw [Option.bind_some, hDrop part hPart,
              ih hLaid.2.2 hRest hNone]
            rfl
      cases hName : Piece.opensName [piece] with
      | false =>
          apply hStep
          cases piece with
          | sign c =>
              rw [Piece.isProper, Bool.and_eq_true,
                Bool.not_eq_true'] at hLaid
              exact h.takesSame_sign hLaid.1.1 text
          | gap kept needed =>
              exact h.takesSame_gap kept needed text
          | name => cases hName
          | word given => cases hName
      | true =>
          cases hText : Anchor.wordAt false text with
          | false =>
              have hOut : Anchor.wordAt false
                  (p.rewrite text) = false := by
                rw [h.wordAt_rewrite, hText]
              apply hStep
              apply takesSame_of_takeWhile hName
              · rw [(Text.takeWhile_of_wordAt hOut).1,
                  (Text.takeWhile_of_wordAt hText).1]
              · rw [(Text.takeWhile_of_wordAt hOut).2,
                  (Text.takeWhile_of_wordAt hText).2]
          | true =>
              have hRun := Text.isRun_of_wordAt hText
              have hSplit :=
                List.takeWhile_append_dropWhile
                  (p := Text.isWord) (l := text)
              cases hOccurs : p.occurs
                  (text.takeWhile Text.isWord)
                  (text.dropWhile Text.isWord) with
              | none =>
                  have hKept :=
                    rewrite_of_occurs_none hRun hOccurs
                  rw [hSplit] at hKept
                  have hAgain := h.isRun_rewrite hRun
                  apply hStep
                  apply takesSame_of_takeWhile hName
                  · rw [hKept]
                    exact hAgain.takeWhile_eq
                  · rw [hKept]
                    exact hAgain.dropWhile_eq
              | some taken =>
                  rcases exists_occurs hOccurs with
                    ⟨front, hWord, hParts⟩
                  rw [hWord] at hRun hSplit
                  have hPut := rewrite_of_occurs hRun hParts
                  rw [hSplit] at hPut
                  rw [hPut]
                  apply h.bars hTail _ hRun hParts
                    (h.wordAt_rewrite _)
                  cases piece with
                  | sign c => cases hName
                  | gap kept needed => cases hName
                  | name => rfl
                  | word given => rfl

/- Replacing a construct leaves a text free of it. -/
theorem Clears.isFree_rewrite
    (h : p.Clears q)
    {text : List Char}
    (hText : q = p ∨ q.IsFree false text) :
    q.IsFree false (p.rewrite text) := by
  induction text using Text.wordwise with
  | nil =>
      unfold rewrite
      rw [Text.rewriteWords_nil]
      exact isFree_nil false
  | sign c rest hC ih =>
      have hRest := ih
        (hText.imp_right (isFree_sign hC).mp)
      unfold rewrite at hRest ⊢
      rw [Text.rewriteWords_sign hC]
      exact (isFree_sign hC).mpr hRest
  | word word behind hRun ih =>
      have hBehind : q = p ∨ q.IsFree false behind :=
        hText.imp_right fun hFree =>
          ((isFree_run hRun).mp hFree).2
      cases hOccurs : p.occurs word behind with
      | none =>
          rw [rewrite_of_occurs_none hRun hOccurs,
            isFree_run (h.isRun_rewrite hRun)]
          have hNone : q.occurs word behind = none := by
            rcases hText with hSame | hFree
            · rw [hSame]
              exact hOccurs
            · exact ((isFree_run hRun).mp hFree).1
          refine ⟨?_, ih 0 hBehind⟩
          unfold occurs at hNone ⊢
          by_cases hHeads : q.heads word = true
          · rw [if_pos hHeads] at hNone ⊢
            exact h.read_rewrite q.tail_laid
              (List.suffix_refl _) hNone
          · rw [if_neg hHeads]
      | some taken =>
          rcases exists_occurs hOccurs with
            ⟨front, hWord, hParts⟩
          subst hWord
          rw [rewrite_of_occurs hRun hParts]
          apply h.free hRun hParts (h.wordAt_rewrite _)
          have hSplit := Piece.append_of_read hParts.read
          have hRest := ih taken.passed.length
          rw [hSplit, List.drop_left] at hRest
          apply hRest
          refine hBehind.imp_right fun hFree => ?_
          rw [hSplit] at hFree
          -- No word goes on behind what has been read.
          have hStart : Piece.Outside [] behind := Or.inl rfl
          have hOutside := Piece.outside_of_read p.tail_laid
            hStart hParts.read
          rw [List.append_nil, Piece.Outside,
            wordAt_reverse] at hOutside
          rcases hOutside with hBefore | hAfter
          · rw [← hBefore]
            exact hFree.suffix
          · exact hFree.suffix.of_wordAt hAfter false

end Construct

end GradleMigration

------------------------------------------------------------
-- Constructs that Avoid Each Other
------------------------------------------------------------

namespace GradleMigration

open Script

namespace Construct

/- What is put in the place of a strict construct. -/
theorem put_of_strict
    {p : Construct}
    (hStrict : p.loose = false)
    (taken : Taken) :
    p.put taken =
      p.lead ++
        ((if p.keeps then taken.kept else []) ++ p.close) := by
  unfold put
  rw [hStrict]
  rfl

/- The gap that is kept has blanks only. -/
theorem isBlank_of_kept
    {pieces : List Piece}
    {text : List Char}
    {taken : Taken}
    (h : Piece.read pieces text = some taken) :
    ∀ c ∈ taken.kept, Text.isBlank c = true := by
  unfold Taken.kept
  cases hLookup : taken.captured.lookup 1 with
  | none => simp
  | some part =>
      have hMem : (1, part) ∈ taken.captured := by
        rcases List.lookup_eq_some_iff.mp hLookup with
          ⟨before, after, hCaptured, _⟩
        rw [hCaptured]
        exact List.mem_append_right _ List.mem_cons_self
      exact Piece.isBlank_of_captured h _ hMem

/-
  Whether no word of what is put in could start a construct,
  or be read in one.
-/
def avoids
    (p q : Construct) : Bool :=
  !p.loose && (Anchor.wordAt false p.lead &&
    (p.close.all (fun c => !Text.isWord c) &&
      (p.lead.tails.all
          (fun rest => rest.takeWhile Text.isWord != q.word) &&
        q.tail.all fun piece =>
          match piece with
          | .name => false
          | .word given =>
              p.lead.takeWhile Text.isWord != given
          | _ => true)))

/-
  Behind what is put first no word goes on: it ends with a
  sign, or a sign is kept or put behind it, or there was none
  behind the construct.
-/
def Sealed
    (p : Construct) : Prop :=
  ∀ behind rest taken,
    Piece.read p.tail behind = some taken →
      Anchor.wordAt false rest =
          Anchor.wordAt false taken.rest →
        insideAfter false p.lead = false ∨
          Anchor.wordAt false
            ((if p.keeps then taken.kept else []) ++
              (p.close ++ rest)) = false

/- The first word of a text that is put before another. -/
theorem takeWhile_append_of_outside
    {insideWord : Bool}
    {text rest : List Char}
    (hNil : text ≠ [])
    (h : insideAfter insideWord text = false ∨
      Anchor.wordAt false rest = false) :
    (text ++ rest).takeWhile Text.isWord =
      text.takeWhile Text.isWord := by
  rw [List.takeWhile_append]
  split
  · next hAll =>
      have hWhole : text.takeWhile Text.isWord = text :=
        (List.takeWhile_prefix _).eq_of_length hAll
      have hWord : ∀ c ∈ text, Text.isWord c = true := by
        rw [← hWhole]
        exact List.all_eq_true.mp List.all_takeWhile
      rcases h with hInside | hRest
      · rw [insideAfter_of_isWord hNil hWord] at hInside
        cases hInside
      · rw [(Text.takeWhile_of_wordAt hRest).1, hWhole,
          List.append_nil]
  · rfl

/- A text without the word of a construct is free of it. -/
theorem isFree_append
    {q : Construct}
    {insideWord : Bool}
    {text rest : List Char}
    (hText : ∀ tail, tail <:+ text →
      tail.takeWhile Text.isWord ≠ q.word)
    (h : insideAfter insideWord text = false ∨
      Anchor.wordAt false rest = false)
    (hRest : q.IsFree false rest) :
    q.IsFree insideWord (text ++ rest) := by
  induction text generalizing insideWord with
  | nil =>
      rcases h with hOutside | hRestart
      · have hFalse : insideWord = false := hOutside
        rw [hFalse]
        exact hRest
      · exact hRest.of_wordAt hRestart insideWord
  | cons c more ih =>
      rw [List.cons_append, isFree_cons]
      constructor
      · have hFirst := takeWhile_append_of_outside
          (List.cons_ne_nil c more) h
        unfold find starts
        rw [List.cons_append] at hFirst
        rw [hFirst, if_neg (hText _ (List.suffix_refl _)),
          ite_self]
      · rw [insideAfter_cons] at h
        apply ih _ h
        intro tail hTail
        exact hText tail (hTail.trans (List.suffix_cons _ _))

/- Constructs that avoid each other clear each other. -/
theorem clears_of_avoids
    {p q : Construct}
    (hSealed : p.Sealed)
    (h : p.avoids q = true) :
    p.Clears q := by
  simp only [avoids, Bool.and_eq_true, Bool.not_eq_true',
    List.all_eq_true, List.mem_tails, bne_iff_ne] at h
  rcases h with ⟨hStrict, hLead, hClose, hTails, hPieces⟩
  have hSigns : ∀ {behind : List Char} {taken : Taken},
      Piece.read p.tail behind = some taken →
        ∀ c ∈ (if p.keeps then taken.kept else []) ++ p.close,
          Text.isWord c = false := by
    intro behind taken hRead c hC
    rcases List.mem_append.mp hC with hKept | hPut
    · split at hKept
      · exact Text.isWord_of_isBlank
          (isBlank_of_kept hRead c hKept)
      · cases hKept
    · exact hClose c hPut
  have hNil : p.lead ≠ [] := by
    intro hEmpty
    rw [hEmpty] at hLead
    cases hLead
  constructor
  · intro taken text
    rw [put_of_strict hStrict, List.append_assoc]
    cases hFirst : p.lead with
    | nil => exact absurd hFirst hNil
    | cons c more =>
        rw [hFirst] at hLead
        exact hLead
  · intro front behind rest taken _ hParts hRest hFree
    rw [hParts.strict hStrict, put_of_strict hStrict,
      List.nil_append, List.append_assoc]
    refine isFree_append hTails ?_
      (isFree_signs (hSigns hParts.read) hFree)
    rw [List.append_assoc]
    exact hSealed _ _ _ hParts.read hRest
  · intro pieces hPiecesTail hName front behind rest taken _
      hParts hRest
    rw [hParts.strict hStrict, put_of_strict hStrict,
      List.nil_append, List.append_assoc, List.append_assoc]
    have hFirst := takeWhile_append_of_outside hNil
      (hSealed _ _ _ hParts.read hRest)
    cases pieces with
    | nil => cases hName
    | cons piece pieces =>
        have hPiece := hPieces piece
          (hPiecesTail.subset List.mem_cons_self)
        rw [Piece.read]
        cases piece with
        | sign c => cases hName
        | gap kept needed => cases hName
        | name => cases hPiece
        | word given =>
            rw [Piece.take, hFirst,
              if_neg (bne_iff_ne.mp hPiece)]
            rfl

end Construct

end GradleMigration
