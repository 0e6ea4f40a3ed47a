import GradleMigration.Proofs.Script.Headers
import GradleMigration.Proofs.Script.TaskTree
import GradleMigration.Proofs.Text.Blank

/-
  Where the headers of tasks start in a text.

  A text starts with a header exactly where it starts with the
  text of one.  A header ends with the first brace behind its
  start, so a change behind that brace, or behind any brace
  before, neither makes a header nor takes one away.

  Main declarations:
    * `closureHeader_eq_some_iff`
    * `closureHeader_congr`
    * `closureHeader_newHeader`
    * `HeadFree`
    * `HeadFree.headersFrom_append`
-/

------------------------------------------------------------
-- Blanks and Plain Characters
------------------------------------------------------------

namespace GradleMigration

namespace Script

/- Blanks open and close nothing. -/
theorem isPlain_of_isBlank
    {c : Char}
    (h : Text.isBlank c = true) :
    isPlain c = true := by
  simp [isPlain, isQuote_of_isBlank h,
    Text.ne_of_isBlank h (d := '\x7b') (by decide),
    Text.ne_of_isBlank h (d := '\x7d') (by decide),
    Text.ne_of_isBlank h (d := '/') (by decide)]

theorem all_isPlain_of_isBlank
    {text : List Char}
    (h : text.all Text.isBlank = true) :
    text.all isPlain = true := by
  rw [List.all_eq_true] at h ⊢
  exact fun c hC => isPlain_of_isBlank (h c hC)

/- A header is plain up to its brace. -/
theorem ShiftHead.front_plain
    (head : ShiftHead) :
    head.front.all isPlain = true := by
  unfold ShiftHead.front
  simp only [List.all_append, head.name_plain,
    all_isPlain_of_isBlank head.isGap.2,
    all_isPlain_of_isBlank head.areBlanks.1,
    all_isPlain_of_isBlank head.areBlanks.2]
  decide

end Script

end GradleMigration

------------------------------------------------------------
-- Texts That Start with a Header
------------------------------------------------------------

namespace GradleMigration

namespace Script

/- What is passed over ends where the test first fails. -/
theorem passed_append
    {test : Char → Bool}
    {part : List Char}
    (hPart : part.all test = true)
    (text : List Char)
    (hText : text.head?.any test = false) :
    (part ++ text).takeWhile test = part ∧
      (part ++ text).dropWhile test = text := by
  have hAll := List.all_eq_true.mp hPart
  rw [List.takeWhile_append_of_pos hAll,
    List.dropWhile_append_of_pos hAll]
  cases text with
  | nil => simp
  | cons c rest =>
      have hTest : ¬ test c = true :=
        Bool.eq_false_iff.mp hText
      rw [List.takeWhile_cons_of_neg hTest,
        List.dropWhile_cons_of_neg hTest, List.append_nil]
      exact ⟨rfl, rfl⟩

namespace ShiftHead

/- The blanks behind the word end where the name starts. -/
theorem name_starts
    (head : ShiftHead)
    (text : List Char) :
    (head.name ++ text).head?.any Text.isBlank = false := by
  rcases List.exists_cons_of_ne_nil head.isName.1 with
    ⟨c, more, hName⟩
  have hWord := head.isName.2
  rw [hName, List.all_cons, Bool.and_eq_true] at hWord
  rw [hName, List.cons_append, List.head?_cons, Option.any_some,
    Bool.eq_false_iff]
  intro hBlank
  rw [Text.isWord_of_isBlank hBlank] at hWord
  cases hWord.1

/- The name ends where blanks or the operator start. -/
theorem name_ends
    (head : ShiftHead)
    (text : List Char) :
    (head.before ++ '<' :: text).head?.any Text.isWord =
      false := by
  have hBlanks := head.areBlanks.1
  cases hBefore : head.before with
  | nil =>
      change Text.isWord '<' = false
      decide
  | cons c more =>
      rw [hBefore, List.all_cons, Bool.and_eq_true] at hBlanks
      exact Text.isWord_of_isBlank hBlanks.1

end ShiftHead

/- A text that starts with the text of a header. -/
theorem closureHeader_render
    (head : ShiftHead)
    (body : List Char) :
    closureHeader (head.render ++ body) =
      some (head.name, body) := by
  obtain ⟨behind, hBehind⟩ :
      ∃ behind, behind = head.behind ++ '\x7b' :: body :=
    ⟨_, rfl⟩
  obtain ⟨after, hAfter⟩ :
      ∃ after, after = head.before ++ '<' :: '<' :: behind :=
    ⟨_, rfl⟩
  have hText :
      head.render ++ body =
        taskWord ++ (head.gap ++ (head.name ++ after)) := by
    simp [ShiftHead.render, ShiftHead.front, hAfter, hBehind]
  -- Each part ends where the next one starts.
  have hGap := passed_append head.isGap.2 (head.name ++ after)
    (head.name_starts after)
  have hName := passed_append head.isName.2 after
    (hAfter ▸ head.name_ends _)
  have hOperator :
      after.dropWhile Text.isBlank = '<' :: '<' :: behind := by
    rw [hAfter]
    exact (passed_append head.areBlanks.1
      ('<' :: '<' :: behind)
      (show Text.isBlank '<' = false by decide)).2
  have hBody := passed_append head.areBlanks.2 ('\x7b' :: body)
    (show Text.isBlank '\x7b' = false by decide)
  have hShift :
      shiftHeader (head.render ++ body) =
        some (head.name, behind) := by
    unfold shiftHeader
    rw [hText, if_pos (by simp), List.drop_left]
    simp only [hGap.2, hName.1, hName.2, hOperator]
    rw [if_neg]
    simp [head.isName.1, head.isGap.1]
  unfold closureHeader
  simp only [hShift, hBehind, hBody.2]

/- A header whose parts have been passed over. -/
theorem exists_head_of_parts
    {rest behind body : List Char}
    (hParts :
      ¬ ((rest.dropWhile Text.isBlank).length = rest.length ||
        ((rest.dropWhile Text.isBlank).takeWhile
          Text.isWord).isEmpty) = true)
    (hOperator :
      ((rest.dropWhile Text.isBlank).dropWhile
        Text.isWord).dropWhile Text.isBlank =
          '<' :: '<' :: behind)
    (hBody :
      behind.dropWhile Text.isBlank = '\x7b' :: body) :
    ∃ head : ShiftHead,
      head.name = (rest.dropWhile Text.isBlank).takeWhile
          Text.isWord ∧
        taskWord ++ rest = head.render ++ body := by
  simp only [Bool.or_eq_true, decide_eq_true_eq,
    List.isEmpty_iff, not_or] at hParts
  have hGap : rest.takeWhile Text.isBlank ≠ [] := by
    intro hNil
    apply hParts.1
    have hLength := congrArg List.length
      (List.takeWhile_append_dropWhile
        (p := Text.isBlank) (l := rest))
    rw [hNil] at hLength
    exact hLength
  refine ⟨⟨rest.takeWhile Text.isBlank,
    (rest.dropWhile Text.isBlank).takeWhile Text.isWord,
    ((rest.dropWhile Text.isBlank).dropWhile
      Text.isWord).takeWhile Text.isBlank,
    behind.takeWhile Text.isBlank,
    ⟨hGap, List.all_takeWhile⟩,
    ⟨hParts.2, List.all_takeWhile⟩,
    List.all_takeWhile, List.all_takeWhile⟩, rfl, ?_⟩
  simp only [ShiftHead.render, ShiftHead.front,
    List.append_assoc, List.cons_append, List.nil_append]
  rw [← hBody, List.takeWhile_append_dropWhile, ← hOperator,
    List.takeWhile_append_dropWhile,
    List.takeWhile_append_dropWhile,
    List.takeWhile_append_dropWhile]

/- A header at the start of a text has its parts. -/
theorem exists_head_of_closureHeader
    {text name body : List Char}
    (h : closureHeader text = some (name, body)) :
    ∃ head : ShiftHead,
      head.name = name ∧ text = head.render ++ body := by
  unfold closureHeader at h
  split at h
  · cases h
  · next shiftName behind hShift =>
      split at h
      · next after hBody =>
          cases h
          unfold shiftHeader at hShift
          split at hShift
          · next hTask =>
              rcases List.isPrefixOf_iff_prefix.mp hTask with
                ⟨rest, hRest⟩
              subst hRest
              simp only [List.drop_left] at hShift
              split at hShift
              · cases hShift
              · next hParts =>
                  split at hShift
                  · next last hOperator =>
                      cases hShift
                      exact exists_head_of_parts hParts
                        hOperator hBody
                  · cases hShift
          · cases hShift
      · cases h

/- A text starts with a header or with no text of one. -/
theorem closureHeader_eq_none_iff
    {text : List Char} :
    closureHeader text = none ↔
      ∀ (head : ShiftHead) (body : List Char),
        text ≠ head.render ++ body := by
  constructor
  · intro h head body hText
    rw [hText, closureHeader_render] at h
    cases h
  · intro h
    cases hHeader : closureHeader text with
    | none => rfl
    | some found =>
        rcases exists_head_of_closureHeader hHeader with
          ⟨head, _, hText⟩
        exact absurd hText (h head found.2)

end Script

end GradleMigration

------------------------------------------------------------
-- A Header Ends with the First Brace
------------------------------------------------------------

namespace GradleMigration

namespace Script

/-
  A brace in a text that starts with a header is the one of
  the header, or stands behind it.
-/
theorem ShiftHead.brace_behind
    {head : ShiftHead}
    {front rest body : List Char}
    {brace : Char}
    (hBrace : isPlain brace = false)
    (hText : front ++ brace :: rest = head.render ++ body) :
    front = head.front ∨
      ∃ more, front = head.render ++ more := by
  have hPlain : brace ∉ head.front := by
    intro hMem
    have hAll := List.all_eq_true.mp head.front_plain
    rw [hAll brace hMem] at hBrace
    cases hBrace
  rw [ShiftHead.render, List.append_assoc] at hText
  rcases List.append_eq_append_iff.mp hText with
    ⟨more, hFront, hRest⟩ | ⟨more, hFront, hRest⟩
  · -- The brace is not before that of the header.
    cases more with
    | nil =>
        rw [List.append_nil] at hFront
        exact Or.inl hFront.symm
    | cons c more =>
        have hC := (List.cons.inj hRest).1
        subst hC
        exact absurd
          (hFront ▸ List.mem_append_right _ List.mem_cons_self)
          hPlain
  · cases more with
    | nil =>
        rw [List.append_nil] at hFront
        exact Or.inl hFront
    | cons c more =>
        have hC := (List.cons.inj hRest).1
        subst hC
        refine Or.inr ⟨more, ?_⟩
        rw [hFront, ShiftHead.render, List.append_assoc]
        rfl

/- What stands behind a brace makes no header before it. -/
theorem closureHeader_congr
    {front rest : List Char}
    {brace : Char}
    (hBrace : isPlain brace = false)
    (h : closureHeader (front ++ brace :: rest) = none)
    (other : List Char) :
    closureHeader (front ++ brace :: other) = none := by
  rw [closureHeader_eq_none_iff] at h ⊢
  intro head body hText
  rcases head.brace_behind hBrace hText with
    hFront | ⟨more, hFront⟩
  · subst hFront
    have hHere := List.append_cancel_left
      (hText.trans (List.append_assoc _ _ _))
    have hIs : brace = '\x7b' := (List.cons.inj hHere).1
    subst hIs
    refine h head rest ?_
    rw [ShiftHead.render, List.append_assoc]
    rfl
  · refine h head (more ++ brace :: rest) ?_
    rw [hFront, List.append_assoc]

/- There is no header without the operator. -/
theorem closureHeader_of_no_shift
    {front : List Char}
    (h : '<' ∉ front)
    (rest : List Char) :
    closureHeader (front ++ '\x7b' :: rest) = none := by
  rw [closureHeader_eq_none_iff]
  intro head body hText
  have hShift : '<' ∈ head.front := by
    simp [ShiftHead.front]
  rcases head.brace_behind (by decide) hText with
    hFront | ⟨more, hFront⟩
  · exact h (hFront ▸ hShift)
  · apply h
    rw [hFront, ShiftHead.render]
    exact List.mem_append_left _
      (List.mem_append_left _ hShift)

/- The last character of a text that is no blank. -/
theorem dropWhile_reverse
    {c : Char}
    (hChar : Text.isBlank c = false)
    {blanks : List Char}
    (hBlanks : blanks.all Text.isBlank = true)
    (front : List Char) :
    (front ++ c :: blanks).reverse.dropWhile Text.isBlank =
      c :: front.reverse := by
  have hReverse :
      (front ++ c :: blanks).reverse =
        blanks.reverse ++ c :: front.reverse := by
    simp
  rw [hReverse]
  refine (passed_append ?_ (c :: front.reverse) hChar).2
  rw [List.all_reverse]
  exact hBlanks

/- A header does not end in a plain text. -/
theorem ShiftHead.exists_of_plain
    {head : ShiftHead}
    {front plain more : List Char}
    (hPlain : plain.all isPlain = true)
    (hText : front ++ plain = head.render ++ more) :
    ∃ back, front = head.render ++ back := by
  rcases List.append_eq_append_iff.mp hText with
    ⟨back, hRender, hRest⟩ | ⟨back, hFront, _⟩
  · rcases List.eq_nil_or_concat back with hNil | ⟨init, c, hBack⟩
    · subst hNil
      exact ⟨[], by rw [hRender, List.append_nil, List.append_nil]⟩
    · -- Its last character would be a plain one.
      rw [List.concat_eq_append] at hBack
      rw [hBack, ← List.append_assoc] at hRender
      have hC : c = '\x7b' :=
        (List.singleton_inj.mp
          (List.append_inj_right' hRender rfl)).symm
      have hMem : '\x7b' ∈ plain := by
        rw [hRest, hBack, hC]
        simp
      exact absurd (List.all_eq_true.mp hPlain _ hMem)
        (by decide)
  · exact ⟨back, hFront⟩

/- A header ends with the operator, but for blanks. -/
theorem ShiftHead.dropWhile_front
    (head : ShiftHead) :
    ∃ before,
      head.front.reverse.dropWhile Text.isBlank =
        '<' :: before := by
  have hFront :
      head.front =
        (taskWord ++ head.gap ++ head.name ++ head.before ++
          ['<']) ++ '<' :: head.behind := by
    simp [ShiftHead.front]
  rw [hFront]
  exact ⟨_, dropWhile_reverse (by decide) head.areBlanks.2 _⟩

/-
  The new header of a task ends with its name, so no header
  ends with its first brace.
-/
theorem closureHeader_newHeader
    {front body : List Char}
    (head : ShiftHead)
    (h : closureHeader (front ++ (head.render ++ body)) = none)
    (other : List Char) :
    closureHeader
      (front ++ (newHeader head.name ++ other)) = none := by
  rw [closureHeader_eq_none_iff] at h ⊢
  intro found behind hText
  have hOpened :
      (front ++ ("task ".toList ++ head.name ++ [' '])) ++
          '\x7b' :: (" doLast \x7b".toList ++ other) =
        found.render ++ behind := by
    rw [← hText]
    unfold newHeader
    simp only [List.append_assoc]
    rfl
  rcases found.brace_behind (by decide) hOpened with
    hFront | ⟨more, hFront⟩
  · -- A name stands where the operator would have to be.
    rcases found.dropWhile_front with ⟨before, hOperator⟩
    rcases List.eq_nil_or_concat head.name with
      hNil | ⟨init, c, hName⟩
    · exact head.isName.1 hNil
    · have hWord : Text.isWord c = true := by
        refine List.all_eq_true.mp head.isName.2 c ?_
        rw [hName]
        simp
      have hBlank : Text.isBlank c = false := by
        rw [Bool.eq_false_iff]
        intro hIs
        rw [Text.isWord_of_isBlank hIs] at hWord
        cases hWord
      have hLast :
          front ++ ("task ".toList ++ head.name ++ [' ']) =
            (front ++ "task ".toList ++ init) ++ c :: [' '] := by
        rw [hName]
        simp
      rw [← hFront, hLast, dropWhile_reverse hBlank (by decide)]
        at hOperator
      rw [(List.cons.inj hOperator).1] at hWord
      exact absurd hWord (by decide)
  · have hPlain :
        ("task ".toList ++ head.name ++ [' ']).all isPlain =
          true := by
      rw [List.all_append, List.all_append, head.name_plain]
      decide
    rcases found.exists_of_plain hPlain hFront with
      ⟨back, hBack⟩
    refine h found (back ++ (head.render ++ body)) ?_
    rw [hBack, List.append_assoc]

end Script

end GradleMigration

------------------------------------------------------------
-- Parts Without Headers
------------------------------------------------------------

namespace GradleMigration

namespace Script

/- No header starts in a part of a text. -/
def HeadFree
    (insideWord : Bool)
    (follow : List Char) : List Char → Prop
| [] => True
| c :: rest =>
    (insideWord = false →
        closureHeader (c :: rest ++ follow) = none) ∧
      HeadFree (Text.isWord c) follow rest

/- The place behind a header is in no word. -/
theorem ShiftHead.insideAfter_render
    (head : ShiftHead)
    (insideWord : Bool) :
    insideAfter insideWord head.render = false := by
  rw [ShiftHead.render, insideAfter_concat]
  decide

/- No header starts in two parts of a text. -/
theorem headFree_append
    {insideWord : Bool}
    {follow first second : List Char} :
    HeadFree insideWord follow (first ++ second) ↔
      HeadFree insideWord (second ++ follow) first ∧
        HeadFree (insideAfter insideWord first) follow
          second := by
  induction first generalizing insideWord with
  | nil => simp [HeadFree, insideAfter]
  | cons c more ih =>
      rw [List.cons_append, HeadFree, HeadFree, ih,
        insideAfter_cons, and_assoc]
      simp only [List.cons_append, List.append_assoc]

/- No header starts in a part without a place for one. -/
theorem headFree_of_forall
    {insideWord : Bool}
    {part follow : List Char}
    (h : ∀ front back, part = front ++ back → back ≠ [] →
      insideAfter insideWord front = false →
        closureHeader (back ++ follow) = none) :
    HeadFree insideWord follow part := by
  induction part generalizing insideWord with
  | nil => trivial
  | cons c rest ih =>
      refine ⟨h [] (c :: rest) rfl (List.cons_ne_nil c rest),
        ih ?_⟩
      intro front back hRest hBack hOutside
      refine h (c :: front) back ?_ hBack ?_
      · rw [hRest, List.cons_append]
      · rw [insideAfter_cons]
        exact hOutside

/- A new header ends with a brace. -/
theorem newHeader_concat
    (name : List Char) :
    newHeader name =
      ("task ".toList ++ name ++ " \x7b doLast ".toList) ++
        ['\x7b'] := by
  unfold newHeader
  rw [List.append_assoc ("task ".toList ++ name)]
  rfl

/- A new header starts no header. -/
theorem headFree_newHeader
    (head : ShiftHead)
    (insideWord : Bool)
    (follow : List Char) :
    HeadFree insideWord follow (newHeader head.name) := by
  have hShift : '<' ∉ newHeader head.name := by
    unfold newHeader
    simp only [List.mem_append, not_or]
    refine ⟨⟨by decide, ?_⟩, by decide⟩
    intro hMem
    have hWord := List.all_eq_true.mp head.isName.2 '<' hMem
    exact absurd hWord (by decide)
  apply headFree_of_forall
  intro front back hSplit hBack _
  -- Each end of it holds its last brace.
  have hLast : '\x7b' ∈ back := by
    have hEnd : ['\x7b'] <:+ newHeader head.name :=
      ⟨_, (newHeader_concat head.name).symm⟩
    have hInside : ['\x7b'] <:+ back :=
      List.suffix_of_suffix_length_le hEnd ⟨front, hSplit.symm⟩
        (List.length_pos_iff.mpr hBack)
    exact hInside.subset List.mem_cons_self
  rcases List.append_of_mem hLast with ⟨before, rest, hBrace⟩
  rw [hBrace, List.append_assoc, List.cons_append]
  apply closureHeader_of_no_shift
  intro hMem
  apply hShift
  rw [hSplit, hBrace]
  exact List.mem_append_right _ (List.mem_append_left _ hMem)

/- What follows a part matters for its headers only. -/
theorem HeadFree.congr
    {insideWord : Bool}
    {follow other part : List Char}
    (hPart : HeadFree insideWord follow part)
    (h : ∀ back, closureHeader (back ++ follow) = none →
      closureHeader (back ++ other) = none) :
    HeadFree insideWord other part := by
  induction part generalizing insideWord with
  | nil => trivial
  | cons c rest ih =>
      exact ⟨fun hOutside => h _ (hPart.1 hOutside),
        ih hPart.2⟩

/- The scan for headers passes over a part without any. -/
theorem HeadFree.headersFrom_append
    {insideWord : Bool}
    {follow part : List Char}
    (h : HeadFree insideWord follow part)
    (pos : Nat) :
    headersFrom 0 insideWord pos (part ++ follow) =
      headersFrom 0 (insideAfter insideWord part)
        (pos + part.length) follow := by
  induction part generalizing insideWord pos with
  | nil => rfl
  | cons c rest ih =>
      have hHere :
          headerHere insideWord pos (c :: rest ++ follow) =
            none := by
        unfold headerHere
        cases insideWord with
        | true => rfl
        | false =>
            rw [if_neg (by simp), h.1 rfl]
            rfl
      rw [List.cons_append] at hHere ⊢
      rw [headersFrom, hHere]
      simp only
      rw [ih h.2, insideAfter_cons, List.length_cons,
        Nat.add_assoc, Nat.add_comm 1]

/- The scan for headers skips one that has been found. -/
theorem headersFrom_skip
    (passed follow : List Char)
    (insideWord : Bool)
    (pos : Nat) :
    headersFrom passed.length insideWord pos
        (passed ++ follow) =
      headersFrom 0 (insideAfter insideWord passed)
        (pos + passed.length) follow := by
  induction passed generalizing insideWord pos with
  | nil => rfl
  | cons c more ih =>
      rw [List.length_cons, List.cons_append, headersFrom, ih,
        insideAfter_cons, Nat.add_assoc, Nat.add_comm 1]

/- The scan for headers finds one that starts a text. -/
theorem headersFrom_render
    (head : ShiftHead)
    (body : List Char)
    (pos : Nat) :
    headersFrom 0 false pos (head.render ++ body) =
      ⟨pos, head.name, head.render.length⟩ ::
        headersFrom 0 false (pos + head.render.length)
          body := by
  obtain ⟨rest, hRest⟩ : ∃ rest, head.render = 't' :: rest :=
    ⟨_, rfl⟩
  have hHere :
      headerHere false pos (head.render ++ body) =
        some ⟨pos, head.name, head.render.length⟩ := by
    unfold headerHere
    rw [if_neg (by simp), closureHeader_render]
    simp
  rw [hRest, List.cons_append] at hHere ⊢
  rw [headersFrom, hHere]
  simp only [List.length_cons, Nat.add_sub_cancel]
  rw [headersFrom_skip, ← insideAfter_cons false, ← hRest,
    head.insideAfter_render, Nat.add_assoc, Nat.add_comm 1]

end Script

end GradleMigration
