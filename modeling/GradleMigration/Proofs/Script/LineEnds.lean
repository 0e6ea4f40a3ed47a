import GradleMigration.Proofs.Script.Sweep
import GradleMigration.Proofs.Text.LineEnds

/-
  Tasks in scripts with either style of line ends.

  Headers are the same in both, as blanks are blanks.  A line
  comment, and a literal that is not closed in its line, take
  the carriage return of a CR LF pair with them, which changes
  no depth.  But a backslash takes one character only, so an
  escaped line feed does not end a literal where an escaped CR
  LF pair does: without escaped line feeds tasks are migrated
  alike.

  Main declarations:
    * `closureHeader_crLf`
    * `ShiftHead.crLf`
    * `lexemeLength_crLf`
    * `blockEndFrom_crLf`
    * `Sweep.crLf`
    * `migrateTasks_crLf`
-/

------------------------------------------------------------
-- Headers
------------------------------------------------------------

namespace GradleMigration

open Text

namespace Script

/- Blanks and words are the same in either style. -/
theorem isBlank_lineEnd :
    Text.isBlank '\r' = Text.isBlank '\n' := by
  decide

theorem isWord_lineEnd :
    Text.isWord '\r' = Text.isWord '\n' := by
  decide

/- What follows a word at the front of a text. -/
theorem drop_crLf
    {word text : List Char}
    (hFeed : '\n' ∉ word)
    (h : word.isPrefixOf text = true) :
    (crLf text).drop word.length =
      crLf (text.drop word.length) := by
  rcases List.isPrefixOf_iff_prefix.mp h with ⟨rest, hRest⟩
  rw [← hRest, crLf_append, crLf_of_not_mem hFeed,
    List.drop_left, List.drop_left]

/- Whether anything is passed over does not change. -/
theorem length_dropWhile_crLf
    (test : Char → Bool)
    (text : List Char) :
    (crLf (text.dropWhile test)).length = (crLf text).length ↔
      (text.dropWhile test).length = text.length := by
  rcases exists_passed test text with ⟨passed, _, hText, _⟩
  have hCrLf := congrArg (fun part => (crLf part).length) hText
  have hLength := congrArg List.length hText
  simp only [crLf_append, List.length_append]
    at hCrLf hLength
  constructor
  · intro hSame
    have hNone : (crLf passed).length = 0 := by omega
    have hNil : passed = [] :=
      crLf_eq_nil_iff.mp (List.eq_nil_of_length_eq_zero hNone)
    rw [hNil, List.length_nil] at hLength
    omega
  · intro hSame
    have hNone : passed.length = 0 := by omega
    have hNil := List.eq_nil_of_length_eq_zero hNone
    rw [hNil, crLf_nil, List.length_nil] at hCrLf
    omega

/- A word is on one line. -/
theorem crLf_takeWhile_isWord
    (text : List Char) :
    crLf (text.takeWhile Text.isWord) =
      text.takeWhile Text.isWord := by
  rcases exists_passed Text.isWord text with
    ⟨passed, hPassed, _, hNot⟩
  rw [hPassed]
  exact crLf_of_not_mem (hNot '\n' (by decide))

/- A header up to its operator, in either style. -/
theorem shiftHeader_crLf
    (text : List Char) :
    shiftHeader (crLf text) =
      (shiftHeader text).map fun found =>
        (found.1, crLf found.2) := by
  unfold shiftHeader
  rw [isPrefixOf_crLf (by decide) (by decide)]
  by_cases hTask : taskWord.isPrefixOf text = true
  · rw [if_pos hTask, if_pos hTask,
      drop_crLf (by decide) hTask]
    simp only [(span_crLf isBlank_lineEnd _).2,
      (span_crLf isWord_lineEnd _).1,
      (span_crLf isWord_lineEnd _).2, length_dropWhile_crLf,
      crLf_takeWhile_isWord]
    split
    · rfl
    · generalize List.dropWhile Text.isBlank
        (List.dropWhile Text.isWord _) = rest
      have hSame : ['<', '<'].isPrefixOf (crLf rest) =
          ['<', '<'].isPrefixOf rest :=
        isPrefixOf_crLf (by decide) (by decide) rest
      split
      · next behind hEq =>
          rw [hEq] at hSame
          rcases List.isPrefixOf_iff_prefix.mp hSame.symm with
            ⟨more, hMore⟩
          subst hMore
          cases hEq
          rfl
      · next hNone =>
          split
          · next behind => exact (hNone (crLf behind) rfl).elim
          · rfl
  · rw [if_neg hTask, if_neg hTask]
    rfl

/- A header, in either style. -/
theorem closureHeader_crLf
    (text : List Char) :
    closureHeader (crLf text) =
      (closureHeader text).map fun found =>
        (found.1, crLf found.2) := by
  unfold closureHeader
  rw [shiftHeader_crLf]
  cases shiftHeader text with
  | none => rfl
  | some found =>
      simp only [Option.map_some,
        (span_crLf isBlank_lineEnd _).2]
      generalize found.2.dropWhile Text.isBlank = rest
      have hSame : ['\x7b'].isPrefixOf (crLf rest) =
          ['\x7b'].isPrefixOf rest :=
        isPrefixOf_crLf (by decide) (by decide) rest
      split
      · next body hEq =>
          rw [hEq] at hSame
          rcases List.isPrefixOf_iff_prefix.mp hSame.symm with
            ⟨more, hMore⟩
          subst hMore
          cases hEq
          rfl
      · next hNone =>
          split
          · next body => exact (hNone (crLf body) rfl).elim
          · rfl

/- A character that fails a test is in no part that passes it. -/
theorem not_mem_of_all
    {test : Char → Bool}
    {part : List Char}
    (h : part.all test = true)
    {c : Char}
    (hC : test c = false) :
    c ∉ part := by
  intro hMem
  rw [List.all_eq_true.mp h c hMem] at hC
  cases hC

/- The header with its line ends in the other style. -/
def ShiftHead.crLf
    (head : ShiftHead) : ShiftHead where
  gap := Text.crLf head.gap
  name := head.name
  before := Text.crLf head.before
  behind := Text.crLf head.behind
  isGap :=
    ⟨mt crLf_eq_nil_iff.mp head.isGap.1,
      (all_crLf isBlank_lineEnd _).trans head.isGap.2⟩
  isName := head.isName
  areBlanks :=
    ⟨(all_crLf isBlank_lineEnd _).trans head.areBlanks.1,
      (all_crLf isBlank_lineEnd _).trans head.areBlanks.2⟩

theorem ShiftHead.render_crLf
    (head : ShiftHead) :
    head.crLf.render = Text.crLf head.render := by
  have hName : Text.crLf head.name = head.name :=
    crLf_of_not_mem (not_mem_of_all head.isName.2 (by decide))
  have hTask : Text.crLf taskWord = taskWord := by decide
  simp only [ShiftHead.render, ShiftHead.front, crLf_append,
    hName, hTask]
  rfl

end Script

end GradleMigration

------------------------------------------------------------
-- Lexemes
------------------------------------------------------------

namespace GradleMigration

open Text

namespace Script

/-
  With CR LF pairs a lexeme ends behind the same characters,
  or it takes the carriage return of the line end behind it.
-/
def Covers
    (count : Nat)
    (body tail : List Char) : Prop :=
  count = (crLf body).length ∨
    (tail.head? = some '\n' ∧
      count = (crLf body).length + 1)

/- One more character in front of a lexeme. -/
theorem Covers.cons
    {count : Nat}
    {body tail : List Char}
    (h : Covers count body tail)
    {c : Char}
    (hFeed : c ≠ '\n') :
    Covers (1 + count) (c :: body) tail := by
  unfold Covers at h ⊢
  rw [crLf_cons hFeed, List.length_cons]
  rcases h with hSame | ⟨hEnd, hMore⟩
  · exact Or.inl (by omega)
  · exact Or.inr ⟨hEnd, by omega⟩

theorem Covers.feed
    {count : Nat}
    {body tail : List Char}
    (h : Covers count body tail) :
    Covers (1 + (1 + count)) ('\n' :: body) tail := by
  unfold Covers at h ⊢
  rw [crLf_feed, List.length_cons, List.length_cons]
  rcases h with hSame | ⟨hEnd, hMore⟩
  · exact Or.inl (by omega)
  · exact Or.inr ⟨hEnd, by omega⟩

section

variable {quote : Char} {delimiter : List Char}

/- A character that is no quote is in no delimiter. -/
theorem not_mem_of_isQuote
    (hQuote : isQuote quote = true)
    (hDelimiter : ∀ c ∈ delimiter, c = quote)
    {c : Char}
    (hC : isQuote c = false) :
    c ∉ delimiter := by
  intro hMem
  rw [hDelimiter c hMem, hQuote] at hC
  cases hC

/- A delimiter does not start with what is no quote. -/
theorem isPrefixOf_of_isQuote
    (hQuote : isQuote quote = true)
    (hOpened : ∃ more, delimiter = quote :: more)
    {c : Char}
    (hC : isQuote c = false)
    (rest : List Char) :
    ¬ delimiter.isPrefixOf (c :: rest) = true := by
  rcases hOpened with ⟨more, hMore⟩
  subst hMore
  have hNe : (quote == c) = false := by
    apply beq_false_of_ne
    intro hEq
    rw [hEq, hC] at hQuote
    cases hQuote
  rw [List.isPrefixOf, hNe]
  exact Bool.false_ne_true

/- A carriage return belongs to a literal. -/
theorem literalBody_return
    (hQuote : isQuote quote = true)
    (hOpened : ∃ more, delimiter = quote :: more)
    (rest : List Char) :
    literalBody delimiter ('\r' :: rest) =
      1 + literalBody delimiter rest := by
  have hPrefix := isPrefixOf_of_isQuote hQuote hOpened
    (show isQuote '\r' = false by decide) rest
  rw [literalBody_cons (by decide), if_neg hPrefix]
  simp

/- A literal that ends here is at the end of its line. -/
theorem literalBody_crLf_nil
    (hQuote : isQuote quote = true)
    (hOpened : ∃ more, delimiter = quote :: more)
    {tail : List Char}
    (h : literalBody delimiter tail = 0) :
    Covers (literalBody delimiter (crLf tail)) [] tail := by
  cases tail with
  | nil => exact Or.inl rfl
  | cons c rest =>
      by_cases hEscape : c = '\\'
      · subst hEscape
        cases rest with
        | nil => cases h
        | cons d rest =>
            rw [literalBody] at h
            omega
      · rw [literalBody_cons hEscape] at h
        split at h
        · rcases hOpened with ⟨more, hMore⟩
          subst hMore
          cases h
        · split at h
          · next hFeed =>
              simp only [Bool.and_eq_true, decide_eq_true_eq]
                at hFeed
              have hC := hFeed.2
              subst hC
              have hPrefix := isPrefixOf_of_isQuote hQuote
                hOpened (show isQuote '\n' = false by decide)
                (crLf rest)
              right
              rw [crLf_feed, literalBody_return hQuote hOpened,
                literalBody_cons (by decide), if_neg hPrefix,
                if_pos (by simpa using hFeed.1)]
              exact ⟨rfl, rfl⟩
          · omega

/- A backslash takes the character behind it in either style. -/
theorem literalBody_crLf_escape
    {more tail : List Char}
    (hUnescaped : Unescaped ('\\' :: (more ++ tail)))
    (h : literalBody delimiter ('\\' :: (more ++ tail)) =
      more.length + 1)
    (hMore : ∀ d rest, more = d :: rest →
      literalBody delimiter (rest ++ tail) = rest.length →
        Covers (literalBody delimiter (crLf (rest ++ tail)))
          rest tail) :
    Covers
      (literalBody delimiter (crLf ('\\' :: (more ++ tail))))
      ('\\' :: more) tail := by
  cases more with
  | nil =>
      cases tail with
      | nil => exact Or.inl rfl
      | cons d rest =>
          rw [List.nil_append, literalBody, List.length_nil]
            at h
          omega
  | cons d rest =>
      rw [List.cons_append] at hUnescaped h ⊢
      have hD : d ≠ '\n' :=
        (List.isChain_cons_cons.mp hUnescaped).1 rfl
      rw [literalBody, List.length_cons] at h
      have hRest := hMore d rest rfl (by omega)
      rw [crLf_cons (by decide), crLf_cons hD, literalBody]
      have hBoth := (hRest.cons hD).cons
        (show '\\' ≠ '\n' by decide)
      rwa [← Nat.add_assoc] at hBoth

/-
  Without escaped line feeds a literal ends alike, but for the
  carriage return that comes before the end of its line.
-/
theorem literalBody_crLf
    (hQuote : isQuote quote = true)
    (hDelimiter : ∀ c ∈ delimiter, c = quote)
    (hOpened : ∃ more, delimiter = quote :: more)
    {body tail : List Char}
    (hUnescaped : Unescaped (body ++ tail))
    (h : literalBody delimiter (body ++ tail) = body.length) :
    Covers (literalBody delimiter (crLf (body ++ tail))) body
      tail := by
  have hNoFeed : '\n' ∉ delimiter :=
    not_mem_of_isQuote hQuote hDelimiter (by decide)
  have hPrefix : ∀ text, delimiter.isPrefixOf (crLf text) =
      delimiter.isPrefixOf text :=
    isPrefixOf_crLf
      (not_mem_of_isQuote hQuote hDelimiter (by decide))
      hNoFeed
  -- A backslash takes two characters at once.
  induction hLength : body.length using Nat.strongRecOn
    generalizing body with
  | _ n ih =>
      subst hLength
      cases body with
      | nil => exact literalBody_crLf_nil hQuote hOpened h
      | cons c more =>
          by_cases hEscape : c = '\\'
          · subst hEscape
            refine literalBody_crLf_escape hUnescaped h ?_
            intro d rest hMore hEnd
            subst hMore
            exact ih rest.length
              (Nat.lt_add_of_pos_right Nat.two_pos)
              hUnescaped.tail.tail hEnd rfl
          · rw [List.cons_append] at hUnescaped h ⊢
            rw [literalBody_cons hEscape] at h
            split at h
            · next hHere =>
                -- The literal is its delimiter.
                have hWhole : delimiter = c :: more :=
                  (List.prefix_of_prefix_length_le
                    (List.isPrefixOf_iff_prefix.mp hHere)
                    (List.prefix_append (c :: more) tail)
                    (Nat.le_of_eq h)).eq_of_length h
                left
                have hC : c ≠ '\n' := by
                  intro hEq
                  rw [hWhole, hEq] at hNoFeed
                  exact hNoFeed List.mem_cons_self
                have hThere := hPrefix (c :: (more ++ tail))
                rw [crLf_cons hC, hHere] at hThere
                rw [crLf_cons hC, literalBody_cons hEscape,
                  if_pos hThere, ← hWhole,
                  crLf_of_not_mem hNoFeed]
            · next hHere =>
                split at h
                · cases h
                · next hEnd =>
                    rw [List.length_cons] at h
                    have hMore := ih more.length
                      (Nat.lt_succ_self _) hUnescaped.tail
                      (by omega) rfl
                    by_cases hC : c = '\n'
                    · subst hC
                      have hFeed := isPrefixOf_of_isQuote
                        hQuote hOpened
                        (show isQuote '\n' = false by decide)
                        (crLf (more ++ tail))
                      rw [crLf_feed,
                        literalBody_return hQuote hOpened,
                        literalBody_cons hEscape,
                        if_neg hFeed, if_neg hEnd]
                      exact hMore.feed
                    · have hThere :=
                        hPrefix (c :: (more ++ tail))
                      rw [crLf_cons hC] at hThere
                      rw [crLf_cons hC,
                        literalBody_cons hEscape,
                        if_neg (by rwa [hThere]),
                        if_neg hEnd]
                      exact hMore.cons hC

/- A literal with its quotes. -/
theorem literalLength_crLf
    (hQuote : isQuote quote = true)
    {body tail : List Char}
    (hUnescaped : Unescaped (body ++ tail))
    (h : literalLength quote (body ++ tail) =
      body.length + 1) :
    ∃ count,
      literalLength quote (crLf (body ++ tail)) = count + 1 ∧
        Covers count body tail := by
  have hNotReturn : quote ≠ '\r' := by
    intro hEq
    rw [hEq] at hQuote
    cases hQuote
  have hNotFeed := ne_lineFeed_of_isQuote hQuote
  have hSame : [quote, quote].isPrefixOf (crLf (body ++ tail)) =
      [quote, quote].isPrefixOf (body ++ tail) :=
    isPrefixOf_crLf (by simp [Ne.symm hNotReturn])
      (by simp [Ne.symm hNotFeed]) _
  unfold literalLength delimiterOf at h ⊢
  rw [hSame]
  by_cases hTripled : [quote, quote] <+: body ++ tail
  · rw [if_pos (List.isPrefixOf_iff_prefix.mpr hTripled)]
      at h ⊢
    change 3 + literalBody [quote, quote, quote]
      ((body ++ tail).drop 2) = body.length + 1 at h
    have hShort : [quote, quote].length ≤ body.length := by
      change 2 ≤ body.length
      omega
    obtain ⟨inside, hInside⟩ : [quote, quote] <+: body :=
      List.prefix_of_prefix_length_le hTripled
        (List.prefix_append body tail) hShort
    subst hInside
    change 3 + literalBody [quote, quote, quote]
      (inside ++ tail) = inside.length + 3 at h
    have hBody := literalBody_crLf hQuote
      (show ∀ c ∈ [quote, quote, quote], c = quote by simp)
      ⟨_, rfl⟩ (show Unescaped (inside ++ tail) from
        hUnescaped.tail.tail) (by omega)
    refine ⟨1 + (1 + literalBody [quote, quote, quote]
      (crLf (inside ++ tail))), ?_,
      (hBody.cons hNotFeed).cons hNotFeed⟩
    simp only [List.cons_append, List.nil_append,
      crLf_cons hNotFeed, List.length_cons, List.length_nil]
    simp only [Nat.reduceAdd, Nat.reduceSub, List.drop_succ_cons,
      List.drop_zero]
    omega
  · rw [if_neg (fun hIs => hTripled
      (List.isPrefixOf_iff_prefix.mp hIs))] at h ⊢
    change 1 + literalBody [quote] (body ++ tail) =
      body.length + 1 at h
    refine ⟨literalBody [quote] (crLf (body ++ tail)),
      Nat.add_comm 1 _, ?_⟩
    exact literalBody_crLf hQuote (by simp) ⟨_, rfl⟩
      hUnescaped (by omega)

end

/- A line comment takes the carriage return of its line. -/
theorem takeWhile_crLf
    {body tail : List Char}
    (h : ((body ++ tail).takeWhile (· != '\n')).length =
      body.length) :
    Covers ((crLf (body ++ tail)).takeWhile (· != '\n')).length
      body tail := by
  induction body with
  | nil =>
      cases tail with
      | nil => exact Or.inl rfl
      | cons c rest =>
          by_cases hC : c = '\n'
          · subst hC
            exact Or.inr ⟨rfl, rfl⟩
          · simp [hC] at h
  | cons c more ih =>
      by_cases hC : c = '\n'
      · subst hC
        cases h
      · have hTest : (c != '\n') = true := bne_iff_ne.mpr hC
        rw [List.cons_append, List.takeWhile_cons,
          if_pos hTest, List.length_cons, List.length_cons] at h
        have hMore := ih (Nat.succ.inj h)
        rw [List.cons_append, crLf_cons hC,
          List.takeWhile_cons, if_pos hTest, List.length_cons,
          Nat.add_comm]
        exact hMore.cons hC

/- A block comment ends with its mark. -/
theorem blockCommentBody_crLf
    {body tail : List Char}
    (h : blockCommentBody (body ++ tail) = body.length) :
    blockCommentBody (crLf (body ++ tail)) =
      (crLf body).length := by
  induction body with
  | nil =>
      cases tail with
      | nil => rfl
      | cons c rest =>
          rw [List.nil_append, blockCommentBody_cons] at h
          split at h
          · cases h
          · rw [List.length_nil] at h
            omega
  | cons c more ih =>
      rw [List.cons_append, blockCommentBody_cons] at h
      by_cases hC : c = '\n'
      · subst hC
        rw [if_neg (by simp), List.length_cons] at h
        rw [List.cons_append, crLf_feed, crLf_feed,
          blockCommentBody_cons, if_neg (by simp),
          blockCommentBody_cons, if_neg (by simp),
          ih (by omega), List.length_cons, List.length_cons]
        omega
      · rw [List.cons_append, crLf_cons hC, crLf_cons hC,
          blockCommentBody_cons]
        have hHead := head?_crLf (show '/' ≠ '\r' by decide)
          (by decide) (more ++ tail)
        simp only [hHead]
        split
        · next hClosed =>
            rw [if_pos hClosed, List.length_cons] at h
            rcases List.length_eq_one_iff.mp
                (show more.length = 1 by omega) with ⟨d, hD⟩
            subst hD
            cases hClosed.2
            rfl
        · next hOpen =>
            rw [if_neg hOpen, List.length_cons] at h
            rw [ih (by omega), List.length_cons, Nat.add_comm]

/-
  Without escaped line feeds a lexeme ends alike, but for the
  carriage return that comes before the end of its line.
-/
theorem lexemeLength_crLf
    {c : Char}
    {body tail : List Char}
    (hUnescaped : Unescaped (body ++ tail))
    (h : lexemeLength c (body ++ tail) = body.length + 1) :
    ∃ count,
      lexemeLength c (crLf (body ++ tail)) = count + 1 ∧
        Covers count body tail := by
  cases lexemeLength_eq_iff.mp h with
  | literal opens length =>
      rw [lexemeLength, if_pos opens]
      exact literalLength_crLf opens hUnescaped length
  | @lineComment inside length =>
      have hLine := takeWhile_crLf length
      refine ⟨_, ?_, hLine.cons (by decide)⟩
      rw [List.cons_append, crLf_cons (by decide),
        lexemeLength, if_neg (by decide)]
      change 2 + _ = _
      omega
  | @blockComment inside length =>
      have hBlock := blockCommentBody_crLf length
      refine ⟨_, ?_, Covers.cons (Or.inl hBlock) (by decide)⟩
      rw [List.cons_append, crLf_cons (by decide),
        lexemeLength, if_neg (by decide)]
      change 2 + _ = _
      omega
  | single closed bare =>
      have hBare : commentLength (c :: crLf tail) = none := by
        rw [commentLength_eq_none_iff, pair_prefix_iff,
          pair_prefix_iff] at bare ⊢
        rw [head?_crLf (by decide) (by decide),
          head?_crLf (by decide) (by decide)]
        exact bare
      refine ⟨0, ?_, Or.inl rfl⟩
      rw [lexemeLength, if_neg (by simp [closed]),
        List.nil_append, hBare]
      rfl

end Script

end GradleMigration

------------------------------------------------------------
-- Braces
------------------------------------------------------------

namespace GradleMigration

open Text

namespace Script

/- A line that ends behind a part of a text ends in it. -/
theorem exists_feed
    {follow tail : List Char}
    (hFollow : follow.head? ≠ some '\n')
    (h : (tail ++ follow).head? = some '\n') :
    ∃ rest, tail = '\n' :: rest := by
  cases tail with
  | nil => exact absurd h hFollow
  | cons c rest =>
      cases h
      exact ⟨rest, rfl⟩

/-
  Reading a part of a text leads from one depth to another in
  either style, if no line ends right behind it.
-/
theorem Passage.crLf
    {follow text : List Char}
    {depth last : Nat}
    (h : Passage follow depth text last)
    (hFollow : follow.head? ≠ some '\n')
    (hUnescaped : Unescaped (text ++ follow)) :
    Passage (Text.crLf follow) depth (Text.crLf text) last := by
  induction h with
  | done depth => exact .done depth
  | @lexeme c body tail depth next last hLexeme hStep _ ih =>
      rw [List.cons_append, List.append_assoc] at hUnescaped
      have hBody := hUnescaped.tail
      have hMore := ih (hBody.right_of_append)
      by_cases hC : c = '\n'
      · subst hC
        have hOne : body.length + 1 = 1 := by
          rw [← hLexeme, lexemeLength_plain (by decide)]
        have hNil := List.eq_nil_of_length_eq_zero
          (Nat.succ.inj hOne)
        subst hNil
        cases hStep
        have hPlain : ['\r', '\n'].all isPlain = true := by
          decide
        exact (plain hPlain depth
          (Text.crLf tail ++ Text.crLf follow)).append hMore
      · rcases lexemeLength_crLf hBody hLexeme with
          ⟨count, hCount, hSame | ⟨hLine, hTaken⟩⟩
        · subst hSame
          rw [crLf_cons hC, crLf_append]
          refine .lexeme ?_ hStep hMore
          rw [← crLf_append, ← crLf_append, hCount]
        · -- The lexeme takes the carriage return behind it.
          subst hTaken
          rcases exists_feed hFollow hLine with ⟨rest, hRest⟩
          subst hRest
          have hReturn : lexemeLength '\r'
              ([] ++ ('\n' :: Text.crLf rest ++
                Text.crLf follow)) =
                ([] : List Char).length + 1 :=
            lexemeLength_plain (by decide) _
          rcases hMore.behind_lexeme hReturn with
            ⟨after, hAfter, hTail⟩
          cases hAfter
          have hText : Text.crLf (c :: (body ++ '\n' :: rest)) =
              c :: ((Text.crLf body ++ ['\r']) ++
                '\n' :: Text.crLf rest) := by
            rw [crLf_cons hC, crLf_append, crLf_feed,
              List.append_assoc]
            rfl
          rw [hText]
          refine .lexeme ?_ hStep hTail
          rw [crLf_append, List.cons_append, crLf_feed] at hCount
          rw [List.length_append, List.append_assoc]
          simpa using hCount

end Script

end GradleMigration

------------------------------------------------------------
-- Tasks
------------------------------------------------------------

namespace GradleMigration

open Text

namespace Script

/- A block that is not closed is not closed in either style. -/
theorem blockEndFrom_crLf
    {text : List Char}
    (hUnescaped : Unescaped text)
    (h : blockEndFrom 0 1 0 text = none) :
    blockEndFrom 0 1 0 (crLf text) = none := by
  have hZero : ((0 + 1 : Nat) : Int) = 1 := rfl
  rw [← hZero, blockEndFrom_eq_none_iff_exists] at h ⊢
  rcases h with ⟨last, hLast⟩
  rw [← List.append_nil text] at hUnescaped
  exact ⟨last, hLast.crLf (by simp) hUnescaped⟩

namespace ShiftHead

/- There is no backslash in a header. -/
theorem backslash_not_mem_render
    (head : ShiftHead) :
    '\\' ∉ head.render := by
  simp only [render, front, List.mem_append, not_or]
  exact ⟨⟨⟨⟨⟨⟨by decide,
    not_mem_of_all head.isGap.2 (by decide)⟩,
    not_mem_of_all head.isName.2 (by decide)⟩,
    not_mem_of_all head.areBlanks.1 (by decide)⟩, by decide⟩,
    not_mem_of_all head.areBlanks.2 (by decide)⟩, by decide⟩

/- A new header has the characters of its name and few others. -/
theorem not_mem_newHeader
    (head : ShiftHead)
    {c : Char}
    (hName : Text.isWord c = false)
    (hHeader : c ∉ newHeader []) :
    c ∉ newHeader head.name := by
  unfold newHeader at hHeader ⊢
  rw [List.append_nil, List.mem_append, not_or] at hHeader
  rw [List.mem_append, List.mem_append, not_or, not_or]
  exact ⟨⟨hHeader.1, not_mem_of_all head.isName.2 hName⟩,
    hHeader.2⟩

end ShiftHead

namespace Sweep

variable {insideWord : Bool} {text out : List Char}

/- No line feed gets escaped. -/
theorem unescaped
    (h : Sweep insideWord text out)
    (hText : Unescaped text) :
    Unescaped out := by
  induction h with
  | done => exact hText
  | @step insideWord c rest out _ hMore ih =>
      rcases List.isChain_cons.mp hText with ⟨hHead, hRest⟩
      rw [← hMore.head?_eq] at hHead
      exact List.isChain_cons.mpr ⟨hHead, ih hRest⟩
  | @closed body inside back head _ _ ih =>
      rcases List.isChain_append.mp (ih hText.right_of_append)
        with ⟨hInside, hBack, hJoint⟩
      have hBraces :
          Unescaped ('\x7d' :: ' ' :: '\x7d' :: back) :=
        unescaped_append
          (show '\\' ∉ ['\x7d', ' '] by decide) hBack
      exact unescaped_append
        (head.not_mem_newHeader (by decide) (by decide))
        (List.isChain_append.mpr ⟨hInside, hBraces, hJoint⟩)
  | @unclosed body out head _ _ ih =>
      exact unescaped_append head.backslash_not_mem_render
        (ih hText.right_of_append)

/- Tasks are migrated alike in either style. -/
theorem crLf
    (h : Sweep insideWord text out)
    (hText : Unescaped text) :
    Sweep insideWord (Text.crLf text) (Text.crLf out) := by
  induction h with
  | done insideWord => exact .done insideWord
  | @step insideWord c rest out hNone hMore ih =>
      have hRest := ih hText.tail
      by_cases hC : c = '\n'
      · subst hC
        exact .step (fun _ => rfl) (.step (fun _ => rfl) hRest)
      · rw [crLf_cons hC, crLf_cons hC]
        refine .step ?_ hRest
        intro hOutside
        rw [← crLf_cons hC, closureHeader_crLf, hNone hOutside]
        rfl
  | @closed body inside back head hMore hBlock ih =>
      have hBody := hText.right_of_append
      have hSwept := ih hBody
      rw [crLf_append, crLf_cons (by decide)] at hSwept
      have hPassage := hBlock.crLf (by simp)
        (hMore.unescaped hBody)
      rw [crLf_cons (by decide)] at hPassage
      have hClosed := Sweep.closed head.crLf hSwept hPassage
      rw [head.render_crLf] at hClosed
      simp only [crLf_append,
        crLf_of_not_mem (head.not_mem_newHeader
          (c := '\n') (by decide) (by decide))]
      exact hClosed
  | @unclosed body out head hMore hEnd ih =>
      have hBody := hText.right_of_append
      rw [crLf_append, crLf_append, ← head.render_crLf]
      exact .unclosed head.crLf (ih hBody)
        (blockEndFrom_crLf (hMore.unescaped hBody) hEnd)

end Sweep

/-
  Without escaped line feeds tasks are migrated alike in either
  style.
-/
theorem migrateTasks_crLf
    {content : List Char}
    (h : Unescaped content) :
    migrateTasks (crLf content) =
      crLf (migrateTasks content) :=
  migrateTasks_of_sweep ((sweep_migrateTasks content).crLf h)

end Script

end GradleMigration
