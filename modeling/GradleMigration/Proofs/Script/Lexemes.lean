import GradleMigration.Proofs.Script.Headers
import GradleMigration.Proofs.Script.TaskTree

/-
  How far a lexeme reaches, and how far it looks.

  A lexeme looks ahead by no more than one character once it
  has ended, so what stands further behind it can change
  without changing it.

  Main declarations:
    * `lexemeLength_bounds`
    * `exists_lexeme`
    * `lexeme_induction`
    * `IsLexeme` and `lexemeLength_eq_iff`
    * `literalBody_congr`
    * `lexemeLength_congr`
-/

------------------------------------------------------------
-- Lengths of Lexemes
------------------------------------------------------------

namespace GradleMigration

namespace Script

/- The next character of a literal, if it is no backslash. -/
theorem literalBody_cons
    {c : Char}
    (h : c ≠ '\\')
    (delimiter rest : List Char) :
    literalBody delimiter (c :: rest) =
      if delimiter.isPrefixOf (c :: rest) then
        delimiter.length
      else if delimiter.length = 1 && c = '\n' then
        0
      else
        1 + literalBody delimiter rest := by
  rw [literalBody]
  · intro hEq
    exact absurd hEq h
  · intro _ _ hEq
    exact absurd hEq h

/- No quote ends a line. -/
theorem ne_lineFeed_of_isQuote
    {c : Char}
    (h : isQuote c = true) :
    c ≠ '\n' := by
  intro hEq
  subst hEq
  exact absurd h (by decide)

/- A literal ends in the text. -/
theorem literalBody_le
    (delimiter text : List Char) :
    literalBody delimiter text ≤ text.length := by
  fun_induction literalBody delimiter text with
  | case1 => exact Nat.le_refl _
  | case2 => exact Nat.le_refl _
  | case3 c rest ih =>
      simp only [List.length_cons]
      omega
  | case4 c rest _ _ hPrefix =>
      exact (List.isPrefixOf_iff_prefix.mp hPrefix).length_le
  | case5 c rest => exact Nat.zero_le _
  | case6 c rest _ _ _ _ ih =>
      simp only [List.length_cons]
      omega

/- A block comment ends in the text. -/
theorem blockCommentBody_le
    (text : List Char) :
    blockCommentBody text ≤ text.length := by
  fun_induction blockCommentBody text with
  | case1 => exact Nat.le_refl _
  | case2 rest =>
      simp only [List.length_cons]
      omega
  | case3 c rest _ ih =>
      simp only [List.length_cons]
      omega

/- A comment has a first character and ends in the text. -/
theorem commentLength_bounds
    {text : List Char}
    {length : Nat}
    (h : commentLength text = some length) :
    1 ≤ length ∧ length ≤ text.length := by
  unfold commentLength at h
  split at h
  · next rest =>
      cases h
      have hLine := (List.takeWhile_sublist
        (p := (· != '\n')) (l := rest)).length_le
      simp only [List.length_cons]
      omega
  · next rest =>
      cases h
      have hBody := blockCommentBody_le rest
      simp only [List.length_cons]
      omega
  · cases h

/- A literal ends in the text. -/
theorem literalLength_bounds
    (quote : Char)
    (rest : List Char) :
    1 ≤ literalLength quote rest ∧
      literalLength quote rest ≤ rest.length + 1 := by
  unfold literalLength delimiterOf
  split
  · next hTripled =>
      have hLength :=
        (List.isPrefixOf_iff_prefix.mp hTripled).length_le
      have hBody := literalBody_le [quote, quote, quote]
        (rest.drop 2)
      rw [List.length_drop] at hBody
      change 2 ≤ rest.length at hLength
      change 1 ≤ 3 + literalBody _ (rest.drop 2) ∧
        3 + literalBody _ (rest.drop 2) ≤ rest.length + 1
      omega
  · have hBody := literalBody_le [quote] rest
    change 1 ≤ 1 + literalBody _ rest ∧
      1 + literalBody _ rest ≤ rest.length + 1
    omega

/- A lexeme has its first character and ends in the text. -/
theorem lexemeLength_bounds
    (c : Char)
    (rest : List Char) :
    1 ≤ lexemeLength c rest ∧
      lexemeLength c rest ≤ rest.length + 1 := by
  unfold lexemeLength
  split
  · exact literalLength_bounds c rest
  · cases hComment : commentLength (c :: rest) with
    | none => simp
    | some length => exact commentLength_bounds hComment

/- The lexeme that a text starts with, and what is behind it. -/
theorem exists_lexeme
    (c : Char)
    (rest : List Char) :
    ∃ body tail, rest = body ++ tail ∧
      lexemeLength c rest = body.length + 1 := by
  rcases lexemeLength_bounds c rest with ⟨hPos, hLe⟩
  refine ⟨rest.take (lexemeLength c rest - 1),
    rest.drop (lexemeLength c rest - 1),
    (List.take_append_drop _ _).symm, ?_⟩
  rw [List.length_take]
  omega

/-
  Induction on a text by its lexemes: what holds of the text
  behind a lexeme holds with the lexeme in front of it.
-/
theorem lexeme_induction
    {motive : List Char → Prop}
    (nil : motive [])
    (lexeme : ∀ {c : Char} {body tail : List Char},
      lexemeLength c (body ++ tail) = body.length + 1 →
        motive tail → motive (c :: (body ++ tail)))
    (text : List Char) :
    motive text := by
  induction hLength : text.length using Nat.strongRecOn
    generalizing text with
  | _ n ih =>
      subst hLength
      cases text with
      | nil => exact nil
      | cons c rest =>
          rcases exists_lexeme c rest with
            ⟨body, tail, hRest, hLexeme⟩
          subst hRest
          have hShort :
              tail.length < (c :: (body ++ tail)).length := by
            rw [List.length_cons, List.length_append]
            omega
          exact lexeme hLexeme (ih tail.length hShort tail rfl)

end Script

end GradleMigration

------------------------------------------------------------
-- Kinds of Lexemes
------------------------------------------------------------

namespace GradleMigration

namespace Script

/- A text starts with no comment. -/
theorem commentLength_eq_none_iff
    {text : List Char} :
    commentLength text = none ↔
      ¬ ['/', '/'] <+: text ∧ ¬ ['/', '*'] <+: text := by
  constructor
  · intro h
    refine ⟨?_, ?_⟩ <;> rintro ⟨rest, hText⟩ <;>
      (subst hText; cases h)
  · rintro ⟨hLine, hBlock⟩
    unfold commentLength
    split
    · next rest => exact absurd ⟨rest, rfl⟩ hLine
    · next rest => exact absurd ⟨rest, rfl⟩ hBlock
    · rfl

/- A text starts with two given characters. -/
theorem pair_prefix_iff
    {a b c : Char}
    {text : List Char} :
    [a, b] <+: c :: text ↔ a = c ∧ text.head? = some b := by
  rw [List.cons_prefix_cons]
  cases text with
  | nil => simp
  | cons d rest => simp [List.cons_prefix_cons, eq_comm]

/-
  The lexeme before a text is a literal, a comment of one of
  two kinds, or a single character that starts neither.
-/
inductive IsLexeme
    (rest : List Char) :
    Char → List Char → Prop
| literal {quote : Char} {body : List Char}
    (opens : isQuote quote = true)
    (length : literalLength quote (body ++ rest) =
      body.length + 1) :
    IsLexeme rest quote body
| lineComment {body : List Char}
    (length : ((body ++ rest).takeWhile (· != '\n')).length =
      body.length) :
    IsLexeme rest '/' ('/' :: body)
| blockComment {body : List Char}
    (length : blockCommentBody (body ++ rest) = body.length) :
    IsLexeme rest '/' ('*' :: body)
| single {c : Char}
    (closed : isQuote c = false)
    (bare : commentLength (c :: rest) = none) :
    IsLexeme rest c []

section

variable {c : Char} {body rest : List Char}

/- A comment is of one of the two kinds. -/
theorem isLexeme_of_commentLength
    (h : commentLength (c :: (body ++ rest)) =
      some (body.length + 1)) :
    IsLexeme rest c body := by
  cases body with
  | nil =>
      unfold commentLength at h
      split at h
      · rw [Option.some.injEq, List.length_nil] at h
        omega
      · rw [Option.some.injEq, List.length_nil] at h
        omega
      · cases h
  | cons d inside =>
      rw [List.cons_append] at h
      unfold commentLength at h
      split at h
      · next line hEq =>
          cases hEq
          rw [Option.some.injEq, List.length_cons] at h
          exact .lineComment (by omega)
      · next block hEq =>
          cases hEq
          rw [Option.some.injEq, List.length_cons] at h
          exact .blockComment (by omega)
      · cases h

/- What the length of a lexeme says about it. -/
theorem lexemeLength_eq_iff :
    lexemeLength c (body ++ rest) = body.length + 1 ↔
      IsLexeme rest c body := by
  constructor
  · intro h
    cases hQuote : isQuote c with
    | true =>
        rw [lexemeLength, if_pos hQuote] at h
        exact .literal hQuote h
    | false =>
        rw [lexemeLength, if_neg (by simp [hQuote])] at h
        cases hComment : commentLength (c :: (body ++ rest)) with
        | some length =>
            rw [hComment, Option.getD_some] at h
            exact isLexeme_of_commentLength (h ▸ hComment)
        | none =>
            rw [hComment, Option.getD_none] at h
            have hNil : body = [] :=
              List.eq_nil_of_length_eq_zero
                (Nat.succ.inj h).symm
            subst hNil
            exact .single hQuote hComment
  · intro h
    cases h with
    | literal opens length =>
        rw [lexemeLength, if_pos opens]
        exact length
    | @lineComment inside length =>
        rw [lexemeLength, if_neg (by decide)]
        change 2 + ((inside ++ rest).takeWhile
          (· != '\n')).length = inside.length + 2
        rw [length, Nat.add_comm]
    | @blockComment inside length =>
        rw [lexemeLength, if_neg (by decide)]
        change 2 + blockCommentBody (inside ++ rest) =
          inside.length + 2
        rw [length, Nat.add_comm]
    | single closed bare =>
        rw [lexemeLength, if_neg (by simp [closed]),
          List.nil_append, bare]
        rfl

end

end Script

end GradleMigration

------------------------------------------------------------
-- What a Lexeme Looks At
------------------------------------------------------------

namespace GradleMigration

namespace Script

section

variable {rest other : List Char}

/- A text that ends where another one ends. -/
theorem eq_nil_of_head?
    (h : rest.head? = other.head?)
    (hRest : rest = []) :
    other = [] := by
  rw [hRest, List.head?_nil] at h
  exact List.head?_eq_none_iff.mp h.symm

/- A text that starts as another one does. -/
theorem exists_cons_of_head?
    (h : rest.head? = other.head?)
    {c : Char}
    {more : List Char}
    (hOther : other = c :: more) :
    ∃ tail, rest = c :: tail := by
  rw [hOther, List.head?_cons] at h
  exact List.head?_eq_some_iff.mp h

/-
  Inside a literal there is no run of quotes up to its end
  that is shorter than its delimiter.
-/
theorem literalBody_ne_of_run
    {quote : Char}
    (hQuote : isQuote quote = true)
    {delimiter run : List Char}
    (hRun : ∀ c ∈ run, c = quote)
    (hLonger : run.length < delimiter.length)
    (rest : List Char) :
    literalBody delimiter (run ++ quote :: rest) ≠
      run.length := by
  have hEscape := ne_backslash_of_isQuote hQuote
  have hFeed := ne_lineFeed_of_isQuote hQuote
  induction run with
  | nil =>
      rw [List.nil_append, literalBody_cons hEscape]
      split
      · simp only [List.length_nil] at hLonger ⊢
        omega
      · simp [hFeed]
  | cons c more ih =>
      have hC := hRun c List.mem_cons_self
      subst hC
      have hMore := ih
        (fun d hD => hRun d (List.mem_cons_of_mem _ hD))
        (Nat.lt_of_succ_lt hLonger)
      rw [List.cons_append, literalBody_cons hEscape]
      split
      · exact Nat.ne_of_gt hLonger
      · simp only [hFeed, decide_false, Bool.and_false,
          Bool.false_eq_true, if_false, List.length_cons]
        omega

/- An empty literal body ends the text or a line. -/
theorem literalBody_eq_zero
    {quote : Char}
    (hQuote : isQuote quote = true)
    {delimiter : List Char}
    (hDelimiter : ∃ more, delimiter = quote :: more)
    (hHead : rest.head? = other.head?)
    (h : literalBody delimiter rest = 0) :
    literalBody delimiter other = 0 := by
  rcases hDelimiter with ⟨more, hDelimiter⟩
  subst hDelimiter
  cases other with
  | nil => rfl
  | cons c tail =>
      rcases exists_cons_of_head? hHead rfl with ⟨line, hRest⟩
      subst hRest
      by_cases hEscape : c = '\\'
      · subst hEscape
        cases line with
        | nil => cases h
        | cons d line =>
            rw [literalBody] at h
            omega
      · rw [literalBody_cons hEscape] at h ⊢
        split at h
        · cases h
        · split at h
          · next hFeed =>
              have hC : c = '\n' := by
                simp only [Bool.and_eq_true, decide_eq_true_eq]
                  at hFeed
                exact hFeed.2
              have hOther :
                  (quote :: more).isPrefixOf (c :: tail) =
                    false := by
                rw [hC]
                simp [List.isPrefixOf,
                  ne_lineFeed_of_isQuote hQuote]
              rw [if_neg (by simp [hOther]), if_pos hFeed]
          · omega

/-
  A delimiter is not met at a place inside a literal, whatever
  follows the literal behind the next character.
-/
theorem not_delimiter_congr
    {quote : Char}
    (hQuote : isQuote quote = true)
    {delimiter : List Char}
    (hDelimiter : ∀ c ∈ delimiter, c = quote)
    (hHead : rest.head? = other.head?)
    {c : Char}
    {more : List Char}
    (hHere : ¬ delimiter <+: c :: (more ++ rest))
    (hMore :
      literalBody delimiter (more ++ rest) = more.length) :
    ¬ delimiter <+: c :: (more ++ other) := by
  intro hPrefix
  rcases Nat.lt_or_ge (c :: more).length delimiter.length with
    hLonger | hFits
  · -- The delimiter would go on behind the literal.
    have hInside : c :: more <+: delimiter :=
      List.prefix_of_prefix_length_le
        (List.prefix_append (c :: more) other) hPrefix
        (Nat.le_of_lt hLonger)
    rcases hInside with ⟨tail, hTail⟩
    cases tail with
    | nil =>
        rw [← hTail, List.append_nil] at hLonger
        exact Nat.lt_irrefl _ hLonger
    | cons d tail =>
        have hD : d = quote := by
          apply hDelimiter
          rw [← hTail]
          exact List.mem_append_right _ List.mem_cons_self
        have hRun : ∀ e ∈ more, e = quote := by
          intro e hE
          apply hDelimiter
          rw [← hTail]
          exact List.mem_append_left _
            (List.mem_cons_of_mem _ hE)
        rw [← hTail] at hPrefix
        rcases hPrefix with ⟨last, hLast⟩
        have hOther : other = d :: (tail ++ last) := by
          simpa using hLast.symm
        rcases exists_cons_of_head? hHead hOther with
          ⟨line, hRest⟩
        subst hRest
        subst hD
        exact literalBody_ne_of_run hQuote hRun
          (Nat.lt_of_succ_lt hLonger) line hMore
  · have hInside : delimiter <+: c :: more :=
      List.prefix_of_prefix_length_le hPrefix
        (List.prefix_append (c :: more) other) hFits
    exact hHere (hInside.trans (List.prefix_append _ rest))

/-
  The end of a literal is seen from one more character: its
  delimiter is not met any earlier when other text follows.
-/
theorem literalBody_congr
    {quote : Char}
    (hQuote : isQuote quote = true)
    {delimiter : List Char}
    (hDelimiter : ∀ c ∈ delimiter, c = quote)
    (hOpened : ∃ more, delimiter = quote :: more)
    (hHead : rest.head? = other.head?)
    {body : List Char}
    (h : literalBody delimiter (body ++ rest) = body.length) :
    literalBody delimiter (body ++ other) = body.length := by
  -- A backslash takes two characters at once.
  induction hLength : body.length using Nat.strongRecOn
    generalizing body with
  | _ n ih =>
      subst hLength
      cases body with
      | nil => exact literalBody_eq_zero hQuote hOpened hHead h
      | cons c more =>
          by_cases hEscape : c = '\\'
          · subst hEscape
            cases more with
            | nil =>
                cases rest with
                | nil =>
                    rw [eq_nil_of_head? hHead rfl]
                    rfl
                | cons d line =>
                    rw [List.cons_append, List.nil_append,
                      literalBody, List.length_singleton] at h
                    omega
            | cons d more =>
                rw [List.cons_append, List.cons_append,
                  literalBody, List.length_cons,
                  List.length_cons] at h ⊢
                have hMore :
                    literalBody delimiter (more ++ rest) =
                      more.length := by
                  omega
                rw [ih more.length
                  (Nat.lt_add_of_pos_right Nat.two_pos)
                  hMore rfl]
                omega
          · rw [List.cons_append, literalBody_cons hEscape]
              at h ⊢
            split at h
            · next hPrefix =>
                -- The literal is its delimiter.
                have hWhole : delimiter = c :: more :=
                  (List.prefix_of_prefix_length_le
                    (List.isPrefixOf_iff_prefix.mp hPrefix)
                    (List.prefix_append (c :: more) rest)
                    (Nat.le_of_eq h)).eq_of_length h
                rw [if_pos]
                · exact h
                · rw [List.isPrefixOf_iff_prefix, hWhole]
                  exact List.prefix_append (c :: more) other
            · next hHere =>
                split at h
                · cases h
                · next hFeed =>
                    have hMore :
                        literalBody delimiter (more ++ rest) =
                          more.length := by
                      rw [List.length_cons] at h
                      omega
                    have hOther := not_delimiter_congr hQuote
                      hDelimiter hHead
                      (fun hPrefix => hHere
                        (List.isPrefixOf_iff_prefix.mpr
                          hPrefix)) hMore
                    rw [← List.isPrefixOf_iff_prefix] at hOther
                    rw [if_neg hOther, if_neg hFeed,
                      ih more.length (Nat.lt_succ_self _)
                        hMore rfl,
                      List.length_cons, Nat.add_comm]

/-
  Two quotes do not follow the first one of a literal in plain
  quotes, whatever stands behind the next character.
-/
theorem not_tripled_congr
    {quote : Char}
    (hQuote : isQuote quote = true)
    (hHead : rest.head? = other.head?)
    {body : List Char}
    (hHere : ¬ [quote, quote] <+: body ++ rest)
    (h : literalBody [quote] (body ++ rest) = body.length) :
    ¬ [quote, quote] <+: body ++ other := by
  intro hPrefix
  cases body with
  | nil =>
      rcases hPrefix with ⟨last, hLast⟩
      rcases exists_cons_of_head? hHead hLast.symm with
        ⟨line, hRest⟩
      subst hRest
      have hQuoted : literalBody [quote] ([] ++ quote :: line) ≠
          0 :=
        literalBody_ne_of_run hQuote (by simp) (by simp) line
      exact hQuoted h
  | cons c more =>
      rw [List.cons_append, List.cons_prefix_cons] at hPrefix
      rcases hPrefix with ⟨hC, last, hLast⟩
      subst hC
      apply hHere
      rw [List.cons_append, List.cons_prefix_cons]
      refine ⟨rfl, ?_⟩
      cases more with
      | nil =>
          rcases exists_cons_of_head? hHead hLast.symm with
            ⟨line, hRest⟩
          subst hRest
          exact ⟨line, rfl⟩
      | cons d more =>
          rcases List.cons.inj hLast with ⟨hD, _⟩
          subst hD
          exact ⟨more ++ rest, rfl⟩

/- A literal is seen from one more character. -/
theorem literalLength_congr
    {quote : Char}
    (hQuote : isQuote quote = true)
    (hHead : rest.head? = other.head?)
    {body : List Char}
    (h : literalLength quote (body ++ rest) =
      body.length + 1) :
    literalLength quote (body ++ other) = body.length + 1 := by
  unfold literalLength delimiterOf at h ⊢
  by_cases hTripled : [quote, quote] <+: body ++ rest
  · rw [if_pos (List.isPrefixOf_iff_prefix.mpr hTripled)] at h
    change 3 + literalBody [quote, quote, quote]
      ((body ++ rest).drop 2) = body.length + 1 at h
    have hShort : [quote, quote].length ≤ body.length := by
      change 2 ≤ body.length
      omega
    obtain ⟨inside, hInside⟩ : [quote, quote] <+: body :=
      List.prefix_of_prefix_length_le hTripled
        (List.prefix_append body rest) hShort
    subst hInside
    rw [if_pos (by simp)]
    change 3 + literalBody [quote, quote, quote]
      (inside ++ rest) = inside.length + 3 at h
    change 3 + literalBody [quote, quote, quote]
      (inside ++ other) = inside.length + 3
    rw [literalBody_congr hQuote (by simp) ⟨_, rfl⟩ hHead
      (show _ = inside.length by omega)]
    exact Nat.add_comm _ _
  · rw [if_neg (fun hIs => hTripled
      (List.isPrefixOf_iff_prefix.mp hIs))] at h
    change 1 + literalBody [quote] (body ++ rest) =
      body.length + 1 at h
    have hBody :
        literalBody [quote] (body ++ rest) = body.length := by
      omega
    have hSingle :=
      not_tripled_congr hQuote hHead hTripled hBody
    rw [if_neg (fun hIs => hSingle
      (List.isPrefixOf_iff_prefix.mp hIs))]
    change 1 + literalBody [quote] (body ++ other) =
      body.length + 1
    rw [literalBody_congr hQuote (by simp) ⟨_, rfl⟩ hHead
      hBody]
    exact Nat.add_comm _ _

/- A line comment is seen from one more character. -/
theorem length_takeWhile_congr
    {test : Char → Bool}
    (hHead : rest.head? = other.head?)
    {body : List Char}
    (h : ((body ++ rest).takeWhile test).length =
      body.length) :
    ((body ++ other).takeWhile test).length = body.length := by
  induction body with
  | nil =>
      cases other with
      | nil => rfl
      | cons c tail =>
          rcases exists_cons_of_head? hHead rfl with
            ⟨line, hRest⟩
          subst hRest
          rw [List.nil_append, List.takeWhile_cons] at h ⊢
          split at h
          · cases h
          · next hTest => rw [if_neg hTest]
  | cons c more ih =>
      rw [List.cons_append, List.takeWhile_cons] at h ⊢
      split at h
      · next hTest =>
          rw [if_pos hTest, List.length_cons,
            ih (Nat.succ.inj h), List.length_cons]
      · cases h

/- A block comment is closed here, or goes on. -/
theorem blockCommentBody_cons
    (c : Char)
    (text : List Char) :
    blockCommentBody (c :: text) =
      if c = '*' ∧ text.head? = some '/' then
        2
      else
        1 + blockCommentBody text := by
  rw [blockCommentBody.eq_def]
  split
  · next hEq => cases hEq
  · next hEq =>
      cases hEq
      rw [if_pos ⟨rfl, rfl⟩]
  · next d tail hOpen hEq =>
      cases hEq
      rw [if_neg]
      rintro ⟨hStar, hSlash⟩
      rcases List.head?_eq_some_iff.mp hSlash with ⟨more, hMore⟩
      exact hOpen more hStar hMore

/- A block comment is seen from one more character. -/
theorem blockCommentBody_congr
    (hHead : rest.head? = other.head?)
    {body : List Char}
    (h : blockCommentBody (body ++ rest) = body.length) :
    blockCommentBody (body ++ other) = body.length := by
  induction body with
  | nil =>
      cases rest with
      | nil =>
          rw [eq_nil_of_head? hHead rfl]
          rfl
      | cons c tail =>
          rw [List.nil_append, blockCommentBody_cons] at h
          split at h
          · cases h
          · rw [List.length_nil] at h
            omega
  | cons c more ih =>
      have hNext :
          (more ++ rest).head? = (more ++ other).head? := by
        rw [List.head?_append, List.head?_append, hHead]
      rw [List.cons_append, blockCommentBody_cons, hNext] at h
      rw [List.cons_append, blockCommentBody_cons]
      split
      · next hClosed =>
          rw [if_pos hClosed] at h
          exact h
      · next hOpen =>
          rw [if_neg hOpen, List.length_cons] at h
          rw [ih (by omega), List.length_cons, Nat.add_comm]

/-
  A lexeme does not depend on what stands behind it, but for
  the next character.
-/
theorem lexemeLength_congr
    (hHead : rest.head? = other.head?)
    {c : Char}
    {body : List Char}
    (h : lexemeLength c (body ++ rest) = body.length + 1) :
    lexemeLength c (body ++ other) = body.length + 1 := by
  rw [lexemeLength_eq_iff] at h ⊢
  cases h with
  | literal opens length =>
      exact .literal opens
        (literalLength_congr opens hHead length)
  | lineComment length =>
      exact .lineComment (length_takeWhile_congr hHead length)
  | blockComment length =>
      exact .blockComment (blockCommentBody_congr hHead length)
  | single closed bare =>
      refine .single closed ?_
      rw [commentLength_eq_none_iff, pair_prefix_iff,
        pair_prefix_iff, hHead] at bare
      rw [commentLength_eq_none_iff, pair_prefix_iff,
        pair_prefix_iff]
      exact bare

end

end Script

end GradleMigration
