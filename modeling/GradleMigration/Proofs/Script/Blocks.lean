import GradleMigration.Proofs.Script.Depth

/-
  The brace that closes a block is found exactly where a
  grammar of blocks says that the block ends.

  A block is a pair of braces around items, and an item is a
  block, a string literal, a comment or one other character.
  What opens a literal or a comment is never another
  character, so items are told from what stands behind them.

  Main declarations:
    * `LiteralText`
    * `IsToken`
    * `Items`
    * `IsBlock`
    * `isBlock_iff_passage`
    * `closingBrace_iff_isBlock`
-/

------------------------------------------------------------
-- The Grammar
------------------------------------------------------------

namespace GradleMigration

namespace Script

/-
  The inside of a string literal, in front of what ends it.  A
  backslash takes the next character with it.  At no other
  character does the delimiter start, nor a new line where the
  delimiter is one quote.
-/
inductive LiteralText
    (delimiter follow : List Char) : List Char → Prop
| done : LiteralText delimiter follow []
| escape
    {c : Char}
    {rest : List Char}
    (more : LiteralText delimiter follow rest) :
    LiteralText delimiter follow ('\\' :: c :: rest)
| plain
    {c : Char}
    {rest : List Char}
    (noEscape : c ≠ '\\')
    (noEnd : ¬ delimiter <+: c :: (rest ++ follow))
    (oneLine : c = '\n' → delimiter.length ≠ 1)
    (more : LiteralText delimiter follow rest) :
    LiteralText delimiter follow (c :: rest)

/-
  An item that is no block, in front of what follows it: a
  literal up to its delimiter or up to the end of its line, a
  comment, or a character that opens nothing.

  What the text leaves open is no item.
-/
inductive IsToken
    (follow : List Char) : List Char → Prop
| literal
    {quote : Char}
    {tripled : Bool}
    {body : List Char}
    (opens : isQuote quote = true)
    (tripled_iff :
      tripled = true ↔ [quote, quote, quote] <+:
        delimiterFor quote tripled ++
          (body ++ (delimiterFor quote tripled ++ follow)))
    (inside :
      LiteralText (delimiterFor quote tripled)
        (delimiterFor quote tripled ++ follow) body) :
    IsToken follow
      (delimiterFor quote tripled ++
        (body ++ delimiterFor quote tripled))
| cutLiteral
    {quote : Char}
    {body : List Char}
    (opens : isQuote quote = true)
    (notTripled :
      ¬ [quote, quote, quote] <+: quote :: (body ++ follow))
    (inside : LiteralText [quote] follow body)
    (lineEnd : follow.head? = some '\n') :
    IsToken follow (quote :: body)
| lineComment
    {body : List Char}
    (oneLine : '\n' ∉ body)
    (lineEnd : follow.head? = some '\n') :
    IsToken follow ('/' :: '/' :: body)
| blockComment
    {body : List Char}
    (unclosed : ¬ ['*', '/'] <:+: body) :
    IsToken follow ('/' :: '*' :: (body ++ ['*', '/']))
| other
    {c : Char}
    (noQuote : isQuote c = false)
    (noBrace : c ≠ '\x7b' ∧ c ≠ '\x7d')
    (noComment :
      ¬ ['/', '/'] <+: c :: follow ∧
        ¬ ['/', '*'] <+: c :: follow) :
    IsToken follow [c]

/- Items one after another, in front of what follows them. -/
inductive Items : (follow : List Char) → List Char → Prop
| done (follow : List Char) : Items follow []
| block
    {inside rest follow : List Char}
    (items : Items ('\x7d' :: (rest ++ follow)) inside)
    (more : Items follow rest) :
    Items follow ('\x7b' :: (inside ++ '\x7d' :: rest))
| token
    {token rest follow : List Char}
    (isToken : IsToken (rest ++ follow) token)
    (more : Items follow rest) :
    Items follow (token ++ rest)

/- A pair of braces around items. -/
def IsBlock
    (text : List Char) : Prop :=
  ∃ inside,
    text = '\x7b' :: (inside ++ ['\x7d']) ∧
      Items ['\x7d'] inside

end Script

end GradleMigration

------------------------------------------------------------
-- Tokens Are Lexemes
------------------------------------------------------------

namespace GradleMigration

namespace Script

/- The inside of a literal is passed over. -/
theorem LiteralText.literalBody_append
    {delimiter follow body : List Char}
    (h : LiteralText delimiter follow body) :
    literalBody delimiter (body ++ follow) =
      body.length + literalBody delimiter follow := by
  induction h with
  | done => exact (Nat.zero_add _).symm
  | escape _ ih =>
      rw [List.cons_append, List.cons_append, literalBody, ih,
        List.length_cons, List.length_cons]
      omega
  | plain hEscape hEnd hLine _ ih =>
      have hPrefix :=
        fun h => hEnd (List.isPrefixOf_iff_prefix.mp h)
      rw [List.cons_append, literalBody_cons hEscape,
        if_neg hPrefix, if_neg, ih, List.length_cons]
      · omega
      · simp only [Bool.and_eq_true, decide_eq_true_eq, not_and]
        exact fun hOne hFeed => hLine hFeed hOne

/-
  A literal is closed behind its inside, or cut at the end of
  its line, or takes the whole text.
-/
theorem exists_literalText
    (delimiter text : List Char) :
    ∃ body rest stop,
      text = body ++ rest ∧ LiteralText delimiter rest body ∧
        literalBody delimiter text = body.length + stop ∧
          (delimiter <+: rest ∧ stop = delimiter.length ∨
            delimiter.length = 1 ∧ rest.head? = some '\n' ∧
              stop = 0 ∨
            stop = rest.length) := by
  fun_induction literalBody delimiter text with
  | case1 => exact ⟨[], [], 0, rfl, .done, rfl, .inr (.inr rfl)⟩
  | case2 =>
      exact ⟨[], ['\\'], 1, rfl, .done, rfl, .inr (.inr rfl)⟩
  | case3 c rest ih =>
      rcases ih with
        ⟨body, follow, stop, hRest, hBody, hLength, hStop⟩
      refine ⟨'\\' :: c :: body, follow, stop, by rw [hRest]; rfl,
        .escape hBody, ?_, hStop⟩
      rw [hLength, List.length_cons, List.length_cons]
      omega
  | case4 c rest _ _ hPrefix =>
      exact ⟨[], c :: rest, _, rfl, .done, (Nat.zero_add _).symm,
        .inl ⟨List.isPrefixOf_iff_prefix.mp hPrefix, rfl⟩⟩
  | case5 c rest _ _ _ hFeed =>
      simp only [Bool.and_eq_true, decide_eq_true_eq] at hFeed
      exact ⟨[], c :: rest, 0, rfl, .done, rfl,
        .inr (.inl ⟨hFeed.1, congrArg some hFeed.2, rfl⟩)⟩
  | case6 c rest hLast hEscape hPrefix hFeed ih =>
      rcases ih with
        ⟨body, follow, stop, hRest, hBody, hLength, hStop⟩
      have hNe : c ≠ '\\' := by
        intro hEq
        cases rest with
        | nil => exact hLast hEq rfl
        | cons d rest => exact hEscape d rest hEq rfl
      refine ⟨c :: body, follow, stop, by rw [hRest]; rfl,
        .plain hNe ?_ ?_ hBody, ?_, hStop⟩
      · rw [← hRest]
        exact fun h =>
          hPrefix (List.isPrefixOf_iff_prefix.mpr h)
      · intro hC hOne
        apply hFeed
        rw [hOne, hC]
        decide
      · rw [hLength, List.length_cons]
        omega

section

variable {follow : List Char} {quote : Char}

/- A literal behind tripled quotes. -/
theorem literalLength_tripled
    (quote : Char)
    (text : List Char) :
    literalLength quote (quote :: quote :: text) =
      3 + literalBody [quote, quote, quote] text := by
  unfold literalLength delimiterOf
  rw [if_pos (by simp)]
  rfl

/- A literal behind one quote. -/
theorem literalLength_single
    {text : List Char}
    (h : ¬ [quote, quote] <+: text) :
    literalLength quote text = 1 + literalBody [quote] text := by
  unfold literalLength delimiterOf
  rw [if_neg fun hIs => h (List.isPrefixOf_iff_prefix.mp hIs)]
  rfl

/- A delimiter ends the inside of a literal. -/
theorem literalBody_delimiter
    (opens : isQuote quote = true)
    (tripled : Bool)
    (follow : List Char) :
    literalBody (delimiterFor quote tripled)
        (delimiterFor quote tripled ++ follow) =
      (delimiterFor quote tripled).length := by
  have hQuote := ne_backslash_of_isQuote opens
  have hDelimiter :
      ∃ q more,
        delimiterFor quote tripled = q :: more ∧ q ≠ '\\' := by
    cases tripled with
    | true => exact ⟨quote, [quote, quote], rfl, hQuote⟩
    | false => exact ⟨quote, [], rfl, hQuote⟩
  have hClosed :
      isClosedBy (delimiterFor quote tripled) [] = true := rfl
  have hEnd :=
    literalBody_of_isClosedBy hDelimiter hClosed follow
  rw [List.nil_append, List.length_nil, Nat.zero_add] at hEnd
  exact hEnd

theorem ne_brace_of_isQuote
    (h : isQuote quote = true) :
    quote ≠ '\x7b' ∧ quote ≠ '\x7d' := by
  constructor
  · rintro rfl
    exact absurd h (by decide)
  · rintro rfl
    exact absurd h (by decide)

/- A closed literal ends behind its second delimiter. -/
theorem literalLength_closed
    {tripled : Bool}
    {body : List Char}
    (opens : isQuote quote = true)
    (tripled_iff :
      tripled = true ↔ [quote, quote, quote] <+:
        delimiterFor quote tripled ++
          (body ++ (delimiterFor quote tripled ++ follow)))
    (inside :
      LiteralText (delimiterFor quote tripled)
        (delimiterFor quote tripled ++ follow) body) :
    ∃ rest,
      delimiterFor quote tripled ++
          (body ++ delimiterFor quote tripled) =
        quote :: rest ∧
        literalLength quote (rest ++ follow) =
          rest.length + 1 := by
  have hBody := inside.literalBody_append
  rw [literalBody_delimiter opens, ← List.append_assoc] at hBody
  cases tripled with
  | true =>
      refine ⟨quote :: quote :: (body ++ _), rfl, ?_⟩
      rw [List.cons_append, List.cons_append,
        literalLength_tripled]
      change 3 + literalBody (delimiterFor quote true) _ = _
      rw [hBody]
      simp only [delimiterFor, if_true, List.length_cons,
        List.length_append, List.length_nil]
      omega
  | false =>
      refine ⟨body ++ [quote], rfl, ?_⟩
      have hSingle :
          ¬ [quote, quote] <+: (body ++ [quote]) ++ follow := by
        intro hPrefix
        rw [List.append_assoc] at hPrefix
        exact Bool.false_ne_true (tripled_iff.mpr
          (List.cons_prefix_cons.mpr ⟨rfl, hPrefix⟩))
      rw [literalLength_single hSingle]
      change 1 + literalBody (delimiterFor quote false)
        ((body ++ delimiterFor quote false) ++ follow) = _
      rw [hBody, List.length_append, Nat.add_comm]
      rfl

/- A literal that is cut ends with its line. -/
theorem literalLength_cut
    {body : List Char}
    (opens : isQuote quote = true)
    (notTripled :
      ¬ [quote, quote, quote] <+: quote :: (body ++ follow))
    (inside : LiteralText [quote] follow body)
    (lineEnd : follow.head? = some '\n') :
    literalLength quote (body ++ follow) = body.length + 1 := by
  rcases List.head?_eq_some_iff.mp lineEnd with ⟨tail, hTail⟩
  subst hTail
  have hEnd : literalBody [quote] ('\n' :: tail) = 0 := by
    rw [literalBody_cons (by decide), if_neg]
    · rfl
    · intro hPrefix
      rw [List.isPrefixOf_iff_prefix,
        List.cons_prefix_cons] at hPrefix
      exact ne_lineFeed_of_isQuote opens hPrefix.1
  have hSingle :
      ¬ [quote, quote] <+: body ++ '\n' :: tail :=
    fun hPrefix => notTripled
      (List.cons_prefix_cons.mpr ⟨rfl, hPrefix⟩)
  rw [literalLength_single hSingle, inside.literalBody_append,
    hEnd, Nat.add_zero, Nat.add_comm]

/- A token is the lexeme that its first character starts. -/
theorem IsToken.exists_lexeme
    {token : List Char}
    (h : IsToken follow token) :
    ∃ c body,
      token = c :: body ∧ c ≠ '\x7b' ∧ c ≠ '\x7d' ∧
        lexemeLength c (body ++ follow) = body.length + 1 := by
  cases h with
  | @literal quote tripled body hOpens hTripled hInside =>
      rcases ne_brace_of_isQuote hOpens with ⟨hOpen, hClose⟩
      rcases literalLength_closed hOpens hTripled hInside with
        ⟨rest, hIs, hLength⟩
      refine ⟨quote, rest, hIs, hOpen, hClose, ?_⟩
      rw [lexemeLength, if_pos hOpens]
      exact hLength
  | @cutLiteral quote body hOpens hSingle hInside hLine =>
      rcases ne_brace_of_isQuote hOpens with ⟨hOpen, hClose⟩
      refine ⟨quote, body, rfl, hOpen, hClose, ?_⟩
      rw [lexemeLength, if_pos hOpens]
      exact literalLength_cut hOpens hSingle hInside hLine
  | @lineComment body hOneLine hLine =>
      rcases List.head?_eq_some_iff.mp hLine with ⟨tail, hTail⟩
      subst hTail
      exact ⟨'/', _, rfl, by decide, by decide,
        lexemeLength_lineComment hOneLine tail⟩
  | @blockComment body hUnclosed =>
      exact ⟨'/', _, rfl, by decide, by decide,
        lexemeLength_blockComment hUnclosed follow⟩
  | @other c hQuote hBrace hComment =>
      refine ⟨c, [], rfl, hBrace.1, hBrace.2, ?_⟩
      rw [lexemeLength, if_neg (by rw [hQuote]; decide),
        List.nil_append,
        commentLength_eq_none_iff.mpr hComment]
      rfl

/- The inside of a literal that does not end the text. -/
theorem literalText_of_literalBody
    {delimiter inside : List Char}
    (hFollow : follow ≠ [])
    (h : literalBody delimiter (inside ++ follow) =
      inside.length) :
    (∃ body, inside = body ++ delimiter ∧
        LiteralText delimiter (delimiter ++ follow) body) ∨
      delimiter.length = 1 ∧ follow.head? = some '\n' ∧
        LiteralText delimiter follow inside := by
  rcases exists_literalText delimiter (inside ++ follow) with
    ⟨body, rest, stop, hText, hBody, hLength, hStop⟩
  rw [h] at hLength
  rcases hStop with ⟨hEnd, hIs⟩ | ⟨hOne, hLine, hIs⟩ | hIs
  · rcases hEnd with ⟨more, hMore⟩
    rw [← hMore, ← List.append_assoc] at hText
    have hSame : inside.length = (body ++ delimiter).length := by
      rw [hLength, hIs, List.length_append]
    rcases List.append_inj hText hSame with ⟨hInside, hRest⟩
    rw [← hMore, ← hRest] at hBody
    exact Or.inl ⟨body, hInside, hBody⟩
  · rw [hIs, Nat.add_zero] at hLength
    rcases List.append_inj hText hLength with ⟨hInside, hRest⟩
    rw [← hRest] at hLine hBody
    rw [← hInside] at hBody
    exact Or.inr ⟨hOne, hLine, hBody⟩
  · -- Nothing would follow.
    have hAll := congrArg List.length hText
    have hSome := List.length_pos_iff.mpr hFollow
    rw [List.length_append, List.length_append] at hAll
    omega

/- A literal behind tripled quotes is a token. -/
theorem isToken_of_tripled
    {body : List Char}
    (hFollow : follow ≠ [])
    (hQuote : isQuote quote = true)
    (hTripled : [quote, quote] <+: body ++ follow)
    (h : literalLength quote (body ++ follow) =
      body.length + 1) :
    IsToken follow (quote :: body) := by
  have hShort : [quote, quote].length ≤ body.length := by
    rcases hTripled with ⟨text, hText⟩
    rw [← hText, List.cons_append, List.cons_append,
      literalLength_tripled] at h
    simp only [List.length_cons, List.length_nil]
    omega
  obtain ⟨inside, hInside⟩ : [quote, quote] <+: body :=
    List.prefix_of_prefix_length_le hTripled
      (List.prefix_append body follow) hShort
  subst hInside
  have hBody :
      literalBody (delimiterFor quote true)
        (inside ++ follow) = inside.length := by
    rw [List.append_assoc, List.cons_append,
      List.cons_append, literalLength_tripled] at h
    simp only [List.length_append, List.length_cons,
      List.length_nil] at h
    change 3 + literalBody (delimiterFor quote true)
      (inside ++ follow) = _ at h
    omega
  rcases literalText_of_literalBody hFollow hBody with
    ⟨text, hText, hClosed⟩ | ⟨hOne, _⟩
  · subst hText
    have hIs :
        [quote, quote, quote] <+:
          delimiterFor quote true ++
            (text ++ (delimiterFor quote true ++ follow)) :=
      List.prefix_append _ _
    exact .literal hQuote ⟨fun _ => hIs, fun _ => rfl⟩ hClosed
  · cases hOne

/- A literal behind one quote is a token. -/
theorem isToken_of_single
    {body : List Char}
    (hFollow : follow ≠ [])
    (hQuote : isQuote quote = true)
    (hOther : ¬ [quote, quote] <+: body ++ follow)
    (h : literalLength quote (body ++ follow) =
      body.length + 1) :
    IsToken follow (quote :: body) := by
  rw [literalLength_single hOther] at h
  have hBody :
      literalBody (delimiterFor quote false)
        (body ++ follow) = body.length := by
    change 1 + literalBody (delimiterFor quote false) _ = _
      at h
    omega
  have hSingle :
      ¬ [quote, quote, quote] <+: quote :: (body ++ follow) :=
    fun hPrefix => hOther (List.cons_prefix_cons.mp hPrefix).2
  rcases literalText_of_literalBody hFollow hBody with
    ⟨text, hText, hClosed⟩ | ⟨_, hLine, hCut⟩
  · subst hText
    rw [List.append_assoc] at hSingle
    have hToken :
        IsToken follow
          (delimiterFor quote false ++
            (text ++ delimiterFor quote false)) :=
      .literal hQuote
        ⟨fun hIs => (Bool.false_ne_true hIs).elim,
          fun hIs => (hSingle hIs).elim⟩ hClosed
    exact hToken
  · exact .cutLiteral hQuote hSingle hCut hLine

/- A literal that does not end the text is a token. -/
theorem isToken_of_literalLength
    {body : List Char}
    (hFollow : follow ≠ [])
    (hQuote : isQuote quote = true)
    (h : literalLength quote (body ++ follow) =
      body.length + 1) :
    IsToken follow (quote :: body) := by
  by_cases hTripled : [quote, quote] <+: body ++ follow
  · exact isToken_of_tripled hFollow hQuote hTripled h
  · exact isToken_of_single hFollow hQuote hTripled h

/- A block comment is closed, or takes the whole text. -/
theorem blockCommentBody_cases
    (text : List Char) :
    (∃ body rest,
        text = body ++ '*' :: '/' :: rest ∧
          ¬ ['*', '/'] <:+: body ∧
          blockCommentBody text = body.length + 2) ∨
      blockCommentBody text = text.length := by
  induction text with
  | nil => exact Or.inr rfl
  | cons c text ih =>
      rw [blockCommentBody_cons]
      split
      · next hClosed =>
          rcases hClosed with ⟨hStar, hSlash⟩
          rcases List.head?_eq_some_iff.mp hSlash with
            ⟨rest, hRest⟩
          subst hStar
          subst hRest
          exact Or.inl ⟨[], rest, rfl, by simp, rfl⟩
      · next hOpen =>
          rcases ih with ⟨body, rest, hText, hBody, hLength⟩ | hAll
          · refine Or.inl ⟨c :: body, rest, by rw [hText]; rfl,
              ?_, ?_⟩
            · intro hInside
              rcases List.infix_cons_iff.mp hInside with
                hHere | hThere
              · rcases List.cons_prefix_cons.mp hHere with
                  ⟨hStar, more, hMore⟩
                apply hOpen
                rw [hText, ← hMore]
                exact ⟨hStar.symm, rfl⟩
              · exact hBody hThere
            · rw [hLength, List.length_cons]
              omega
          · right
            rw [hAll, List.length_cons, Nat.add_comm]

/- A line comment that does not end the text is a token. -/
theorem isToken_of_lineComment
    {inside : List Char}
    (hFollow : follow ≠ [])
    (h : ((inside ++ follow).takeWhile (· != '\n')).length =
      inside.length) :
    IsToken follow ('/' :: '/' :: inside) := by
  rcases exists_passed (· != '\n') (inside ++ follow) with
    ⟨line, hLine, hText, hFree⟩
  rw [hLine] at h
  rcases List.append_inj hText h.symm with ⟨hInside, hRest⟩
  have hEnd := List.head?_dropWhile_not (· != '\n')
    (inside ++ follow)
  rw [← hRest] at hEnd
  rcases List.exists_cons_of_ne_nil hFollow with
    ⟨e, tail, hTail⟩
  refine .lineComment ?_ ?_
  · rw [hInside]
    exact hFree '\n' (by decide)
  · rw [hTail] at hEnd ⊢
    exact congrArg some (bne_eq_false_iff_eq.mp hEnd)

/- A block comment that does not end the text is a token. -/
theorem isToken_of_blockComment
    {inside : List Char}
    (hFollow : follow ≠ [])
    (h : blockCommentBody (inside ++ follow) = inside.length) :
    IsToken follow ('/' :: '*' :: inside) := by
  have hSome := List.length_pos_iff.mpr hFollow
  rcases blockCommentBody_cases (inside ++ follow) with
    ⟨text, rest, hText, hBody, hLength⟩ | hAll
  · have hSplit :
        inside ++ follow = (text ++ ['*', '/']) ++ rest := by
      simpa using hText
    have hSame :
        inside.length = (text ++ ['*', '/']).length := by
      rw [← h, hLength, List.length_append]
      rfl
    rw [(List.append_inj hSplit hSame).1]
    exact .blockComment hBody
  · rw [List.length_append] at hAll
    omega

/- A lexeme that is no brace and does not end the text. -/
theorem isToken_of_lexeme
    {c : Char}
    {body : List Char}
    (hFollow : follow ≠ [])
    (hOpen : c ≠ '\x7b')
    (hClose : c ≠ '\x7d')
    (h : lexemeLength c (body ++ follow) = body.length + 1) :
    IsToken follow (c :: body) := by
  cases lexemeLength_eq_iff.mp h with
  | literal opens length =>
      exact isToken_of_literalLength hFollow opens length
  | lineComment length =>
      exact isToken_of_lineComment hFollow length
  | blockComment length =>
      exact isToken_of_blockComment hFollow length
  | single closed bare =>
      exact .other closed ⟨hOpen, hClose⟩
        (commentLength_eq_none_iff.mp bare)

end

end Script

end GradleMigration

------------------------------------------------------------
-- Items Are Passages
------------------------------------------------------------

namespace GradleMigration

namespace Script

variable {follow text : List Char}

/- Items lead back to the depth at which they start. -/
theorem Items.passage
    (h : Items follow text) :
    Passage follow 0 text 0 := by
  induction h with
  | done follow => exact .done 0
  | @block inside rest follow _ _ ihInside ihRest =>
      have hInside := ihInside.deeper 1
      rw [Nat.zero_add] at hInside
      have hBehind := hInside.append
        ((Passage.closing 0 (rest ++ follow)).append ihRest)
      exact (Passage.opening 0 _).append hBehind
  | @token token rest follow hToken _ ih =>
      rcases hToken.exists_lexeme with
        ⟨c, body, hIs, hOpen, hClose, hLexeme⟩
      subst hIs
      have hStep : depthAfter c 0 = some 0 := by
        rw [depthAfter, if_neg hOpen, if_neg hClose]
      exact .lexeme hLexeme hStep ih

/-
  A passage from depth zero to depth zero is made of items: a
  brace that it opens is closed in it.
-/
theorem Items.of_passage
    (hFollow : follow ≠ [])
    (h : Passage follow 0 text 0) :
    Items follow text := by
  induction hLength : text.length using Nat.strongRecOn
    generalizing text follow with
  | _ n ih =>
      subst hLength
      cases h with
      | done => exact .done follow
      | @lexeme c body tail _ next _ hLexeme hStep hMore =>
          by_cases hOpen : c = '\x7b'
          · subst hOpen
            have hNil : body = [] :=
              List.eq_nil_of_length_eq_zero
                (Nat.succ.inj hLexeme).symm
            subst hNil
            cases hStep
            rcases hMore.exists_closing (Nat.zero_add 1).symm
                Nat.zero_lt_one with
              ⟨inside, back, hTail, hInside⟩
            subst hTail
            have hDeeper := hInside.deeper 1
            have hBack := (Passage.closing 0 _).behind
              (hDeeper.behind hMore)
            have hLess :
                inside.length + back.length <
                  ('\x7b' :: ([] ++
                    (inside ++ '\x7d' :: back))).length := by
              simp only [List.length_cons, List.length_append,
                List.length_nil]
              omega
            exact .block
              (ih inside.length (by omega)
                (List.cons_ne_nil _ _) hInside rfl)
              (ih back.length (by omega) hFollow hBack rfl)
          · by_cases hClose : c = '\x7d'
            · subst hClose
              cases hStep
            · have hSame : depthAfter c 0 = some 0 := by
                rw [depthAfter, if_neg hOpen, if_neg hClose]
              rw [hSame] at hStep
              cases hStep
              have hToken : IsToken (tail ++ follow) (c :: body) :=
                isToken_of_lexeme (by simp [hFollow]) hOpen hClose
                  hLexeme
              rw [← List.cons_append]
              have hLess :
                  tail.length < (c :: (body ++ tail)).length := by
                rw [List.length_cons, List.length_append]
                omega
              exact .token hToken
                (ih tail.length hLess hFollow hMore rfl)

/- What lies between two braces, up to the one that closes. -/
theorem isBlock_iff_passage
    {inside : List Char}
    (back : List Char) :
    IsBlock ('\x7b' :: (inside ++ ['\x7d'])) ↔
      Passage ('\x7d' :: back) 0 inside 0 := by
  constructor
  · rintro ⟨items, hText, hItems⟩
    have hSame : inside = items :=
      List.append_cancel_right (List.cons.inj hText).2
    subst hSame
    exact hItems.passage.congr rfl
  · intro h
    exact ⟨inside, rfl,
      .of_passage (List.cons_ne_nil _ _) (h.congr rfl)⟩

end Script

end GradleMigration

------------------------------------------------------------
-- Closing Braces
------------------------------------------------------------

namespace GradleMigration

namespace Script

/- The brace that closes a block stands behind its items. -/
theorem blockEndFrom_eq_some_iff
    {text : List Char}
    {pos close : Nat} :
    blockEndFrom 0 1 pos text = some close ↔
      ∃ inside back,
        text = inside ++ '\x7d' :: back ∧
          close = pos + inside.length ∧
          IsBlock ('\x7b' :: (inside ++ ['\x7d'])) := by
  have hFound :
      ∀ {inside back : List Char},
        Passage ('\x7d' :: back) 0 inside 0 →
          blockEndFrom 0 1 pos (inside ++ '\x7d' :: back) =
            some (pos + inside.length) :=
    fun hInside => hInside.blockEndFrom_append pos
  constructor
  · intro h
    rcases exists_passage_of_blockEndFrom h with
      ⟨inside, back, hText, hInside⟩
    subst hText
    rw [hFound hInside] at h
    exact ⟨inside, back, rfl, (Option.some.inj h).symm,
      (isBlock_iff_passage back).mpr hInside⟩
  · rintro ⟨inside, back, hText, hClose, hBlock⟩
    subst hText
    subst hClose
    exact hFound ((isBlock_iff_passage back).mp hBlock)

/- The offset of a closing brace, counted in the whole text. -/
theorem closingBrace_eq_some_iff
    {content : List Char}
    {start close : Nat}
    (hOpen : content[start]? = some '\x7b') :
    closingBrace content start = some close ↔
      ∃ inside back,
        content.drop start =
            ('\x7b' :: (inside ++ ['\x7d'])) ++ back ∧
          close = start + 1 + inside.length ∧
          IsBlock ('\x7b' :: (inside ++ ['\x7d'])) := by
  rw [← List.head?_drop] at hOpen
  rcases List.head?_eq_some_iff.mp hOpen with ⟨rest, hRest⟩
  unfold closingBrace
  rw [hRest, blockEndFrom, if_pos rfl]
  simpa using blockEndFrom_eq_some_iff

/-
  The brace that closes an opening one is found at an offset
  exactly where the text from one to the other is a block, and
  none is found exactly where no block starts there.
-/
theorem closingBrace_iff_isBlock
    {content : List Char}
    {start : Nat}
    (hOpen : content[start]? = some '\x7b') :
    (∀ close,
        closingBrace content start = some close ↔
          close < content.length ∧
            IsBlock (Text.slice content start (close + 1))) ∧
      (closingBrace content start = none ↔
        ∀ block, block <+: content.drop start →
          ¬ IsBlock block) := by
  have hStart : start < content.length :=
    (List.getElem?_eq_some_iff.mp hOpen).1
  refine ⟨fun close => ?_, ?_⟩
  · rw [closingBrace_eq_some_iff hOpen]
    constructor
    · rintro ⟨inside, back, hText, hClose, hBlock⟩
      have hLength := congrArg List.length hText
      simp only [List.length_drop, List.length_append,
        List.length_cons, List.length_nil] at hLength
      have hSlice :
          Text.slice content start (close + 1) =
            '\x7b' :: (inside ++ ['\x7d']) := by
        unfold Text.slice
        rw [hText, List.take_left']
        simp only [List.length_cons, List.length_append,
          List.length_nil]
        omega
      rw [hSlice]
      exact ⟨by omega, hBlock⟩
    · rintro ⟨hClose, hBlock⟩
      rcases hBlock with ⟨inside, hSlice, hItems⟩
      have hLength := congrArg List.length hSlice
      unfold Text.slice at hSlice hLength
      simp only [List.length_take, List.length_drop,
        List.length_cons, List.length_append,
        List.length_nil] at hLength
      refine ⟨inside,
        (content.drop start).drop (close + 1 - start), ?_,
        by omega, inside, rfl, hItems⟩
      rw [← hSlice, List.take_append_drop]
  · constructor
    · rintro hNone block ⟨back, hText⟩ ⟨inside, hIs, hItems⟩
      subst hIs
      have hSome := (closingBrace_eq_some_iff hOpen).mpr
        ⟨inside, back, hText.symm, rfl, inside, rfl, hItems⟩
      rw [hNone] at hSome
      cases hSome
    · intro hNone
      cases hEnd : closingBrace content start with
      | none => rfl
      | some close =>
          rcases (closingBrace_eq_some_iff hOpen).mp hEnd with
            ⟨inside, back, hText, _, hBlock⟩
          exact absurd hBlock (hNone _ ⟨back, hText.symm⟩)

/-
  A block with braces that do not count: in literals closed
  and cut, in comments, and in a block of its own.
-/
def braced : List Char :=
  ("a \x7b '\\'\x7d' \"\"\"\x7d\"\"\" '\x7d\n" ++
    "// '\x7d\n/*\x7d*/ \x7b / \x7d \x7d \x7d").toList

/- The block ends with the last brace but one. -/
theorem closingBrace_iff_isBlock_braced :
    braced[2]? = some '\x7b' ∧
      closingBrace braced 2 = some 39 ∧
      IsBlock (Text.slice braced 2 40) := by
  have hOpen : braced[2]? = some '\x7b' := by decide +kernel
  have hClose : closingBrace braced 2 = some 39 := by
    decide +kernel
  exact ⟨hOpen, hClose,
    (((closingBrace_iff_isBlock hOpen).1 39).mp hClose).2⟩

end Script

end GradleMigration
