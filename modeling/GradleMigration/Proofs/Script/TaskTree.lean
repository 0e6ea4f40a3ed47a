import GradleMigration.Proofs.Rule.Loading
import GradleMigration.Proofs.Rule.Transform

/-
  Scripts as trees: migrating the tasks of a script rewrites
  the tasks of its tree, at every depth, and nothing else.

  The scan knows no trees.  It looks for headers in a flat
  text and counts braces from each of them, the last header
  first, so the bodies that it passes over hold tasks that
  have been migrated already.

  Main declarations:
    * `ScriptTree`
    * `ScriptTree.render` and `ScriptTree.renderMigrated`
    * `ScriptTree.headersFrom`
    * `ScriptTree.blockEndFrom_renderMigrated`
    * `ScriptTree.foldr_migrateTask`
    * `ScriptTree.transform_render`
-/

------------------------------------------------------------
-- Trees
------------------------------------------------------------

namespace GradleMigration

namespace Script

/- A character that opens and closes nothing. -/
def isPlain
    (c : Char) : Bool :=
  !isQuote c && c != '\x7b' && c != '\x7d' && c != '/'

/-
  Whether the first delimiter behind a text that is not
  escaped comes right behind it.  With a delimiter of one
  character the text has to be on one line.
-/
def isClosedBy
    (delimiter : List Char) : List Char → Bool
| [] => true
| ['\\'] => false
| '\\' :: _ :: rest => isClosedBy delimiter rest
| c :: rest =>
    !delimiter.isPrefixOf (c :: rest ++ delimiter) &&
      !(delimiter.length = 1 && c = '\n') &&
      isClosedBy delimiter rest

/- A quote, once or three times. -/
def delimiterFor
    (quote : Char)
    (tripled : Bool) : List Char :=
  if tripled then [quote, quote, quote] else [quote]

/- A string literal, its quotes single or tripled. -/
structure Literal where
  quote : Char
  tripled : Bool
  body : List Char
  opens : isQuote quote = true
  closed : isClosedBy (delimiterFor quote tripled) body = true

/- The text of a literal. -/
def Literal.render
    (literal : Literal) : List Char :=
  let delimiter := delimiterFor literal.quote literal.tripled
  delimiter ++ literal.body ++ delimiter

/-
  The header of a task with the shift operator: the blanks
  behind the word, the name, and the blanks on both sides of
  the operator.
-/
structure ShiftHead where
  gap : List Char
  name : List Char
  before : List Char
  behind : List Char
  isGap : gap ≠ [] ∧ gap.all Text.isBlank = true
  isName : name ≠ [] ∧ name.all Text.isWord = true
  areBlanks :
    before.all Text.isBlank = true ∧
      behind.all Text.isBlank = true

/- The text of a header up to its opening brace. -/
def ShiftHead.front
    (head : ShiftHead) : List Char :=
  taskWord ++ head.gap ++ head.name ++ head.before ++
    ['<', '<'] ++ head.behind

/- The text of a header with its opening brace. -/
def ShiftHead.render
    (head : ShiftHead) : List Char :=
  head.front ++ ['\x7b']

end Script

open Script

/-
  A script: what comes first in it, and the rest.  A line
  comment ends with its line feed, a block comment with the
  first mark that closes it.
-/
inductive ScriptTree where
| done
| plain (c : Char)
    (isPlain : isPlain c = true)
    (rest : ScriptTree)
| literal (text : Literal) (rest : ScriptTree)
| lineComment (body : List Char)
    (oneLine : '\n' ∉ body)
    (rest : ScriptTree)
| blockComment (body : List Char)
    (unclosed : ¬ ['*', '/'] <:+: body)
    (rest : ScriptTree)
| block (inside rest : ScriptTree)
| task (head : ShiftHead) (inside rest : ScriptTree)

namespace ScriptTree

/-
  The text of a script whose tasks are dressed in what stands
  in front of their bodies and behind them.
-/
def renderWith
    (opening : ShiftHead → List Char)
    (closing : List Char) : ScriptTree → List Char
| .done => []
| .plain c _ rest => c :: rest.renderWith opening closing
| .literal text rest =>
    text.render ++ rest.renderWith opening closing
| .lineComment body _ rest =>
    '/' :: '/' :: body ++
      '\n' :: rest.renderWith opening closing
| .blockComment body _ rest =>
    '/' :: '*' :: body ++
      '*' :: '/' :: rest.renderWith opening closing
| .block inside rest =>
    '\x7b' :: inside.renderWith opening closing ++
      '\x7d' :: rest.renderWith opening closing
| .task head inside rest =>
    opening head ++ inside.renderWith opening closing ++
      closing ++ rest.renderWith opening closing

/- The text of a script. -/
def render
    (tree : ScriptTree) : List Char :=
  tree.renderWith ShiftHead.render ['\x7d']

/- The text of a script whose tasks have been migrated. -/
def renderMigrated
    (tree : ScriptTree) : List Char :=
  tree.renderWith
    (fun head => "task ".toList ++ head.name ++
      " \x7b doLast \x7b".toList)
    "\x7d \x7d".toList

/- The headers of the tasks of a script at an offset. -/
def headersFrom
    (pos : Nat) : ScriptTree → List TaskHeader
| .done => []
| .plain _ _ rest => rest.headersFrom (pos + 1)
| .literal text rest =>
    rest.headersFrom (pos + text.render.length)
| .lineComment body _ rest =>
    rest.headersFrom (pos + (body.length + 3))
| .blockComment body _ rest =>
    rest.headersFrom (pos + (body.length + 4))
| .block inside rest =>
    inside.headersFrom (pos + 1) ++
      rest.headersFrom (pos + (inside.render.length + 2))
| .task head inside rest =>
    let size := head.render.length
    ⟨pos, head.name, size⟩ ::
      (inside.headersFrom (pos + size) ++
        rest.headersFrom
          (pos + (size + inside.render.length + 1)))

/- Whether a string literal comes first. -/
def startsWithLiteral : ScriptTree → Bool
| .literal _ _ => true
| _ => false

/- Whether no string literal comes right behind another. -/
def isSpaced : ScriptTree → Bool
| .done => true
| .plain _ _ rest => rest.isSpaced
| .literal _ rest => !rest.startsWithLiteral && rest.isSpaced
| .lineComment _ _ rest => rest.isSpaced
| .blockComment _ _ rest => rest.isSpaced
| .block inside rest => inside.isSpaced && rest.isSpaced
| .task _ inside rest => inside.isSpaced && rest.isSpaced

end ScriptTree

end GradleMigration

------------------------------------------------------------
-- Lexemes
------------------------------------------------------------

namespace GradleMigration

namespace Script

/- A text is not inside a literal right where a quote is. -/
def startsWithQuote
    (text : List Char) : Bool :=
  text.head?.any isQuote

/-
  On the way to a closing brace a text is passed over: braces
  are counted behind it as if it were not there.
-/
def IsPassed
    (depth : Int)
    (text follow : List Char) : Prop :=
  ∀ pos, blockEndFrom 0 depth pos (text ++ follow) =
    blockEndFrom 0 depth (pos + text.length) follow

/- One text after another is passed over. -/
theorem IsPassed.append
    {depth : Int}
    {first second follow : List Char}
    (hFirst : IsPassed depth first (second ++ follow))
    (hSecond : IsPassed depth second follow) :
    IsPassed depth (first ++ second) follow := by
  intro pos
  rw [List.append_assoc, hFirst, hSecond, List.length_append,
    Nat.add_assoc]

/- The rest of a lexeme is skipped. -/
theorem blockEndFrom_skip
    (passed follow : List Char)
    (depth : Int)
    (pos : Nat) :
    blockEndFrom passed.length depth pos (passed ++ follow) =
      blockEndFrom 0 depth (pos + passed.length) follow := by
  induction passed generalizing pos with
  | nil => rfl
  | cons c more ih =>
      rw [List.length_cons, List.cons_append, blockEndFrom,
        ih (pos + 1), Nat.add_assoc, Nat.add_comm 1]

/- A lexeme that is no brace is passed over. -/
theorem isPassed_lexeme
    {c : Char}
    (hOpen : c ≠ '\x7b')
    (hClose : c ≠ '\x7d')
    {body follow : List Char}
    (h : lexemeLength c (body ++ follow) = body.length + 1)
    (depth : Int) :
    IsPassed depth (c :: body) follow := by
  intro pos
  rw [List.cons_append, blockEndFrom, if_neg hOpen,
    if_neg hClose, h, Nat.add_sub_cancel, blockEndFrom_skip,
    List.length_cons, Nat.add_assoc, Nat.add_comm 1]

/- Braces are passed over with what they hold. -/
theorem isPassed_braces
    {depth : Int}
    (hDepth : 1 ≤ depth)
    {inside follow : List Char}
    (h : IsPassed (depth + 1) inside ('\x7d' :: follow)) :
    IsPassed depth ('\x7b' :: inside ++ ['\x7d']) follow := by
  intro pos
  have hInside := h (pos + 1)
  have hDeep : depth + 1 ≠ 1 := by omega
  rw [List.append_assoc, List.cons_append, List.cons_append,
    List.nil_append, blockEndFrom, if_pos rfl, hInside,
    blockEndFrom, if_neg (by decide), if_pos rfl,
    if_neg hDeep, Int.add_sub_cancel]
  congr 1
  simp only [List.length_append, List.length_cons,
    List.length_nil]
  omega

/- What a plain character is not. -/
theorem of_isPlain
    {c : Char}
    (h : isPlain c = true) :
    isQuote c = false ∧ c ≠ '\x7b' ∧ c ≠ '\x7d' ∧ c ≠ '/' := by
  simpa [isPlain, and_assoc] using h

/- A plain character is a lexeme. -/
theorem lexemeLength_plain
    {c : Char}
    (h : isPlain c = true)
    (rest : List Char) :
    lexemeLength c rest = 1 := by
  rcases of_isPlain h with ⟨hQuote, _, _, hSlash⟩
  have hComment : commentLength (c :: rest) = none := by
    unfold commentLength
    split
    · next hEq => exact absurd (List.cons.inj hEq).1 hSlash
    · next hEq => exact absurd (List.cons.inj hEq).1 hSlash
    · rfl
  simp [lexemeLength, hQuote, hComment]

/- Plain characters are passed over. -/
theorem isPassed_plain
    {text : List Char}
    (h : text.all isPlain = true)
    (depth : Int)
    (follow : List Char) :
    IsPassed depth text follow := by
  induction text with
  | nil =>
      intro pos
      rfl
  | cons c more ih =>
      rw [List.all_cons, Bool.and_eq_true] at h
      rcases of_isPlain h.1 with ⟨_, hOpen, hClose, _⟩
      have hHere : IsPassed depth [c] (more ++ follow) :=
        isPassed_lexeme hOpen hClose
          (lexemeLength_plain h.1 _) depth
      exact hHere.append (ih h.2)

/- A delimiter is found in a text wherever the text ends. -/
theorem isPrefixOf_append
    {delimiter text : List Char}
    (h : delimiter.length ≤ text.length)
    (rest : List Char) :
    delimiter.isPrefixOf (text ++ rest) =
      delimiter.isPrefixOf text := by
  rw [Bool.eq_iff_iff, List.isPrefixOf_iff_prefix,
    List.isPrefixOf_iff_prefix]
  constructor
  · intro hPrefix
    exact List.prefix_of_prefix_length_le hPrefix
      (List.prefix_append text rest) h
  · intro hPrefix
    exact hPrefix.trans (List.prefix_append text rest)

/- A literal that is closed ends with its delimiter. -/
theorem literalBody_of_isClosedBy
    {delimiter body : List Char}
    (hDelimiter : ∃ q more, delimiter = q :: more ∧ q ≠ '\\')
    (h : isClosedBy delimiter body = true)
    (rest : List Char) :
    literalBody delimiter (body ++ delimiter ++ rest) =
      body.length + delimiter.length := by
  fun_induction isClosedBy delimiter body with
  | case1 =>
      rcases hDelimiter with ⟨q, more, hEq, hQ⟩
      have hPrefix :
          delimiter.isPrefixOf (delimiter ++ rest) = true :=
        List.isPrefixOf_iff_prefix.mpr
          (List.prefix_append _ _)
      rw [List.nil_append, List.length_nil, Nat.zero_add]
      subst hEq
      rw [List.cons_append] at hPrefix ⊢
      unfold literalBody
      split
      · next hEq => cases hEq
      · next hEq => exact absurd (List.cons.inj hEq).1 hQ
      · next hEq => exact absurd (List.cons.inj hEq).1 hQ
      · next c tail _ hEq =>
          rw [if_pos (hEq ▸ hPrefix)]
  | case2 => cases h
  | case3 c more ih =>
      rw [List.cons_append, List.cons_append, List.cons_append,
        List.cons_append, literalBody, ih h]
      simp only [List.length_cons]
      omega
  | case4 c more hLone hEscape ih =>
      rw [Bool.and_eq_true, Bool.and_eq_true,
        Bool.not_eq_true', Bool.not_eq_true'] at h
      have hC : c ≠ '\\' := by
        intro hEq
        cases more with
        | nil => exact hLone hEq rfl
        | cons d tail => exact hEscape d tail hEq rfl
      have hPrefix :
          delimiter.isPrefixOf
            (c :: (more ++ delimiter ++ rest)) = false := by
        have hLength :
            delimiter.length ≤
              (c :: more ++ delimiter).length := by
          rw [List.length_append]
          exact Nat.le_add_left _ _
        have hSame := isPrefixOf_append hLength rest
        rw [h.1.1] at hSame
        exact hSame
      rw [List.cons_append, List.cons_append]
      unfold literalBody
      split
      · next hEq => cases hEq
      · next hEq => exact absurd (List.cons.inj hEq).1 hC
      · next hEq => exact absurd (List.cons.inj hEq).1 hC
      · next d tail _ _ hEq =>
          cases hEq
          rw [hPrefix, h.1.2, ih h.2]
          simp only [Bool.false_eq_true, if_false,
            List.length_cons]
          omega

/- No quote is a backslash. -/
theorem ne_backslash_of_isQuote
    {c : Char}
    (h : isQuote c = true) :
    c ≠ '\\' := by
  intro hEq
  subst hEq
  exact absurd h (by decide)

/-
  A literal on one line is not taken for a tripled one, unless
  a quote comes right behind it.
-/
theorem not_tripled
    {q : Char}
    (hOpens : isQuote q = true)
    {body rest : List Char}
    (hClosed : isClosedBy [q] body = true)
    (hRest : startsWithQuote rest = false) :
    ¬ [q, q] <+: body ++ [q] ++ rest := by
  intro hPrefix
  cases body with
  | nil =>
      rw [List.nil_append, List.cons_append,
        List.cons_prefix_cons] at hPrefix
      cases rest with
      | nil => simp at hPrefix
      | cons c tail =>
          have hSame := (List.cons_prefix_cons.mp hPrefix.2).1
          subst hSame
          simp [startsWithQuote, hOpens] at hRest
  | cons c tail =>
      rw [List.cons_append, List.cons_append,
        List.cons_prefix_cons] at hPrefix
      have hSame := hPrefix.1
      subst hSame
      have hQ := ne_backslash_of_isQuote hOpens
      unfold isClosedBy at hClosed
      split at hClosed <;> simp_all

/- A literal is a lexeme, unless a quote follows it. -/
theorem lexemeLength_literal
    (literal : Literal)
    {rest : List Char}
    (hRest : startsWithQuote rest = false) :
    ∃ body,
      literal.render = literal.quote :: body ∧
        lexemeLength literal.quote (body ++ rest) =
          body.length + 1 := by
  rcases literal with ⟨q, tripled, body, hOpens, hClosed⟩
  have hQ := ne_backslash_of_isQuote hOpens
  cases tripled with
  | true =>
      have hBody := literalBody_of_isClosedBy
        ⟨q, [q, q], rfl, hQ⟩ hClosed rest
      refine ⟨q :: q :: body ++ [q, q, q], rfl, ?_⟩
      have hTripled :
          delimiterOf q (q :: q :: body ++ [q, q, q] ++ rest) =
            [q, q, q] := by
        simp [delimiterOf]
      unfold lexemeLength literalLength
      rw [if_pos hOpens, hTripled]
      change 3 + literalBody [q, q, q]
        (body ++ [q, q, q] ++ rest) = _
      refine (congrArg (3 + ·) hBody).trans ?_
      change 3 + (body.length + 3) =
        (body ++ [q, q, q]).length + 3
      rw [List.length_append]
      exact Nat.add_comm _ _
  | false =>
      have hBody := literalBody_of_isClosedBy
        ⟨q, [], rfl, hQ⟩ hClosed rest
      refine ⟨body ++ [q], rfl, ?_⟩
      have hSingle :
          delimiterOf q (body ++ [q] ++ rest) = [q] := by
        unfold delimiterOf
        rw [if_neg]
        rw [List.isPrefixOf_iff_prefix]
        exact not_tripled hOpens hClosed hRest
      unfold lexemeLength literalLength
      rw [if_pos hOpens, hSingle]
      change 1 + literalBody [q] (body ++ [q] ++ rest) = _
      refine (congrArg (1 + ·) hBody).trans ?_
      change 1 + (body.length + 1) = (body ++ [q]).length + 1
      rw [List.length_append]
      exact Nat.add_comm _ _

/- A line comment is a lexeme up to its line feed. -/
theorem lexemeLength_lineComment
    {body : List Char}
    (h : '\n' ∉ body)
    (rest : List Char) :
    lexemeLength '/' (('/' :: body) ++ '\n' :: rest) =
      ('/' :: body).length + 1 := by
  have hLine :
      (body ++ '\n' :: rest).takeWhile (· != '\n') = body := by
    rw [List.takeWhile_append_of_pos]
    · simp
    · intro c hC
      exact bne_iff_ne.mpr fun hEq => h (hEq ▸ hC)
  have hQuote : isQuote '/' = false := by decide
  simp only [lexemeLength, hQuote, Bool.false_eq_true, if_false,
    List.cons_append, commentLength, hLine, Option.getD_some,
    List.length_cons]
  omega

/- A block comment ends with the first mark that closes it. -/
theorem blockCommentBody_of_unclosed
    {body : List Char}
    (h : ¬ ['*', '/'] <:+: body)
    (rest : List Char) :
    blockCommentBody (body ++ '*' :: '/' :: rest) =
      body.length + 2 := by
  induction body with
  | nil => rfl
  | cons c more ih =>
      have hMore : ¬ ['*', '/'] <:+: more :=
        fun hIn => h (hIn.trans (List.suffix_cons c more).isInfix)
      rw [List.cons_append]
      unfold blockCommentBody
      split
      · next hEq => cases hEq
      · next tail hEq =>
          rcases List.cons.inj hEq with ⟨hC, hTail⟩
          subst hC
          exfalso
          cases more with
          | nil => cases (List.cons.inj hTail).1
          | cons d others =>
              have hD := (List.cons.inj hTail).1
              subst hD
              exact h ⟨[], others, rfl⟩
      · next d tail _ hEq =>
          cases hEq
          rw [ih hMore, List.length_cons]
          omega

/- A block comment is a lexeme. -/
theorem lexemeLength_blockComment
    {body : List Char}
    (h : ¬ ['*', '/'] <:+: body)
    (rest : List Char) :
    lexemeLength '/' (('*' :: body ++ ['*', '/']) ++ rest) =
      ('*' :: body ++ ['*', '/']).length + 1 := by
  have hQuote : isQuote '/' = false := by decide
  have hBody := blockCommentBody_of_unclosed h rest
  simp only [lexemeLength, hQuote, Bool.false_eq_true, if_false,
    List.cons_append, commentLength, List.append_assoc,
    List.nil_append, hBody, Option.getD_some, List.length_cons,
    List.length_append, List.length_nil]
  omega

/- The name of a task is plain. -/
theorem ShiftHead.name_plain
    (head : ShiftHead) :
    head.name.all isPlain = true := by
  rw [List.all_eq_true]
  intro c hC
  have hWord := List.all_eq_true.mp head.isName.2 c hC
  have hNe : ∀ d : Char, Text.isWord d = false → c ≠ d := by
    intro d hD hEq
    rw [hEq, hD] at hWord
    cases hWord
  simp [isPlain, isQuote, hNe Text.apostrophe (by decide),
    hNe Text.doubleQuote (by decide), hNe '\x7b' (by decide),
    hNe '\x7d' (by decide), hNe '/' (by decide)]

end Script

end GradleMigration

------------------------------------------------------------
-- Bodies That Have Been Migrated
------------------------------------------------------------

namespace GradleMigration

open Script

namespace ScriptTree

/- Nothing but a literal starts with a quote. -/
theorem startsWithQuote_renderMigrated
    {tree : ScriptTree}
    (h : tree.startsWithLiteral = false)
    {follow : List Char}
    (hFollow : startsWithQuote follow = false) :
    startsWithQuote (tree.renderMigrated ++ follow) =
      false := by
  cases tree with
  | done => exact hFollow
  | plain c hPlain rest => exact (of_isPlain hPlain).1
  | literal text rest => cases h
  | lineComment body hLine rest => rfl
  | blockComment body hOpen rest => rfl
  | block inside rest => rfl
  | task head inside rest => rfl

/- A migrated task is a plain text and braces in braces. -/
theorem renderMigrated_task
    (head : ShiftHead)
    (inside rest : ScriptTree) :
    (task head inside rest).renderMigrated =
      ("task ".toList ++ head.name ++ [' ']) ++
        (('\x7b' :: (" doLast ".toList ++
          (('\x7b' :: inside.renderMigrated ++ ['\x7d']) ++
            [' '])) ++ ['\x7d']) ++ rest.renderMigrated) := by
  simp [renderMigrated, renderWith]

/-
  A script whose tasks have been migrated closes every brace
  that it opens, so it is passed over as a whole.
-/
theorem isPassed_renderMigrated
    {tree : ScriptTree}
    (hSpaced : tree.isSpaced = true)
    {depth : Int}
    (hDepth : 1 ≤ depth)
    {follow : List Char}
    (hFollow : startsWithQuote follow = false) :
    IsPassed depth tree.renderMigrated follow := by
  induction tree generalizing depth follow with
  | done =>
      intro pos
      rfl
  | plain c hPlain rest ih =>
      have hHere : IsPassed depth [c]
          (rest.renderMigrated ++ follow) :=
        isPassed_plain (by simp [hPlain]) depth _
      exact hHere.append (ih hSpaced hDepth hFollow)
  | literal text rest ih =>
      rw [isSpaced, Bool.and_eq_true, Bool.not_eq_true']
        at hSpaced
      rcases lexemeLength_literal text
          (startsWithQuote_renderMigrated hSpaced.1 hFollow) with
        ⟨body, hText, hLength⟩
      have hHere : IsPassed depth text.render
          (rest.renderMigrated ++ follow) := by
        rw [hText]
        have hQuote := text.opens
        refine isPassed_lexeme ?_ ?_ hLength depth
        · intro hEq
          rw [hEq] at hQuote
          exact absurd hQuote (by decide)
        · intro hEq
          rw [hEq] at hQuote
          exact absurd hQuote (by decide)
      exact hHere.append (ih hSpaced.2 hDepth hFollow)
  | lineComment body hLine rest ih =>
      have hHere : IsPassed depth ('/' :: '/' :: body)
          ('\n' :: (rest.renderMigrated ++ follow)) :=
        isPassed_lexeme (by decide) (by decide)
          (lexemeLength_lineComment hLine _) depth
      have hEnd : IsPassed depth ['\n']
          (rest.renderMigrated ++ follow) :=
        isPassed_plain (by decide) depth _
      exact hHere.append
        (hEnd.append (ih hSpaced hDepth hFollow))
  | blockComment body hOpen rest ih =>
      have hHere :
          IsPassed depth ('/' :: ('*' :: body ++ ['*', '/']))
            (rest.renderMigrated ++ follow) :=
        isPassed_lexeme (by decide) (by decide)
          (lexemeLength_blockComment hOpen _) depth
      have hWhole := hHere.append (ih hSpaced hDepth hFollow)
      simpa [renderMigrated, renderWith] using hWhole
  | block inside rest ihInside ihRest =>
      rw [isSpaced, Bool.and_eq_true] at hSpaced
      have hInside := ihInside hSpaced.1
        (show 1 ≤ depth + 1 by omega)
        (show startsWithQuote
          ('\x7d' :: (rest.renderMigrated ++ follow)) = false
          from rfl)
      have hWhole := (isPassed_braces hDepth hInside).append
        (ihRest hSpaced.2 hDepth hFollow)
      simpa [renderMigrated, renderWith] using hWhole
  | task head inside rest ihInside ihRest =>
      rw [isSpaced, Bool.and_eq_true] at hSpaced
      have hFront : ("task ".toList ++ head.name ++ [' ']).all
          isPlain = true := by
        rw [List.all_append, List.all_append, head.name_plain]
        decide
      -- The new braces stand around the old ones.
      have hInside := ihInside hSpaced.1
        (show 1 ≤ depth + 1 + 1 by omega)
        (show startsWithQuote ('\x7d' :: ([' '] ++
          '\x7d' :: (rest.renderMigrated ++ follow))) = false
          from rfl)
      have hInner := isPassed_braces
        (show 1 ≤ depth + 1 by omega) hInside
      have hLast : " doLast ".toList.all isPlain = true := by
        decide
      have hOuter := isPassed_braces hDepth
        ((isPassed_plain hLast (depth + 1) _).append
          (hInner.append (isPassed_plain (by decide)
            (depth + 1) _)))
      rw [renderMigrated_task]
      exact (isPassed_plain hFront depth _).append
        (hOuter.append (ihRest hSpaced.2 hDepth hFollow))

end ScriptTree

end GradleMigration

------------------------------------------------------------
-- Migrating a Tree
------------------------------------------------------------

namespace GradleMigration

namespace Script

/- A header whose body is passed over has its closing brace. -/
theorem closingBrace_of_isPassed
    {inside back : List Char}
    (h : IsPassed 1 inside ('\x7d' :: back))
    (front : List Char) :
    closingBrace (front ++ '\x7b' :: inside ++ '\x7d' :: back)
        front.length =
      some (front.length + 1 + inside.length) := by
  unfold closingBrace
  rw [List.append_assoc, List.drop_left, List.cons_append,
    blockEndFrom, if_pos rfl]
  refine (h (front.length + 1)).trans ?_
  rw [blockEndFrom, if_neg (by decide), if_pos rfl, if_pos rfl]

/- Migrating one task whose body is passed over. -/
theorem migrateTask_of_isPassed
    {inside back : List Char}
    (h : IsPassed 1 inside ('\x7d' :: back))
    (front : List Char)
    (head : ShiftHead) :
    migrateTask ⟨front.length, head.name, head.render.length⟩
        (front ++ (head.render ++ inside ++ '\x7d' :: back)) =
      front ++ (newHeader head.name ++ inside ++
        "\x7d \x7d".toList ++ back) := by
  obtain ⟨opened, hOpened⟩ :
      ∃ opened, opened = front ++ head.front := ⟨_, rfl⟩
  have hContent :
      front ++ (head.render ++ inside ++ '\x7d' :: back) =
        opened ++ '\x7b' :: inside ++ '\x7d' :: back := by
    simp [hOpened, ShiftHead.render]
  have hStop :
      front.length + head.render.length = opened.length + 1 := by
    rw [hOpened, ShiftHead.render, List.length_append,
      List.length_append]
    exact (Nat.add_assoc _ _ _).symm
  have hTake :
      (opened ++ '\x7b' :: inside ++ '\x7d' :: back).take
          front.length = front := by
    rw [← hContent, List.take_left]
  have hDrop :
      (opened ++ '\x7b' :: inside ++ '\x7d' :: back).drop
          (opened.length + 1) =
        (inside ++ ['\x7d']) ++ back := by
    rw [List.append_assoc, ← List.drop_drop, List.drop_left]
    simp
  have hSize :
      opened.length + 1 + inside.length + 1 =
        opened.length + 1 + (inside ++ ['\x7d']).length := by
    rw [List.length_append]
    rfl
  have hBody :
      Text.slice
          (opened ++ '\x7b' :: inside ++ '\x7d' :: back)
          (opened.length + 1)
          (opened.length + 1 + inside.length + 1) =
        inside ++ ['\x7d'] := by
    unfold Text.slice
    rw [hDrop, hSize, Nat.add_sub_cancel_left, List.take_left]
  have hBehind :
      (opened ++ '\x7b' :: inside ++ '\x7d' :: back).drop
          (opened.length + 1 + inside.length + 1) = back := by
    rw [hSize, ← List.drop_drop, hDrop, List.drop_left]
  unfold migrateTask TaskHeader.stop
  simp only
  rw [hStop, Nat.add_sub_cancel, hContent,
    closingBrace_of_isPassed h opened]
  simp only
  rw [hTake, hBody, hBehind]
  simp

end Script

open Script

namespace ScriptTree

/-
  Migrating the tasks of a tree, the last first, in any
  surroundings.
-/
theorem foldr_migrateTask
    {tree : ScriptTree}
    (hSpaced : tree.isSpaced = true)
    (front back : List Char) :
    (tree.headersFrom front.length).foldr migrateTask
        (front ++ (tree.render ++ back)) =
      front ++ (tree.renderMigrated ++ back) := by
  induction tree generalizing front back with
  | done => rfl
  | plain c hPlain rest ih =>
      have hRest := ih hSpaced (front ++ [c]) back
      simpa [headersFrom, render, renderMigrated, renderWith]
        using hRest
  | literal text rest ih =>
      rw [isSpaced, Bool.and_eq_true] at hSpaced
      have hRest := ih hSpaced.2 (front ++ text.render) back
      simpa [headersFrom, render, renderMigrated, renderWith]
        using hRest
  | lineComment body hLine rest ih =>
      have hRest := ih hSpaced
        (front ++ '/' :: '/' :: body ++ ['\n']) back
      simpa [headersFrom, render, renderMigrated, renderWith]
        using hRest
  | blockComment body hOpen rest ih =>
      have hRest := ih hSpaced
        (front ++ '/' :: '*' :: body ++ ['*', '/']) back
      simpa [headersFrom, render, renderMigrated, renderWith]
        using hRest
  | block inside rest ihInside ihRest =>
      rw [isSpaced, Bool.and_eq_true] at hSpaced
      have hRest := ihRest hSpaced.2
        (front ++ '\x7b' :: inside.render ++ ['\x7d']) back
      have hInside := ihInside hSpaced.1 (front ++ ['\x7b'])
        ('\x7d' :: (rest.renderMigrated ++ back))
      calc
        _ = (inside.headersFrom (front ++ ['\x7b']).length).foldr
              migrateTask
              (front ++ '\x7b' :: inside.render ++ ['\x7d'] ++
                (rest.renderMigrated ++ back)) := by
            rw [← hRest]
            simp [headersFrom, render, renderWith]
        _ = (front ++ ['\x7b']) ++ (inside.renderMigrated ++
              '\x7d' :: (rest.renderMigrated ++ back)) := by
            rw [← hInside]
            simp
        _ = _ := by
            simp [renderMigrated, renderWith]
  | task head inside rest ihInside ihRest =>
      rw [isSpaced, Bool.and_eq_true] at hSpaced
      have hRest := ihRest hSpaced.2
        (front ++ head.render ++ inside.render ++ ['\x7d']) back
      have hInside := ihInside hSpaced.1 (front ++ head.render)
        ('\x7d' :: (rest.renderMigrated ++ back))
      -- Its body is scanned when the tasks in it have changed.
      have hPassed : IsPassed 1 inside.renderMigrated
          ('\x7d' :: (rest.renderMigrated ++ back)) :=
        isPassed_renderMigrated hSpaced.1 (Int.le_refl 1) rfl
      have hHere := migrateTask_of_isPassed hPassed front head
      have hText :
          front ++ ((task head inside rest).render ++ back) =
            front ++ head.render ++ inside.render ++ ['\x7d'] ++
              (rest.render ++ back) := by
        simp [render, renderWith]
      have hSize :
          front.length +
              (head.render.length + inside.render.length + 1) =
            (front ++ head.render ++ inside.render ++
              ['\x7d']).length := by
        simp [Nat.add_assoc]
      have hOpened :
          front ++ head.render ++ inside.render ++ ['\x7d'] ++
              (rest.renderMigrated ++ back) =
            front ++ head.render ++ (inside.render ++
              '\x7d' :: (rest.renderMigrated ++ back)) := by
        simp
      calc
        _ = migrateTask
              ⟨front.length, head.name, head.render.length⟩
              ((inside.headersFrom
                (front ++ head.render).length).foldr migrateTask
                (front ++ head.render ++ (inside.render ++
                  '\x7d' :: (rest.renderMigrated ++ back)))) := by
            rw [headersFrom, List.foldr_cons, List.foldr_append,
              hSize, hText, hRest, hOpened, List.length_append]
        _ = migrateTask
              ⟨front.length, head.name, head.render.length⟩
              (front ++ (head.render ++ inside.renderMigrated ++
                '\x7d' :: (rest.renderMigrated ++ back))) := by
            rw [hInside, List.append_assoc, List.append_assoc]
        _ = _ := by
            rw [hHere]
            unfold newHeader
            simp only [renderMigrated, renderWith,
              List.append_assoc]

/-
  Where the headers that the scan finds are those of the tasks
  of a tree, the rule for tasks with the shift operator turns
  the text of the tree into that of the tree with its tasks
  migrated.
-/
theorem transform_render
    {rule : Rule}
    (hKind : rule.kind = .taskLeftShift)
    {tree : ScriptTree}
    (hSpaced : tree.isSpaced = true)
    (hHeaders :
      closureHeaders tree.render = tree.headersFrom 0) :
    rule.transform tree.render = .ok tree.renderMigrated := by
  have hTree := foldr_migrateTask hSpaced [] []
  rw [List.append_nil, List.append_nil, List.nil_append,
    List.nil_append, List.length_nil, ← hHeaders] at hTree
  rw [Rule.transform_eq_migrateTasks hKind, migrateTasks, hTree]

/- A header written with single blanks. -/
def plainHead
    (name : String)
    (h : name.toList ≠ [] ∧
      name.toList.all Text.isWord = true) : ShiftHead :=
  { gap := [' ']
    name := name.toList
    before := [' ']
    behind := [' ']
    isGap := by decide
    isName := h
    areBlanks := by decide }

/-
  A task in a task in a block, with braces in a literal and in
  comments.
-/
def nested : ScriptTree :=
  .block
    (.task (plainHead "outer" (by decide))
      (.literal
        ⟨Text.apostrophe, false, "\\' \x7b".toList,
          by decide, by decide⟩
        (.lineComment " \x7d task a << \x22".toList (by decide)
          (.task (plainHead "inner" (by decide))
            (.blockComment " \x7d ".toList (by decide)
              (.literal
                ⟨Text.doubleQuote, true, "\x22\x7d".toList,
                  by decide, by decide⟩ .done))
            (.plain ';' (by decide) .done))))
      (.block .done .done))
    (.plain '\n' (by decide) .done)

/- The tasks of the example are migrated as a tree. -/
theorem transform_render_nested :
    ∃ rule,
      Builtin.taskLeftshift.build = .ok rule ∧
        rule.kind = .taskLeftShift ∧
        nested.isSpaced = true ∧
        closureHeaders nested.render = nested.headersFrom 0 ∧
        rule.transform nested.render =
          .ok nested.renderMigrated ∧
        nested.renderMigrated =
          ("\x7btask outer \x7b doLast \x7b'\\' \x7b'" ++
            "// \x7d task a << \x22\n" ++
            "task inner \x7b doLast \x7b/* \x7d */" ++
            "\x22\x22\x22\x22\x7d\x22\x22\x22\x7d \x7d;" ++
            "\x7d \x7d\x7b\x7d\x7d\n").toList := by
  rcases Rule.exists_taskLeftshift with ⟨rule, hRule, hKind⟩
  have hSpaced : nested.isSpaced = true := by decide
  have hHeaders :
      closureHeaders nested.render = nested.headersFrom 0 := by
    decide +kernel
  exact ⟨rule, hRule, hKind, hSpaced, hHeaders,
    transform_render hKind hSpaced hHeaders,
    by decide +kernel⟩

end ScriptTree

end GradleMigration
