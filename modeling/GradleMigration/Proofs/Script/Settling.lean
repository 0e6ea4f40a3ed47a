import GradleMigration.Proofs.Script.Sweep

/-
  Migrating the tasks of a script whose headers all stand in
  code: once is enough, and balanced braces stay balanced.

  What migrating does is said by a relation between the text
  before and the text behind, with a case for each lexeme and
  two for each header.  Where a block is closed, no header in
  it is left; a header that is left has no closing brace, and
  the braces that earlier tasks get do not give it one.

  Headers are found wherever their text is, also in literals
  and comments, while braces count in code only.  A header
  that is not in code can therefore take up a brace that
  belongs to others.

  Main declarations:
    * `Migration` and `Settled`
    * `Migration.sweep`
    * `Migration.foldr_migrateTask`
    * `Migration.passage_iff`
    * `Migration.settled`
    * `HeadersInCode`
    * `exists_migration`
    * `Rule.transform_settles`
    * `Rule.transform_balanced_iff`
-/

------------------------------------------------------------
-- What Migrating Does
------------------------------------------------------------

namespace GradleMigration

namespace Script

/-
  A text and what migrating its tasks, the last first, makes
  of it.
-/
inductive Migration : Bool → List Char → List Char → Prop
| done (insideWord : Bool) : Migration insideWord [] []
| lexeme
    {insideWord : Bool}
    {c : Char}
    {body tail out : List Char}
    (isLexeme :
      lexemeLength c (body ++ tail) = body.length + 1)
    (headFree : HeadFree insideWord tail (c :: body))
    (more :
      Migration (insideAfter insideWord (c :: body)) tail out) :
    Migration insideWord (c :: (body ++ tail))
      (c :: (body ++ out))
| closed
    {body inside back : List Char}
    (head : ShiftHead)
    (more : Migration false body (inside ++ '\x7d' :: back))
    (block : Passage ('\x7d' :: back) 0 inside 0) :
    Migration false (head.render ++ body)
      (newHeader head.name ++
        (inside ++ '\x7d' :: ' ' :: '\x7d' :: back))
| unclosed
    {body out : List Char}
    (head : ShiftHead)
    (more : Migration false body out)
    (noEnd : blockEndFrom 0 1 0 out = none) :
    Migration false (head.render ++ body) (head.render ++ out)

/-
  A text in which no header is left but those whose bodies are
  not closed.
-/
inductive Settled : Bool → List Char → Prop
| done (insideWord : Bool) : Settled insideWord []
| lexeme
    {insideWord : Bool}
    {c : Char}
    {body tail : List Char}
    (isLexeme :
      lexemeLength c (body ++ tail) = body.length + 1)
    (headFree : HeadFree insideWord tail (c :: body))
    (more : Settled (insideAfter insideWord (c :: body)) tail) :
    Settled insideWord (c :: (body ++ tail))
| unclosed
    {body : List Char}
    (head : ShiftHead)
    (more : Settled false body)
    (noEnd : blockEndFrom 0 1 0 body = none) :
    Settled false (head.render ++ body)

/- A settled text is migrated to itself. -/
theorem Settled.migration
    {insideWord : Bool}
    {text : List Char}
    (h : Settled insideWord text) :
    Migration insideWord text text := by
  induction h with
  | done insideWord => exact .done insideWord
  | lexeme hLexeme hFree _ ih => exact .lexeme hLexeme hFree ih
  | unclosed head _ hEnd ih => exact .unclosed head ih hEnd

section

variable {insideWord : Bool} {text out : List Char}

/- A migration by lexemes is one by headers. -/
theorem Migration.sweep
    (h : Migration insideWord text out) :
    Sweep insideWord text out := by
  induction h with
  | done insideWord => exact .done insideWord
  | lexeme _ hFree _ ih => exact .headFree_append hFree ih
  | closed head _ hBlock ih => exact .closed head ih hBlock
  | unclosed head _ hEnd ih => exact .unclosed head ih hEnd

/-
  Migrating the tasks of a text, the last first, in any
  surroundings.
-/
theorem Migration.foldr_migrateTask
    (h : Migration insideWord text out)
    (front : List Char) :
    (headersFrom 0 insideWord front.length text).foldr
        migrateTask (front ++ text) =
      front ++ out :=
  h.sweep.foldr_migrateTask front

/- A header in front of a text stays one or stays none. -/
theorem Migration.closureHeader_eq_none
    (h : Migration insideWord text out)
    {front : List Char}
    (hNone : closureHeader (front ++ text) = none) :
    closureHeader (front ++ out) = none := by
  induction h generalizing front with
  | done insideWord => exact hNone
  | @lexeme insideWord c body tail out hLexeme hFree _ ih =>
      have hMore := @ih (front ++ c :: body)
      simp only [List.append_assoc, List.cons_append] at hMore
      exact hMore hNone
  | @closed body inside back head _ hBlock ih =>
      exact closureHeader_newHeader head hNone _
  | @unclosed body out head _ hEnd ih =>
      rw [ShiftHead.render, List.append_assoc,
        ← List.append_assoc] at hNone ⊢
      exact closureHeader_congr (by decide) hNone out

end

end Script

end GradleMigration

------------------------------------------------------------
-- Braces
------------------------------------------------------------

namespace GradleMigration

namespace Script

/- A header opens one brace. -/
theorem ShiftHead.passage
    (head : ShiftHead)
    (depth : Nat)
    (follow : List Char) :
    Passage follow depth head.render (depth + 1) :=
  (Passage.plain head.front_plain depth _).append
    (Passage.opening depth follow)

/- A new header opens two braces. -/
theorem passage_newHeader
    (head : ShiftHead)
    (depth : Nat)
    (follow : List Char) :
    Passage follow depth (newHeader head.name)
      (depth + 2) := by
  have hFront :
      ("task ".toList ++ head.name ++ [' ']).all isPlain =
        true := by
    rw [List.all_append, List.all_append, head.name_plain]
    decide
  have hLast : " doLast ".toList.all isPlain = true := by
    decide
  have hWhole := (Passage.plain hFront depth _).append
    ((Passage.opening depth _).append
      ((Passage.plain hLast (depth + 1) _).append
        (Passage.opening (depth + 1) follow)))
  unfold newHeader
  rw [List.append_assoc] at hWhole ⊢
  exact hWhole

/- The braces that close a migrated task. -/
theorem passage_closing
    (depth : Nat)
    (follow : List Char) :
    Passage follow (depth + 2) ['\x7d', ' ', '\x7d'] depth := by
  have hBlank : [' '].all isPlain = true := by decide
  exact (Passage.closing (depth + 1) _).append
    ((Passage.plain hBlank (depth + 1) _).append
      (Passage.closing depth follow))

section

variable {insideWord : Bool} {text out : List Char}

/-
  The braces of a text lead from one depth to another exactly
  where those of the migrated text do.
-/
theorem Migration.passage_iff
    (h : Migration insideWord text out)
    {depth last : Nat} :
    Passage [] depth out last ↔
      Passage [] depth text last := by
  induction h generalizing depth with
  | done insideWord => exact Iff.rfl
  | @lexeme insideWord c body tail out hLexeme hFree hMore ih =>
      have hNew :=
        lexemeLength_congr hMore.sweep.head?_eq.symm hLexeme
      rw [← List.append_nil tail] at hLexeme
      rw [← List.append_nil out] at hNew
      constructor
      · intro hOut
        rcases hOut.behind_lexeme hNew with
          ⟨next, hStep, hTail⟩
        exact .lexeme hLexeme hStep (ih.mp hTail)
      · intro hText
        rcases hText.behind_lexeme hLexeme with
          ⟨next, hStep, hTail⟩
        exact .lexeme hNew hStep (ih.mpr hTail)
  | @closed body inside back head _ hBlock ih =>
      -- The block is passed at the depth that its brace opens.
      have hOld :
          Passage ('\x7d' :: back ++ []) (depth + 1) inside
            (depth + 1) := by
        have hDeeper := hBlock.deeper (depth + 1)
        rw [Nat.zero_add] at hDeeper
        exact hDeeper.congr rfl
      have hNew :
          Passage ('\x7d' :: ' ' :: '\x7d' :: back ++ [])
            (depth + 2) inside (depth + 2) := by
        have hDeeper := hBlock.deeper (depth + 2)
        rw [Nat.zero_add] at hDeeper
        exact hDeeper.congr rfl
      have hEnd :
          Passage (back ++ []) (depth + 2)
            ['\x7d', ' ', '\x7d'] depth :=
        passage_closing depth _
      constructor
      · intro hOut
        have hBack := hEnd.behind (hNew.behind
          ((passage_newHeader head depth _).behind hOut))
        have hBody := hOld.append
          ((Passage.closing depth _).append hBack)
        exact (head.passage depth _).append (ih.mp hBody)
      · intro hText
        have hBody := (head.passage depth _).behind hText
        have hBack := (Passage.closing depth _).behind
          (hOld.behind (ih.mpr hBody))
        exact (passage_newHeader head depth _).append
          (hNew.append (hEnd.append hBack))
  | @unclosed body out head _ hEnd ih =>
      constructor
      · intro hOut
        have hBody := (head.passage depth _).behind hOut
        exact (head.passage depth _).append (ih.mp hBody)
      · intro hText
        have hBody := (head.passage depth _).behind hText
        exact (head.passage depth _).append (ih.mpr hBody)

end

end Script

end GradleMigration

------------------------------------------------------------
-- Headers That Are Left
------------------------------------------------------------

namespace GradleMigration

namespace Script

section

variable {insideWord : Bool} {text out : List Char}

/- A part without headers in front of a settled text. -/
theorem Settled.append
    {part follow : List Char}
    {depth last : Nat}
    (hPart : Passage follow depth part last)
    (hFree : HeadFree insideWord follow part)
    (hFollow : Settled (insideAfter insideWord part) follow) :
    Settled insideWord (part ++ follow) := by
  induction hPart generalizing insideWord with
  | done depth => exact hFollow
  | @lexeme c body tail depth next last hLexeme _ _ ih =>
      rw [← List.cons_append] at hFree hFollow
      rcases headFree_append.mp hFree with ⟨hHere, hTail⟩
      rw [insideAfter_append] at hFollow
      rw [List.cons_append, List.append_assoc]
      exact .lexeme hLexeme hHere (ih hTail hFollow)

/-
  A block that is closed holds no header that is left: its
  brace would be closed in the block.
-/
theorem Settled.of_block
    (h : Settled insideWord text)
    {inside back : List Char}
    {depth : Nat}
    (hText : text = inside ++ '\x7d' :: back)
    (hBlock : Passage ('\x7d' :: back) depth inside 0) :
    HeadFree insideWord ('\x7d' :: back) inside ∧
      Settled false back := by
  induction h generalizing inside depth with
  | done insideWord => simp at hText
  | @lexeme insideWord c body tail hLexeme hFree hMore ih =>
      cases hBlock with
      | done depth =>
          rcases List.cons.inj hText with ⟨hC, hBack⟩
          subst hC
          have hBody : body = [] :=
            List.eq_nil_of_length_eq_zero
              (Nat.succ.inj hLexeme).symm
          subst hBody
          subst hBack
          exact ⟨trivial, hMore⟩
      | @lexeme d within behind _ next _ hThere hStep hRest =>
          rw [List.cons_append, List.append_assoc] at hText
          rcases List.cons.inj hText with ⟨hC, hSame⟩
          subst hC
          rcases lexeme_unique hLexeme hThere hSame with
            ⟨hBody, hTail⟩
          subst hBody
          subst hTail
          rcases ih rfl hRest with ⟨hBehind, hBack⟩
          refine ⟨?_, hBack⟩
          rw [← List.cons_append]
          exact headFree_append.mpr ⟨hFree, hBehind⟩
  | @unclosed body head _ hEnd _ =>
      rcases head.brace_behind (by decide) hText.symm with
        hFront | ⟨more, hMore⟩
      · rw [hFront, ShiftHead.render, List.append_assoc] at hText
        have hBrace := List.append_cancel_left hText
        exact absurd (List.cons.inj hBrace).1 (by decide)
      · subst hMore
        rw [List.append_assoc] at hText
        have hBody := List.append_cancel_left hText
        have hInside := (head.passage depth _).behind hBlock
        rcases hInside.exists_closing
            (Nat.zero_add (depth + 1)).symm
            (Nat.succ_pos depth) with
          ⟨within, behind, hWithin, hClosed⟩
        subst hWithin
        rw [List.append_assoc] at hBody
        exact absurd hClosed
          (blockEndFrom_eq_none_iff.mp hEnd _ _ hBody)

/- The braces that close a migrated task start no header. -/
theorem Settled.closing_braces
    {back : List Char}
    (h : Settled false back)
    (insideWord : Bool) :
    Settled insideWord ('\x7d' :: ' ' :: '\x7d' :: back) := by
  have hFree :
      HeadFree insideWord back ['\x7d', ' ', '\x7d'] :=
    ⟨fun _ => rfl, fun _ => rfl, fun _ => rfl, trivial⟩
  exact .append (passage_closing 0 back) hFree h

/- Migrated tasks leave no header whose body is closed. -/
theorem Migration.settled
    (h : Migration insideWord text out) :
    Settled insideWord out := by
  induction h with
  | done insideWord => exact .done insideWord
  | @lexeme insideWord c body tail out hLexeme hFree hMore ih =>
      exact .lexeme
        (lexemeLength_congr hMore.sweep.head?_eq.symm hLexeme)
        (hFree.congr fun _ => hMore.closureHeader_eq_none) ih
  | @closed body inside back head _ hBlock ih =>
      rcases ih.of_block rfl hBlock with ⟨hInside, hBack⟩
      have hFree :
          HeadFree false ('\x7d' :: ' ' :: '\x7d' :: back)
            inside :=
        hInside.congr fun _ hNone =>
          closureHeader_congr (by decide) hNone _
      have hBody : Settled false
          (inside ++ '\x7d' :: ' ' :: '\x7d' :: back) :=
        .append (hBlock.congr rfl) hFree (hBack.closing_braces _)
      have hOutside :
          insideAfter false (newHeader head.name) = false := by
        rw [newHeader_concat, insideAfter_concat]
        decide
      exact .append (passage_newHeader head 0 _)
        (headFree_newHeader head false _)
        (hOutside.symm ▸ hBody)
  | @unclosed body out head _ hEnd ih =>
      exact .unclosed head ih hEnd

end

end Script

end GradleMigration

------------------------------------------------------------
-- Headers in Code
------------------------------------------------------------

namespace GradleMigration

namespace Script

/-
  No header starts in a string literal or a comment, when the
  text is read from its beginning.
-/
def HeadersInCode
    (content : List Char) : Prop :=
  ∀ pos < content.length,
    (closureHeaderAt content pos).isSome = true →
      isCodeFrom 0 pos content = true

instance
    (content : List Char) :
    Decidable (HeadersInCode content) := by
  unfold HeadersInCode
  infer_instance

section

variable {content front : List Char}

/- A header in a text is in code. -/
theorem HeadersInCode.isCodeFrom_of_head
    (h : HeadersInCode content)
    {head : ShiftHead}
    {body : List Char}
    (hContent : content = front ++ (head.render ++ body))
    (hOutside : insideAfter false front = false) :
    isCodeFrom 0 front.length content = true := by
  apply h
  · rw [hContent, List.length_append, List.length_append]
    have hSize : 0 < head.render.length := by
      simp [ShiftHead.render]
    omega
  · unfold closureHeaderAt
    rw [hContent, List.take_left, List.drop_left]
    change (headerHere (insideAfter false front) front.length
      (head.render ++ body)).isSome = true
    rw [hOutside, headerHere, if_neg (by simp),
      closureHeader_render]
    rfl

/- No header starts in a lexeme behind its first character. -/
theorem HeadersInCode.headFree
    (h : HeadersInCode content)
    {c : Char}
    {body tail : List Char}
    (hContent : content = front ++ c :: (body ++ tail))
    (hCode : isCodeFrom 0 front.length content = true)
    (hLexeme :
      lexemeLength c (body ++ tail) = body.length + 1)
    (hHere : insideAfter false front = false →
      closureHeader (c :: (body ++ tail)) = none) :
    HeadFree (insideAfter false front) tail (c :: body) := by
  apply headFree_of_forall
  intro passed back hSplit _ hOutside
  cases passed with
  | nil =>
      rw [List.nil_append] at hSplit
      rw [← hSplit]
      exact hHere hOutside
  | cons d passed =>
      rcases List.cons.inj hSplit with ⟨hD, hBody⟩
      subst hD
      subst hBody
      rw [closureHeader_eq_none_iff]
      intro head rest hText
      have hPlace :
          content = (front ++ c :: passed) ++
            (head.render ++ rest) := by
        rw [hContent, ← hText]
        simp
      rw [← insideAfter_append] at hOutside
      have hHead := h.isCodeFrom_of_head hPlace hOutside
      rw [hContent] at hHead hCode
      have hInside := not_isCodeFrom_inside hCode hLexeme
        (show passed.length < (passed ++ back).length by
          rw [List.length_append]
          have hBack := List.length_pos_iff.mpr ‹back ≠ []›
          omega)
      rw [List.length_append, List.length_cons, hInside]
        at hHead
      cases hHead

/-
  Where all headers stand in code, migrating the tasks is a
  migration of the text behind any place in code.
-/
theorem exists_migration
    (h : HeadersInCode content)
    {text : List Char}
    (hContent : content = front ++ text)
    (hCode : isCodeFrom 0 front.length content = true) :
    ∃ out, Migration (insideAfter false front) text out := by
  induction hLength : text.length using Nat.strongRecOn
    generalizing front text with
  | _ n ih =>
      subst hLength
      rcases head_cases (insideAfter false front) text with
        ⟨head, body, hOutside, hText⟩ | hNone
      · subst hText
        have hPlace :
            content = (front ++ head.render) ++ body := by
          rw [hContent, List.append_assoc]
        have hBehind := isCodeFrom_passage
          (head.passage 0 body) (hContent ▸ hCode)
        rw [← hContent] at hBehind
        rcases ih body.length (head.length_lt body) hPlace
            hBehind rfl with ⟨out, hOut⟩
        rw [insideAfter_append, head.insideAfter_render] at hOut
        rw [hOutside]
        cases hEnd : blockEndFrom 0 1 0 out with
        | none => exact ⟨_, .unclosed head hOut hEnd⟩
        | some close =>
            rcases exists_passage_of_blockEndFrom hEnd with
              ⟨inside, back, hSplit, hBlock⟩
            subst hSplit
            exact ⟨_, .closed head hOut hBlock⟩
      · cases text with
        | nil => exact ⟨[], .done _⟩
        | cons c rest =>
            rcases exists_lexeme c rest with
              ⟨body, tail, hRest, hLexeme⟩
            subst hRest
            have hFree :=
              h.headFree hContent hCode hLexeme hNone
            have hPlace :
                content = (front ++ c :: body) ++ tail := by
              rw [hContent]
              simp
            have hBehind :=
              isCodeFrom_lexeme (hContent ▸ hCode) hLexeme
            rw [← hContent] at hBehind
            have hShort :
                tail.length < (c :: (body ++ tail)).length := by
              rw [List.length_cons, List.length_append]
              omega
            rcases ih tail.length hShort hPlace hBehind rfl with
              ⟨out, hOut⟩
            rw [insideAfter_append] at hOut
            exact ⟨_, .lexeme hLexeme hFree hOut⟩

/- Migrating the tasks of a script with its headers in code. -/
theorem HeadersInCode.migration
    (h : HeadersInCode content) :
    Migration false content (migrateTasks content) := by
  rcases exists_migration h (List.nil_append content).symm
      rfl with ⟨out, hOut⟩
  change Migration false content out at hOut
  have hRun := hOut.foldr_migrateTask []
  rw [List.length_nil, List.nil_append, List.nil_append]
    at hRun
  unfold migrateTasks closureHeaders
  rw [hRun]
  exact hOut

end

end Script

end GradleMigration

------------------------------------------------------------
-- The Rule
------------------------------------------------------------

namespace GradleMigration

namespace Script

/- A pass changes nothing, or takes an operator away. -/
theorem migrateTasks_eq_or_count_lt
    (content : List Char) :
    migrateTasks content = content ∨
      (migrateTasks content).count '<' < content.count '<' := by
  have hHeads :
      ∀ header ∈ closureHeaders content, ∃ front body,
        header.Heads (content.drop header.start) front body :=
    fun _ => heads_of_mem_closureHeaders
  rcases count_foldr_migrateTask hHeads with ⟨hSame, _⟩ | hLess
  · exact Or.inl hSame
  · exact Or.inr hLess

end Script

open Script

namespace Rule

/-
  The rule for tasks with the shift operator changes a text
  once and for all where all headers stand in code.  Any text
  comes to rest after some passes, at most one for each `<`.
-/
theorem transform_settles
    {rule : Rule}
    (hKind : rule.kind = .taskLeftShift)
    (content : List Char) :
    (∃ text, rule.transform content = .ok text ∧
      (HeadersInCode content →
        rule.transform text = .ok text)) ∧
      ∃ count ≤ content.count '<', ∃ text,
        rule.passes count content = .ok text ∧
          rule.transform text = .ok text := by
  refine ⟨⟨migrateTasks content,
    transform_eq_migrateTasks hKind content, ?_⟩, ?_⟩
  · intro hCode
    have hSettled := hCode.migration.settled
    have hRun := hSettled.migration.foldr_migrateTask []
    rw [transform_eq_migrateTasks hKind]
    exact congrArg Except.ok hRun
  · apply exists_passes_settled
    intro text
    exact ⟨_, transform_eq_migrateTasks hKind text,
      migrateTasks_eq_or_count_lt text⟩

/- A task in a task, and one whose body is not closed. -/
def unfinished : List Char :=
  ("task outer << \x7b\n" ++
    "  task inner<<\x7b println '\x7d' \x7d // \x7b\n" ++
    "\x7d\n" ++
    "task last << \x7b\n").toList

/-
  The header that is left has no closing brace after the first
  pass either.
-/
theorem transform_settles_unfinished :
    ∃ rule,
      Builtin.taskLeftshift.build = .ok rule ∧
        rule.kind = .taskLeftShift ∧
        HeadersInCode unfinished ∧
        ∃ text, rule.transform unfinished = .ok text ∧
          text =
            ("task outer \x7b doLast \x7b\n" ++
              "  task inner \x7b doLast \x7b println '\x7d'" ++
              " \x7d \x7d // \x7b\n" ++
              "\x7d \x7d\n" ++
              "task last << \x7b\n").toList ∧
          rule.transform text = .ok text := by
  rcases exists_taskLeftshift with ⟨rule, hRule, hKind⟩
  have hScript : unfinished = Text.decoded _ :=
    Text.toList_eq_decoded _
  have hCode : HeadersInCode unfinished := by
    rw [hScript]
    decide +kernel
  rcases (transform_settles hKind unfinished).1 with
    ⟨text, hText, hAgain⟩
  refine ⟨rule, hRule, hKind, hCode, text, hText, ?_,
    hAgain hCode⟩
  rw [transform_eq_migrateTasks hKind] at hText
  rw [← Except.ok.inj hText, hScript, Text.toList_eq_decoded]
  decide +kernel

/-
  A commented header whose comment opens another brace takes
  up the brace that the first pass puts in.
-/
def commented : List Char :=
  ("task a << \x7b\n" ++
    "    // task b << \x7b if (x) \x7b\n" ++
    "    println 'hi'\n" ++
    "\x7d\n").toList

theorem transform_unsettled :
    ∃ rule,
      Builtin.taskLeftshift.build = .ok rule ∧
        ∃ once twice,
          rule.transform commented = .ok once ∧
            rule.transform once = .ok twice ∧
            once ≠ twice := by
  rcases exists_taskLeftshift with ⟨rule, hRule, hKind⟩
  have hNe :
      migrateTasks commented ≠
        migrateTasks (migrateTasks commented) := by
    have hScript : commented = Text.decoded _ :=
      Text.toList_eq_decoded _
    rw [hScript]
    decide +kernel
  exact ⟨rule, hRule, _, _,
    transform_eq_migrateTasks hKind commented,
    transform_eq_migrateTasks hKind _, hNe⟩

/-
  The rule for tasks with the shift operator keeps a balanced
  text balanced where all headers stand in code, and makes no
  other text balanced.
-/
theorem transform_balanced_iff
    {rule : Rule}
    (hKind : rule.kind = .taskLeftShift)
    {content : List Char}
    (hCode : HeadersInCode content) :
    ∃ text, rule.transform content = .ok text ∧
      (IsBalanced text ↔ IsBalanced content) := by
  refine ⟨migrateTasks content,
    transform_eq_migrateTasks hKind content, ?_⟩
  unfold IsBalanced
  rw [finalDepth_eq_some_iff, finalDepth_eq_some_iff]
  exact hCode.migration.passage_iff

/- A block with tasks in it, and braces that do not count. -/
def enclosed : List Char :=
  ("subprojects \x7b\n" ++
    "  task outer << \x7b println \"\x7b\"\n" ++
    "    task inner << \x7b /* \x7d */ \x7d\n" ++
    "  \x7d // \x7d\n" ++
    "\x7d\n").toList

theorem transform_balanced_iff_enclosed :
    ∃ rule,
      Builtin.taskLeftshift.build = .ok rule ∧
        rule.kind = .taskLeftShift ∧
        HeadersInCode enclosed ∧
        IsBalanced enclosed ∧
        ∃ text, rule.transform enclosed = .ok text ∧
          text ≠ enclosed ∧ IsBalanced text := by
  rcases exists_taskLeftshift with ⟨rule, hRule, hKind⟩
  have hScript : enclosed = Text.decoded _ :=
    Text.toList_eq_decoded _
  have hCode : HeadersInCode enclosed := by
    rw [hScript]
    decide +kernel
  have hBalanced : IsBalanced enclosed := by
    rw [hScript]
    decide +kernel
  rcases transform_balanced_iff hKind hCode with
    ⟨text, hText, hKept⟩
  refine ⟨rule, hRule, hKind, hCode, hBalanced, text, hText, ?_,
    hKept.mpr hBalanced⟩
  rw [transform_eq_migrateTasks hKind] at hText
  rw [← Except.ok.inj hText, hScript]
  decide +kernel

/-
  A task in line comments in a block: its closing brace does
  not count, so it is given one behind that of the block.
-/
def commentedTask : List Char :=
  ("allprojects \x7b\n" ++
    "    // task hello << \x7b\n" ++
    "    //     println 'hi'\n" ++
    "    // \x7d\n" ++
    "\x7d\n").toList

theorem transform_unbalanced :
    ∃ rule,
      Builtin.taskLeftshift.build = .ok rule ∧
        IsBalanced commentedTask ∧
        ∃ text, rule.transform commentedTask = .ok text ∧
          ¬ IsBalanced text := by
  rcases exists_taskLeftshift with ⟨rule, hRule, hKind⟩
  have hScript : commentedTask = Text.decoded _ :=
    Text.toList_eq_decoded _
  have hBalanced : IsBalanced commentedTask := by
    rw [hScript]
    decide +kernel
  have hBroken :
      ¬ IsBalanced (migrateTasks commentedTask) := by
    rw [hScript]
    decide +kernel
  exact ⟨rule, hRule, hBalanced, _,
    transform_eq_migrateTasks hKind commentedTask, hBroken⟩

end Rule

end GradleMigration
