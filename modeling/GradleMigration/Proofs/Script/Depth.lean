import GradleMigration.Proofs.Script.Lexemes

/-
  Reading a script from its beginning, lexeme by lexeme: how
  deep its braces are, and where it is code.

  A part of a script leads from one depth to another.  It does
  so whatever follows, but for the next character, and the
  brace that closes a block is where the depth first goes
  below that of the block.

  Main declarations:
    * `finalDepth` and `IsBalanced`
    * `isCodeFrom`
    * `Passage`
    * `finalDepth_eq_some_iff`
    * `exists_passage_of_blockEndFrom`
    * `Passage.exists_closing`
-/

------------------------------------------------------------
-- Depths
------------------------------------------------------------

namespace GradleMigration

namespace Script

/-
  The depth behind a lexeme that starts with `c`.  There is no
  depth below zero.
-/
def depthAfter
    (c : Char)
    (depth : Nat) : Option Nat :=
  if c = '\x7b' then
    some (depth + 1)
  else if c = '\x7d' then
    match depth with
    | 0 => none
    | depth + 1 => some depth
  else
    some depth

/-
  The depth of braces at the end of a text, unless it goes
  below zero.  The first `skip` characters belong to a lexeme
  that has been looked at.
-/
def finalDepth :
    (skip : Nat) →
    (depth : Nat) →
    List Char → Option Nat
| _, depth, [] => some depth
| skip + 1, depth, _ :: rest => finalDepth skip depth rest
| 0, depth, c :: rest =>
    match depthAfter c depth with
    | none => none
    | some next =>
        finalDepth (lexemeLength c rest - 1) next rest

/-
  Every brace that a text opens is closed, and no other one.
  Braces in string literals and comments do not count.
-/
def IsBalanced
    (content : List Char) : Prop :=
  finalDepth 0 0 content = some 0

instance
    (content : List Char) :
    Decidable (IsBalanced content) := by
  unfold IsBalanced
  infer_instance

/-
  Whether a lexeme starts, or the text ends, at an offset.
  The first `skip` characters belong to a lexeme that has been
  looked at.
-/
def isCodeFrom :
    (skip : Nat) →
    (offset : Nat) →
    List Char → Bool
| skip, 0, _ => skip = 0
| _, _ + 1, [] => false
| skip + 1, offset + 1, _ :: rest =>
    isCodeFrom skip offset rest
| 0, offset + 1, c :: rest =>
    isCodeFrom (lexemeLength c rest - 1) offset rest

end Script

end GradleMigration

------------------------------------------------------------
-- Passages
------------------------------------------------------------

namespace GradleMigration

namespace Script

/- A lexeme is the only one that starts where it does. -/
theorem lexeme_unique
    {c : Char}
    {body inside rest other : List Char}
    (hHere : lexemeLength c (body ++ rest) = body.length + 1)
    (hThere :
      lexemeLength c (inside ++ other) = inside.length + 1)
    (hText : body ++ rest = inside ++ other) :
    body = inside ∧ rest = other := by
  rw [hText, hThere] at hHere
  exact List.append_inj hText (Nat.succ.inj hHere).symm

/- The depth goes below zero at a closing brace only. -/
theorem of_depthAfter_eq_none
    {c : Char}
    {depth : Nat}
    (h : depthAfter c depth = none) :
    c = '\x7d' ∧ depth = 0 := by
  unfold depthAfter at h
  split at h
  · cases h
  · split at h
    · next hClose =>
        cases depth with
        | zero => exact ⟨hClose, rfl⟩
        | succ depth => cases h
    · cases h

/- A depth that a lexeme leads to, at a greater depth. -/
theorem depthAfter_deeper
    {c : Char}
    {depth next : Nat}
    (h : depthAfter c depth = some next)
    (more : Nat) :
    depthAfter c (depth + more) = some (next + more) := by
  unfold depthAfter at h ⊢
  split
  · next hOpen =>
      rw [if_pos hOpen] at h
      cases h
      rw [Nat.add_right_comm]
  · next hOpen =>
      rw [if_neg hOpen] at h
      split
      · next hClose =>
          rw [if_pos hClose] at h
          cases depth with
          | zero => cases h
          | succ depth =>
              cases h
              rw [Nat.succ_add]
      · next hClose =>
          rw [if_neg hClose] at h
          cases h
          rfl

/-
  Reading a part of a text, in front of what follows it, leads
  from one depth to another and ends with a lexeme.
-/
inductive Passage
    (follow : List Char) : Nat → List Char → Nat → Prop
| done (depth : Nat) : Passage follow depth [] depth
| lexeme
    {c : Char}
    {body tail : List Char}
    {depth next last : Nat}
    (isLexeme :
      lexemeLength c (body ++ (tail ++ follow)) =
        body.length + 1)
    (step : depthAfter c depth = some next)
    (more : Passage follow next tail last) :
    Passage follow depth (c :: (body ++ tail)) last

namespace Passage

variable {follow first second text : List Char}
variable {depth middle last : Nat}

/- Only the next character matters behind a passage. -/
theorem congr
    (h : Passage follow depth text last)
    {other : List Char}
    (hHead : follow.head? = other.head?) :
    Passage other depth text last := by
  induction h with
  | done depth => exact .done depth
  | @lexeme c body tail depth next last hLexeme hStep _ ih =>
      refine .lexeme (lexemeLength_congr ?_ hLexeme) hStep ih
      rw [List.head?_append, List.head?_append, hHead]

/- One passage after another. -/
theorem append
    (hFirst : Passage (second ++ follow) depth first middle)
    (hSecond : Passage follow middle second last) :
    Passage follow depth (first ++ second) last := by
  induction hFirst with
  | done depth => exact hSecond
  | @lexeme c body tail depth next middle hLexeme hStep _ ih =>
      rw [List.cons_append, List.append_assoc]
      refine .lexeme ?_ hStep (ih hSecond)
      rw [List.append_assoc]
      exact hLexeme

/- What is left of a passage behind its first lexeme. -/
theorem behind_lexeme
    {c : Char}
    {body tail : List Char}
    (hLexeme :
      lexemeLength c (body ++ (tail ++ follow)) =
        body.length + 1)
    (h : Passage follow depth (c :: (body ++ tail)) last) :
    ∃ next, depthAfter c depth = some next ∧
      Passage follow next tail last := by
  generalize hText : c :: (body ++ tail) = text at h
  cases h with
  | done depth => cases hText
  | @lexeme d inside back _ next _ hThere hStep hMore =>
      rw [List.cons.injEq] at hText
      rcases hText with ⟨hChar, hRest⟩
      subst hChar
      have hFollow :
          body ++ (tail ++ follow) =
            inside ++ (back ++ follow) := by
        rw [← List.append_assoc, hRest, List.append_assoc]
      rcases lexeme_unique hLexeme hThere hFollow with
        ⟨hBody, hTail⟩
      rw [List.append_cancel_right hTail]
      exact ⟨next, hStep, hMore⟩

/- What is left of a passage behind its first part. -/
theorem behind
    (hFirst : Passage (second ++ follow) depth first middle)
    (hWhole : Passage follow depth (first ++ second) last) :
    Passage follow middle second last := by
  induction hFirst with
  | done depth => exact hWhole
  | @lexeme c body tail depth next middle hLexeme hStep _ ih =>
      rw [List.cons_append, List.append_assoc] at hWhole
      rw [← List.append_assoc tail] at hLexeme
      rcases hWhole.behind_lexeme hLexeme with
        ⟨after, hAfter, hMore⟩
      rw [hStep] at hAfter
      cases hAfter
      exact ih hMore

/- The same passage at a greater depth. -/
theorem deeper
    (h : Passage follow depth text last)
    (more : Nat) :
    Passage follow (depth + more) text (last + more) := by
  induction h with
  | done depth => exact .done _
  | @lexeme c body tail depth next last hLexeme hStep _ ih =>
      exact .lexeme hLexeme (depthAfter_deeper hStep more) ih

/- A lexeme of one character. -/
theorem single
    {c : Char}
    {next : Nat}
    (hLexeme : lexemeLength c (text ++ follow) = 1)
    (hStep : depthAfter c depth = some next)
    (hMore : Passage follow next text last) :
    Passage follow depth (c :: text) last :=
  .lexeme
    (show lexemeLength c ([] ++ (text ++ follow)) =
      [].length + 1 from hLexeme)
    hStep hMore

/- Plain characters keep the depth. -/
theorem plain
    (h : text.all isPlain = true)
    (depth : Nat)
    (follow : List Char) :
    Passage follow depth text depth := by
  induction text with
  | nil => exact .done depth
  | cons c more ih =>
      rw [List.all_cons, Bool.and_eq_true] at h
      rcases of_isPlain h.1 with ⟨_, hOpen, hClose, _⟩
      have hStep : depthAfter c depth = some depth := by
        unfold depthAfter
        rw [if_neg hOpen, if_neg hClose]
      exact .single (lexemeLength_plain h.1 _) hStep (ih h.2)

/- An opening brace. -/
theorem opening
    (depth : Nat)
    (follow : List Char) :
    Passage follow depth ['\x7b'] (depth + 1) :=
  .single rfl rfl (.done _)

/- A closing brace. -/
theorem closing
    (depth : Nat)
    (follow : List Char) :
    Passage follow (depth + 1) ['\x7d'] depth :=
  .single rfl rfl (.done _)

/-
  A passage that ends below some depth has its first brace
  that goes below it.
-/
theorem exists_closing
    (h : Passage follow depth text last)
    {above below : Nat}
    (hDepth : depth = above + below)
    (hLast : last < below) :
    ∃ inside back,
      text = inside ++ '\x7d' :: back ∧
        Passage ('\x7d' :: (back ++ follow)) above inside 0 := by
  induction h generalizing above with
  | done depth => omega
  | @lexeme c body tail depth next last hLexeme hStep _ ih =>
      subst hDepth
      cases hHere : depthAfter c above with
      | none =>
          rcases of_depthAfter_eq_none hHere with ⟨hC, hAbove⟩
          subst hC
          subst hAbove
          exact ⟨[], body ++ tail, rfl, .done 0⟩
      | some higher =>
          rw [depthAfter_deeper hHere below] at hStep
          cases hStep
          rcases ih rfl hLast with ⟨inside, back, hTail, hInside⟩
          subst hTail
          refine ⟨c :: (body ++ inside), back, by simp, ?_⟩
          refine .lexeme ?_ hHere hInside
          simpa using hLexeme

end Passage

end Script

end GradleMigration

------------------------------------------------------------
-- What the Scans See of a Passage
------------------------------------------------------------

namespace GradleMigration

namespace Script

/- The rest of a lexeme is skipped. -/
theorem finalDepth_skip
    (passed follow : List Char)
    (depth : Nat) :
    finalDepth passed.length depth (passed ++ follow) =
      finalDepth 0 depth follow := by
  induction passed with
  | nil => rfl
  | cons c more ih =>
      rw [List.length_cons, List.cons_append, finalDepth, ih]

/- The depth at the end of a text is where it leads to. -/
theorem finalDepth_eq_some_iff
    {depth last : Nat}
    {text : List Char} :
    finalDepth 0 depth text = some last ↔
      Passage [] depth text last := by
  constructor
  · intro h
    induction text using lexeme_induction
      generalizing depth with
    | nil =>
        cases h
        exact .done _
    | lexeme hLexeme ih =>
        rw [finalDepth] at h
        split at h
        · cases h
        · next hStep =>
            rw [hLexeme, Nat.add_sub_cancel, finalDepth_skip]
              at h
            refine .lexeme ?_ hStep (ih h)
            rw [List.append_nil]
            exact hLexeme
  · intro h
    induction h with
    | done depth => rfl
    | @lexeme c body tail depth next last hLexeme hStep _ ih =>
        rw [List.append_nil] at hLexeme
        rw [finalDepth, hStep]
        simp only
        rw [hLexeme, Nat.add_sub_cancel, finalDepth_skip, ih]

/- One lexeme on the way to a closing brace. -/
theorem blockEndFrom_cons
    (depth pos : Nat)
    (c : Char)
    (rest : List Char) :
    blockEndFrom 0 (depth + 1 : Nat) pos (c :: rest) =
      match depthAfter c depth with
      | none => some pos
      | some next =>
          blockEndFrom (lexemeLength c rest - 1)
            (next + 1 : Nat) (pos + 1) rest := by
  rw [blockEndFrom]
  unfold depthAfter
  split
  · next hOpen =>
      subst hOpen
      rfl
  · split
    · next hClose =>
        subst hClose
        cases depth with
        | zero => rfl
        | succ depth =>
            rw [if_neg (by omega)]
            simp only
            congr 1
            omega
    · rfl

/- A passage is passed over on the way to a closing brace. -/
theorem Passage.blockEndFrom_append
    {follow text : List Char}
    {depth last : Nat}
    (h : Passage follow depth text last)
    (pos : Nat) :
    blockEndFrom 0 (depth + 1 : Nat) pos (text ++ follow) =
      blockEndFrom 0 (last + 1 : Nat) (pos + text.length)
        follow := by
  induction h generalizing pos with
  | done depth => rfl
  | @lexeme c body tail depth next last hLexeme hStep _ ih =>
      rw [List.cons_append, List.append_assoc,
        blockEndFrom_cons, hStep]
      simp only
      rw [hLexeme, Nat.add_sub_cancel, blockEndFrom_skip, ih]
      congr 1
      simp only [List.length_cons, List.length_append]
      omega

/-
  The brace that closes a block is where the depth first goes
  below that of the block.
-/
theorem exists_passage_of_blockEndFrom
    {depth pos close : Nat}
    {text : List Char}
    (h : blockEndFrom 0 (depth + 1 : Nat) pos text =
      some close) :
    ∃ inside back,
      text = inside ++ '\x7d' :: back ∧
        Passage ('\x7d' :: back) depth inside 0 := by
  induction text using lexeme_induction
    generalizing depth pos with
  | nil => cases h
  | @lexeme c body tail hLexeme ih =>
      rw [blockEndFrom_cons] at h
      split at h
      · next hStep =>
          rcases of_depthAfter_eq_none hStep with ⟨hC, hDepth⟩
          subst hC
          subst hDepth
          exact ⟨[], body ++ tail, rfl, .done 0⟩
      · next hStep =>
          rw [hLexeme, Nat.add_sub_cancel, blockEndFrom_skip]
            at h
          rcases ih h with ⟨inside, back, hTail, hInside⟩
          subst hTail
          refine ⟨c :: (body ++ inside), back, by simp, ?_⟩
          exact .lexeme hLexeme hStep hInside

/- A block that is not closed goes on to the end of the text. -/
theorem blockEndFrom_eq_none_iff_exists
    {depth pos : Nat}
    {text : List Char} :
    blockEndFrom 0 (depth + 1 : Nat) pos text = none ↔
      ∃ last, Passage [] depth text last := by
  constructor
  · intro h
    induction text using lexeme_induction
      generalizing depth pos with
    | nil => exact ⟨depth, .done depth⟩
    | lexeme hLexeme ih =>
        rw [blockEndFrom_cons] at h
        split at h
        · cases h
        · next hStep =>
            rw [hLexeme, Nat.add_sub_cancel, blockEndFrom_skip]
              at h
            rcases ih h with ⟨last, hLast⟩
            refine ⟨last, .lexeme ?_ hStep hLast⟩
            rw [List.append_nil]
            exact hLexeme
  · rintro ⟨last, hLast⟩
    have hEnd := hLast.blockEndFrom_append pos
    rw [List.append_nil] at hEnd
    rw [hEnd, blockEndFrom]

/- A block without a closing brace has no such passage. -/
theorem blockEndFrom_eq_none_iff
    {text : List Char}
    {pos : Nat} :
    blockEndFrom 0 1 pos text = none ↔
      ∀ inside back, text = inside ++ '\x7d' :: back →
        ¬ Passage ('\x7d' :: back) 0 inside 0 := by
  constructor
  · intro h inside back hText hInside
    have hEnd := hInside.blockEndFrom_append pos
    rw [← hText] at hEnd
    rw [blockEndFrom_cons] at hEnd
    exact absurd (h.symm.trans hEnd) (by simp [depthAfter])
  · intro h
    cases hEnd : blockEndFrom 0 1 pos text with
    | none => rfl
    | some close =>
        rcases exists_passage_of_blockEndFrom hEnd with
          ⟨inside, back, hText, hInside⟩
        exact absurd hInside (h inside back hText)

end Script

end GradleMigration

------------------------------------------------------------
-- Places in Code
------------------------------------------------------------

namespace GradleMigration

namespace Script

/- Behind a place in code the text is read anew. -/
theorem isCodeFrom_append
    {skip : Nat}
    {front text : List Char}
    (h : isCodeFrom skip front.length (front ++ text) = true)
    (offset : Nat) :
    isCodeFrom skip (front.length + offset) (front ++ text) =
      isCodeFrom 0 offset text := by
  induction front generalizing skip with
  | nil =>
      rw [List.length_nil, isCodeFrom] at h
      rw [of_decide_eq_true h, List.length_nil, Nat.zero_add,
        List.nil_append]
  | cons c more ih =>
      rw [List.length_cons, Nat.succ_add, List.cons_append]
      cases skip with
      | zero =>
          rw [isCodeFrom]
          exact ih h
      | succ skip =>
          rw [isCodeFrom]
          exact ih h

/- No place in a lexeme that has been looked at is code. -/
theorem le_of_isCodeFrom
    {skip offset : Nat}
    {text : List Char}
    (h : isCodeFrom skip offset text = true) :
    skip ≤ offset := by
  induction text generalizing skip offset with
  | nil =>
      cases offset with
      | zero =>
          rw [isCodeFrom] at h
          exact Nat.le_of_eq (of_decide_eq_true h)
      | succ offset => cases h
  | cons c rest ih =>
      cases offset with
      | zero =>
          rw [isCodeFrom] at h
          exact Nat.le_of_eq (of_decide_eq_true h)
      | succ offset =>
          cases skip with
          | zero => exact Nat.zero_le _
          | succ skip => exact Nat.succ_le_succ (ih h)

/- The place behind a lexeme is code. -/
theorem isCodeFrom_skip
    (passed follow : List Char) :
    isCodeFrom passed.length passed.length (passed ++ follow) =
      true := by
  induction passed with
  | nil => rfl
  | cons c more ih => exact ih

section

variable {front body tail : List Char} {c : Char}

/- Where a lexeme starts in code, code goes on behind it. -/
theorem isCodeFrom_lexeme
    (hCode :
      isCodeFrom 0 front.length
        (front ++ c :: (body ++ tail)) = true)
    (hLexeme :
      lexemeLength c (body ++ tail) = body.length + 1) :
    isCodeFrom 0 (front ++ c :: body).length
      (front ++ c :: (body ++ tail)) = true := by
  rw [List.length_append, isCodeFrom_append hCode,
    List.length_cons, isCodeFrom, hLexeme, Nat.add_sub_cancel]
  exact isCodeFrom_skip body tail

/- Inside a lexeme that starts in code there is no code. -/
theorem not_isCodeFrom_inside
    (hCode :
      isCodeFrom 0 front.length
        (front ++ c :: (body ++ tail)) = true)
    (hLexeme :
      lexemeLength c (body ++ tail) = body.length + 1)
    {offset : Nat}
    (hInside : offset < body.length) :
    isCodeFrom 0 (front.length + (offset + 1))
      (front ++ c :: (body ++ tail)) = false := by
  rw [isCodeFrom_append hCode, isCodeFrom, hLexeme,
    Nat.add_sub_cancel, Bool.eq_false_iff]
  intro hHere
  exact absurd (le_of_isCodeFrom hHere) (Nat.not_le.mpr hInside)

/- Where a part is read in code, code goes on behind it. -/
theorem isCodeFrom_passage
    {part follow : List Char}
    {depth last : Nat}
    (h : Passage follow depth part last)
    (hCode :
      isCodeFrom 0 front.length (front ++ (part ++ follow)) =
        true) :
    isCodeFrom 0 (front ++ part).length
      (front ++ (part ++ follow)) = true := by
  induction h generalizing front with
  | done depth =>
      rw [List.append_nil]
      exact hCode
  | @lexeme c body tail depth next last hLexeme _ _ ih =>
      rw [List.cons_append, List.append_assoc] at hCode ⊢
      have hBehind := isCodeFrom_lexeme hCode hLexeme
      have hText :
          front ++ c :: (body ++ (tail ++ follow)) =
            (front ++ c :: body) ++ (tail ++ follow) := by
        simp
      rw [hText] at hBehind ⊢
      have hMore := ih hBehind
      rw [List.append_assoc, List.cons_append] at hMore
      exact hMore

end

end Script

end GradleMigration
