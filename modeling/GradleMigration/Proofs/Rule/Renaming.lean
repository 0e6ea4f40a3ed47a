import GradleMigration.Proofs.Rule.Names

/-
  The rules for dependency configurations rename words.

  What such a rule takes behind a name it puts back, so the
  passes of its substitutions rename one name after another.
  No new name is an old one: the passes together are one pass
  that looks names up.  Behind a word the two rules look at
  signs only, which neither of them changes, so they can be
  applied in either order.

  Main declarations:
    * `Text.startsBlank` and `Text.opensParen`
    * `Renaming.lookUp`
    * `Construct.rewrite_eq_renameWords`
    * `Renaming.rewriteAll_eq_renameWords`
    * `Builtin.configurations_are_renamed`
-/

------------------------------------------------------------
-- What Stands behind a Name
------------------------------------------------------------

namespace GradleMigration

namespace Text

/- Whether a text starts with a blank. -/
def startsBlank
    (text : List Char) : Bool :=
  text.head?.any isBlank

/- Whether a text starts with a parenthesis behind a gap. -/
def opensParen
    (text : List Char) : Bool :=
  (text.dropWhile isBlank).head? == some '('

/- A test that sees signs only. -/
def SeesSigns
    (test : List Char → Bool) : Prop :=
  ∀ {edit : List Char → List Char → Edit}, KeepsWords edit →
    ∀ text, test (rewriteWords edit text) = test text

theorem startsBlank_eq
    (text : List Char) :
    startsBlank text = !(text.takeWhile isBlank).isEmpty := by
  cases text with
  | nil => rfl
  | cons c rest =>
      unfold startsBlank
      by_cases hC : isBlank c = true
      · simp [hC]
      · simp [hC]

theorem seesSigns_startsBlank :
    SeesSigns startsBlank := by
  intro edit hKeeps text
  rw [startsBlank_eq, startsBlank_eq,
    (span_rewriteWords hKeeps
      (fun c hC => isWord_of_isBlank hC) text).1]

theorem seesSigns_opensParen :
    SeesSigns opensParen := by
  intro edit hKeeps text
  have hParen : ∀ other : List Char,
      Anchor.wordAt false other = true →
        other.head? ≠ some '(' := by
    intro other hOther hHead
    rcases List.head?_eq_some_iff.mp hHead with ⟨rest, hEq⟩
    rw [hEq] at hOther
    have hSign : isWord '(' = false := by decide
    have hWord : isWord '(' = true := hOther
    rw [hSign] at hWord
    cases hWord
  unfold opensParen
  rw [(span_rewriteWords hKeeps
    (fun c hC => isWord_of_isBlank hC) text).2]
  cases hText : text.dropWhile isBlank with
  | nil => rw [rewriteWords_nil]
  | cons c rest =>
      by_cases hC : isWord c = true
      · have hWord :
            Anchor.wordAt false (c :: rest) = true := hC
        have hAfter := hParen (rewriteWords edit (c :: rest))
          (by rw [wordAt_rewriteWords hKeeps, hWord])
        rw [beq_false_of_ne hAfter,
          beq_false_of_ne (hParen _ hWord)]
      · rw [rewriteWords_sign (Bool.eq_false_iff.mpr hC)]
        rfl

end Text

end GradleMigration

------------------------------------------------------------
-- Constructs that are Renamed
------------------------------------------------------------

namespace GradleMigration

/-
  Whether a construct is a name in front of what a test says:
  what is taken behind the name has no words and is put back.
-/
structure Construct.Renames
    (p : Construct)
    (test : List Char → Bool) : Prop where
  strict : p.loose = false
  test_eq : ∀ behind,
    (Piece.read p.tail behind).isSome = test behind
  put : ∀ {behind : List Char} {taken : Taken},
    Piece.read p.tail behind = some taken →
      p.put taken = p.lead ++ taken.passed
  signs : ∀ {behind : List Char} {taken : Taken},
    Piece.read p.tail behind = some taken →
      ∀ c ∈ taken.passed, Text.isWord c = false

/- What comes in the place of a word. -/
def Construct.nameFor
    (p : Construct)
    (test : List Char → Bool)
    (word behind : List Char) : List Char :=
  if word = p.word ∧ test behind = true then p.lead else word

/- Replacing such a construct renames words. -/
theorem Construct.Renames.rewrite_eq
    {p : Construct}
    {test : List Char → Bool}
    (h : p.Renames test)
    (text : List Char) :
    p.rewrite text =
      Text.renameWords (p.nameFor test) text := by
  induction text using Text.wordwise with
  | nil => simp [rewrite, Text.renameWords]
  | sign c rest hC ih =>
      rw [Text.renameWords_sign hC, ← ih]
      exact Text.rewriteWords_sign hC rest
  | word word behind hRun ih =>
      rw [Text.renameWords_run hRun]
      cases hOccurs : p.occurs word behind with
      | none =>
          have hNot :
              ¬ (word = p.word ∧ test behind = true) := by
            rintro ⟨hWord, hTest⟩
            have hHeads : p.heads word = true :=
              heads_iff.mpr ⟨[], hWord, fun _ => rfl⟩
            rw [occurs, if_pos hHeads] at hOccurs
            rw [← h.test_eq, hOccurs] at hTest
            cases hTest
          rw [rewrite_of_occurs_none hRun hOccurs, nameFor,
            if_neg hNot]
          exact congrArg _ (ih 0)
      | some taken =>
          rcases exists_occurs hOccurs with
            ⟨front, hWord, hParts⟩
          have hFront := hParts.strict h.strict
          subst hFront
          have hTest : test behind = true := by
            rw [← h.test_eq, hParts.read]
            rfl
          have hSplit := Piece.append_of_read hParts.read
          have hRest := ih taken.passed.length
          rw [hSplit, List.drop_left] at hRest
          have hBehind :
              Text.renameWords (p.nameFor test) behind =
                taken.passed ++ p.rewrite taken.rest := by
            rw [hRest, hSplit]
            exact Text.renameWords_signs
              (h.signs hParts.read) taken.rest
          rw [nameFor, if_pos ⟨hWord, hTest⟩, hBehind]
          rw [hWord] at hRun ⊢
          rw [rewrite_of_occurs hRun hParts, h.put hParts.read,
            List.append_assoc]
          rfl

namespace Renaming

variable (r : Renaming)

/- Blanks are put back. -/
theorem renames_beforeBlank :
    r.beforeBlank.Renames Text.startsBlank where
  strict := rfl
  test_eq := by
    intro behind
    rw [Text.startsBlank_eq]
    change (Piece.read [.gap true true] behind).isSome = _
    simp only [Piece.read, Piece.take, Bool.true_and]
    cases (behind.takeWhile Text.isBlank).isEmpty with
    | true => rfl
    | false => rfl
  put := by
    intro behind taken hRead
    have hParts := of_read_beforeBlank hRead
    change r.new ++ (taken.kept ++ []) = r.new ++ taken.passed
    rw [hParts.2.1, hParts.2.2, List.append_nil]
  signs := by
    intro behind taken hRead c hC
    rw [(of_read_beforeBlank hRead).2.1] at hC
    exact Text.isWord_of_isBlank
      (List.all_eq_true.mp List.all_takeWhile c hC)

/- A gap and a parenthesis are put back. -/
theorem renames_beforeParen :
    r.beforeParen.Renames Text.opensParen where
  strict := rfl
  test_eq := by
    intro behind
    change (Piece.read [.gap true false, .sign '(']
      behind).isSome = _
    unfold Text.opensParen
    simp only [Piece.read, Piece.take, Bool.false_and,
      Bool.false_eq_true, if_false, Option.bind_some,
      Text.drop_takeWhile]
    by_cases hHead :
        (behind.dropWhile Text.isBlank).head? = some '('
    · rw [if_pos hHead, hHead]
      rfl
    · rw [if_neg hHead, beq_false_of_ne hHead]
      rfl
  put := by
    intro behind taken hRead
    have hParts := of_read_beforeParen hRead
    change r.new ++ (taken.kept ++ ['(']) =
      r.new ++ taken.passed
    rw [hParts.1, hParts.2]
  signs := by
    intro behind taken hRead c hC
    rw [(of_read_beforeParen hRead).1] at hC
    rcases List.mem_append.mp hC with hBlank | hParen
    · exact Text.isWord_of_isBlank
        (List.all_eq_true.mp List.all_takeWhile c hBlank)
    · rw [List.mem_singleton.mp hParen]
      decide

end Renaming

end GradleMigration

------------------------------------------------------------
-- Looking Names Up
------------------------------------------------------------

namespace GradleMigration

namespace Renaming

/- The new name of a word, which is its own if it has none. -/
def lookUp
    (names : List Renaming)
    (word : List Char) : List Char :=
  ((names.find? fun name => name.old == word).map
    (·.new)).getD word

/- Rename words that are followed as a test says. -/
def renameIf
    (names : List Renaming)
    (test : List Char → Bool)
    (word behind : List Char) : List Char :=
  if test behind then lookUp names word else word

/- New names are words, and no old ones. -/
structure AreFresh
    (names : List Renaming) : Prop where
  ne_nil : ∀ name ∈ names, name.new ≠ []
  isWord : ∀ name ∈ names, ∀ c ∈ name.new,
    Text.isWord c = true
  fresh : ∀ name ∈ names, ∀ other ∈ names,
    name.new ≠ other.old

theorem lookUp_nil
    (word : List Char) :
    lookUp [] word = word :=
  rfl

theorem lookUp_cons
    (name : Renaming)
    (names : List Renaming)
    (word : List Char) :
    lookUp (name :: names) word =
      if word = name.old then name.new
      else lookUp names word := by
  unfold lookUp
  rw [List.find?_cons]
  by_cases hWord : word = name.old
  · subst hWord
    simp
  · have hOther : (name.old == word) = false :=
      beq_false_of_ne fun hEq => hWord hEq.symm
    rw [hOther, if_neg hWord]

theorem lookUp_of_forall_ne
    {names : List Renaming}
    {word : List Char}
    (h : ∀ name ∈ names, word ≠ name.old) :
    lookUp names word = word := by
  unfold lookUp
  have hNone : (names.find? fun name => name.old == word) =
      none := by
    rw [List.find?_eq_none]
    intro name hName hEq
    exact h name hName (eq_of_beq hEq).symm
  rw [hNone]
  rfl

theorem AreFresh.subset
    {names others : List Renaming}
    (h : AreFresh names)
    (hOthers : ∀ other ∈ others, other ∈ names) :
    AreFresh others where
  ne_nil name hName := h.ne_nil name (hOthers name hName)
  isWord name hName := h.isWord name (hOthers name hName)
  fresh name hName other hOther :=
    h.fresh name (hOthers name hName) other
      (hOthers other hOther)

/- Words are renamed to words. -/
theorem AreFresh.namesWords
    {names : List Renaming}
    (h : AreFresh names)
    (test : List Char → Bool) :
    Text.NamesWords (renameIf names test) := by
  intro word behind hRun
  unfold renameIf lookUp
  split
  · cases hFind : names.find? fun name => name.old == word with
    | none => exact ⟨hRun.ne_nil, hRun.isWord⟩
    | some name =>
        have hName := List.mem_of_find?_eq_some hFind
        exact ⟨h.ne_nil name hName, h.isWord name hName⟩
  · exact ⟨hRun.ne_nil, hRun.isWord⟩

/- A test that sees signs is the same behind words. -/
theorem renameIf_renameWords
    {names others : List Renaming}
    (h : AreFresh names)
    {test look : List Char → Bool}
    (hLook : Text.SeesSigns look)
    (word behind : List Char) :
    renameIf others look word
        (Text.renameWords (renameIf names test) behind) =
      renameIf others look word behind := by
  unfold renameIf
  have hSame := hLook (h.namesWords test).keepsWords behind
  unfold renameIf at hSame
  rw [Text.renameWords, hSame]

/- A construct for a name, with what a test says behind it. -/
structure IsFor
    (name : Renaming)
    (test : List Char → Bool)
    (p : Construct) : Prop where
  renames : p.Renames test
  word : p.word = name.old
  lead : p.lead = name.new

theorem IsFor.rewrite_eq
    {name : Renaming}
    {test : List Char → Bool}
    {p : Construct}
    (h : name.IsFor test p)
    (text : List Char) :
    p.rewrite text =
      Text.renameWords (renameIf [name] test) text := by
  rw [h.renames.rewrite_eq]
  apply Text.renameWords_congr
  intro word behind
  unfold Construct.nameFor renameIf
  rw [lookUp_cons, lookUp_nil, h.word, h.lead]
  by_cases hTest : test behind = true
  · simp [hTest]
  · simp [hTest]

theorem isFor_beforeBlank
    (name : Renaming) :
    name.IsFor Text.startsBlank name.beforeBlank :=
  ⟨name.renames_beforeBlank, rfl, rfl⟩

theorem isFor_beforeParen
    (name : Renaming) :
    name.IsFor Text.opensParen name.beforeParen :=
  ⟨name.renames_beforeParen, rfl, rfl⟩

/- With a new name none of the others is looked up. -/
theorem renameIf_renameIf
    {name : Renaming}
    {names : List Renaming}
    (h : ∀ other ∈ names, name.new ≠ other.old)
    (test : List Char → Bool)
    (word behind : List Char) :
    renameIf names test (renameIf [name] test word behind)
        behind =
      renameIf (name :: names) test word behind := by
  unfold renameIf
  by_cases hTest : test behind = true
  · rw [if_pos hTest, if_pos hTest, if_pos hTest, lookUp_cons,
      lookUp_cons, lookUp_nil]
    by_cases hWord : word = name.old
    · rw [if_pos hWord, if_pos hWord, lookUp_of_forall_ne h]
    · rw [if_neg hWord, if_neg hWord]
  · rw [if_neg hTest, if_neg hTest, if_neg hTest]

/-
  Replacing names one after another is to look them all up at
  once.
-/
theorem AreFresh.rewriteAll_eq
    {names : List Renaming}
    (h : AreFresh names)
    {test : List Char → Bool}
    (hTest : Text.SeesSigns test)
    {construct : Renaming → Construct}
    (hFor : ∀ name : Renaming, name.IsFor test (construct name))
    (text : List Char) :
    Construct.rewriteAll (names.map construct) text =
      Text.renameWords (renameIf names test) text := by
  induction names generalizing text with
  | nil =>
      have hKept : ∀ word behind,
          renameIf [] test word behind = word := by
        intro word behind
        unfold renameIf
        rw [lookUp_nil, ite_self]
      rw [Text.renameWords_congr hKept, Text.renameWords_self]
      rfl
  | cons name names ih =>
      have hNames : AreFresh names :=
        h.subset fun other => List.mem_cons_of_mem _
      have hName : AreFresh [name] :=
        h.subset (by simp)
      have hOthers : ∀ other ∈ names, name.new ≠ other.old :=
        fun other hOther => h.fresh name List.mem_cons_self
          other (List.mem_cons_of_mem _ hOther)
      rw [List.map_cons, Construct.rewriteAll, ih hNames,
        (hFor name).rewrite_eq, Text.renameWords_renameWords
          (hName.namesWords test)
          (renameIf_renameWords hName hTest)]
      exact Text.renameWords_congr
        (renameIf_renameIf hOthers test) text

/- Two rules for the same names may come in either order. -/
theorem AreFresh.renameWords_comm
    {names : List Renaming}
    (h : AreFresh names)
    {first second : List Char → Bool}
    (hFirst : Text.SeesSigns first)
    (hSecond : Text.SeesSigns second)
    (text : List Char) :
    Text.renameWords (renameIf names second)
        (Text.renameWords (renameIf names first) text) =
      Text.renameWords (renameIf names first)
        (Text.renameWords (renameIf names second) text) := by
  rw [Text.renameWords_renameWords (h.namesWords first)
      (renameIf_renameWords h hSecond),
    Text.renameWords_renameWords (h.namesWords second)
      (renameIf_renameWords h hFirst)]
  apply Text.renameWords_congr
  intro word behind
  unfold renameIf
  cases first behind with
  | false => rfl
  | true =>
      cases second behind with
      | false => rfl
      | true => rfl

end Renaming

end GradleMigration

------------------------------------------------------------
-- The Configurations
------------------------------------------------------------

namespace GradleMigration

open Renaming

namespace Builtin

theorem areFresh_configurationNames :
    AreFresh configurationNames where
  ne_nil := by decide
  isWord := by
    have hNew : ∀ r ∈ configurationNames,
        r.new.all Text.isWord = true := by
      decide
    exact fun r hR => List.all_eq_true.mp (hNew r hR)
  fresh := by decide

/-
  The rules for configurations rename the words in front of a
  blank and of a parenthesis.  In either order they make the
  same of a text.
-/
theorem configurations_are_renamed :
    ∃ blank paren,
      deprecatedConfigurations.build = .ok blank ∧
        deprecatedDependencyConfig.build = .ok paren ∧
        ∀ content,
          blank.transform content =
              .ok (Text.renameWords
                (renameIf configurationNames Text.startsBlank)
                content) ∧
            paren.transform content =
              .ok (Text.renameWords
                (renameIf configurationNames Text.opensParen)
                content) ∧
            ∃ text,
              (blank.transform content).bind paren.transform =
                  .ok text ∧
                (paren.transform content).bind
                  blank.transform = .ok text := by
  rcases configurationRule.exists_transform with
    ⟨blank, hBlank, _, _, hBlankText⟩
  rcases dependencyRule.exists_transform with
    ⟨paren, hParen, _, _, hParenText⟩
  have hNames := areFresh_configurationNames
  have hFirst : ∀ content, blank.transform content =
      .ok (Text.renameWords
        (renameIf configurationNames Text.startsBlank)
        content) := by
    intro content
    rw [hBlankText, ← hNames.rewriteAll_eq
      Text.seesSigns_startsBlank isFor_beforeBlank]
    rfl
  have hSecond : ∀ content, paren.transform content =
      .ok (Text.renameWords
        (renameIf configurationNames Text.opensParen)
        content) := by
    intro content
    rw [hParenText, ← hNames.rewriteAll_eq
      Text.seesSigns_opensParen isFor_beforeParen]
    rfl
  refine ⟨blank, paren, hBlank, hParen, ?_⟩
  intro content
  have hBoth : (blank.transform content).bind
      paren.transform =
        .ok (Text.renameWords
          (renameIf configurationNames Text.opensParen)
          (Text.renameWords
            (renameIf configurationNames Text.startsBlank)
            content)) := by
    rw [hFirst]
    exact hSecond _
  have hSwapped : (paren.transform content).bind
      blank.transform =
        .ok (Text.renameWords
          (renameIf configurationNames Text.opensParen)
          (Text.renameWords
            (renameIf configurationNames Text.startsBlank)
            content)) := by
    rw [hSecond, hNames.renameWords_comm
      Text.seesSigns_startsBlank Text.seesSigns_opensParen]
    exact hFirst _
  exact ⟨hFirst content, hSecond content, _, hBoth, hSwapped⟩

end Builtin

end GradleMigration
