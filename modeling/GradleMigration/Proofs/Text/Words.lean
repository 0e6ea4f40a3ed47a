import GradleMigration.Proofs.Pattern.WholeLines
import GradleMigration.Proofs.Script.Headers
import GradleMigration.Proofs.Script.Starts

/-
  Texts word by word.

  A text is read from left to right: signs that are in no
  word, and words that end where a sign or the end of the text
  follows.  Rewriting a text by its words replaces each of
  them, possibly with some of the characters behind it.

  Main declarations:
    * `Text.IsRun`
    * `Text.wordwise`
    * `Text.Edit` and `Text.rewriteWords`
    * `Text.rewriteWords_sign` and `Text.rewriteWords_run`
    * `Text.renameWords`
    * `Text.renameWords_renameWords`
-/

------------------------------------------------------------
-- Words
------------------------------------------------------------

namespace GradleMigration

namespace Text

/- A word, as long as the text behind it lets it be. -/
structure IsRun
    (word behind : List Char) : Prop where
  ne_nil : word ≠ []
  isWord : ∀ c ∈ word, isWord c = true
  ended : Anchor.wordAt false behind = false

/- A text that goes on with no word has no leading one. -/
theorem takeWhile_of_wordAt
    {text : List Char}
    (h : Anchor.wordAt false text = false) :
    text.takeWhile isWord = [] ∧
      text.dropWhile isWord = text := by
  cases text with
  | nil => exact ⟨rfl, rfl⟩
  | cons c rest =>
      have hC : isWord c = false := h
      simp [hC]

/- The leading word of a text is the one that it is cut at. -/
theorem IsRun.takeWhile_eq
    {word behind : List Char}
    (h : IsRun word behind) :
    (word ++ behind).takeWhile Text.isWord = word := by
  rw [List.takeWhile_append_of_pos h.isWord,
    (takeWhile_of_wordAt h.ended).1, List.append_nil]

theorem IsRun.dropWhile_eq
    {word behind : List Char}
    (h : IsRun word behind) :
    (word ++ behind).dropWhile Text.isWord = behind := by
  rw [List.dropWhile_append_of_pos h.isWord,
    (takeWhile_of_wordAt h.ended).2]

theorem IsRun.wordAt_append
    {word behind : List Char}
    (h : IsRun word behind)
    (text : List Char) :
    Anchor.wordAt false (word ++ text) = true := by
  cases word with
  | nil => exact absurd rfl h.ne_nil
  | cons c more => exact h.isWord c List.mem_cons_self

/- No word starts where signs stand. -/
theorem wordAt_signs
    {signs : List Char}
    (hNil : signs ≠ [])
    (h : ∀ c ∈ signs, Text.isWord c = false)
    (rest : List Char) :
    Anchor.wordAt false (signs ++ rest) = false := by
  cases signs with
  | nil => exact absurd rfl hNil
  | cons c more => exact h c List.mem_cons_self

/- Behind the leading word no word goes on. -/
theorem wordAt_dropWhile
    (text : List Char) :
    Anchor.wordAt false (text.dropWhile isWord) = false := by
  cases hRest : text.dropWhile isWord with
  | nil => rfl
  | cons c rest =>
      have hHead := List.head?_dropWhile_not isWord text
      rw [hRest] at hHead
      have hC : isWord c = false := by simpa using hHead
      exact hC

/- A text that starts in a word is a word and a rest. -/
theorem isRun_of_wordAt
    {text : List Char}
    (h : Anchor.wordAt false text = true) :
    IsRun (text.takeWhile isWord) (text.dropWhile isWord) where
  ne_nil := by
    cases text with
    | nil => cases h
    | cons c rest =>
        have hC : isWord c = true := h
        rw [List.takeWhile_cons_of_pos hC]
        exact List.cons_ne_nil _ _
  isWord := List.all_eq_true.mp List.all_takeWhile
  ended := wordAt_dropWhile text

/- A text starts with a given word and no longer one. -/
theorem takeWhile_eq_iff
    {word text : List Char}
    (h : ∀ c ∈ word, isWord c = true) :
    text.takeWhile isWord = word ↔
      word <+: text ∧
        Anchor.wordAt false (text.drop word.length) = false := by
  constructor
  · intro hWord
    subst hWord
    rw [drop_takeWhile]
    exact ⟨List.takeWhile_prefix _, wordAt_dropWhile text⟩
  · rintro ⟨⟨rest, hText⟩, hEnded⟩
    subst hText
    rw [List.drop_left] at hEnded
    rw [List.takeWhile_append_of_pos h,
      (takeWhile_of_wordAt hEnded).1, List.append_nil]

/-
  Texts are empty, or start with a sign, or with a word; what
  is said of the rest is said of what is behind any part of it.
-/
@[elab_as_elim]
theorem wordwise
    {motive : List Char → Prop}
    (nil : motive [])
    (sign : ∀ c rest, isWord c = false →
      motive rest → motive (c :: rest))
    (word : ∀ word behind, IsRun word behind →
      (∀ count, motive (behind.drop count)) →
        motive (word ++ behind))
    (text : List Char) :
    motive text := by
  induction hLength : text.length using Nat.strongRecOn
    generalizing text with
  | _ n ih =>
      subst hLength
      cases text with
      | nil => exact nil
      | cons c rest =>
          by_cases hC : isWord c = true
          · have hWord :
                Anchor.wordAt false (c :: rest) = true := hC
            have hRun := isRun_of_wordAt hWord
            rw [← List.takeWhile_append_dropWhile
              (p := isWord) (l := c :: rest)]
            refine word _ _ hRun fun count => ih _ ?_ _ rfl
            have hLess :
                ((c :: rest).dropWhile isWord).length ≤
                  rest.length := by
              rw [List.dropWhile_cons_of_pos hC]
              exact (List.dropWhile_suffix _).length_le
            rw [List.length_drop, List.length_cons]
            omega
          · exact sign c rest (Bool.eq_false_iff.mpr hC)
              (ih _ (Nat.lt_succ_self _) rest rfl)

end Text

end GradleMigration

------------------------------------------------------------
-- Rewriting Words
------------------------------------------------------------

namespace GradleMigration

namespace Text

/-
  What comes in the place of a word, and how many characters
  behind it are taken with it.
-/
structure Edit where
  put : List Char
  taken : Nat

/- Edit the words of a text from left to right. -/
def rewriteWords
    (edit : List Char → List Char → Edit) :
    List Char → List Char
| [] => []
| c :: rest =>
    if isWord c then
      let behind := rest.dropWhile isWord
      let change := edit (c :: rest.takeWhile isWord) behind
      change.put ++
        rewriteWords edit (behind.drop change.taken)
    else
      c :: rewriteWords edit rest
termination_by text => text.length
decreasing_by
  · have hLess := (List.dropWhile_suffix (l := rest)
      isWord).length_le
    simp only [List.length_drop, List.length_cons]
    omega
  · exact Nat.lt_succ_self _

variable {edit : List Char → List Char → Edit}

@[simp] theorem rewriteWords_nil :
    rewriteWords edit [] = [] := by
  rw [rewriteWords]

/- A sign is kept. -/
theorem rewriteWords_sign
    {c : Char}
    (h : isWord c = false)
    (rest : List Char) :
    rewriteWords edit (c :: rest) =
      c :: rewriteWords edit rest := by
  rw [rewriteWords, h]
  rfl

/- A word is edited. -/
theorem rewriteWords_run
    {word behind : List Char}
    (h : IsRun word behind) :
    rewriteWords edit (word ++ behind) =
      (edit word behind).put ++
        rewriteWords edit
          (behind.drop (edit word behind).taken) := by
  have hTake := h.takeWhile_eq
  have hDrop := h.dropWhile_eq
  cases word with
  | nil => exact absurd rfl h.ne_nil
  | cons c more =>
      have hC := h.isWord c List.mem_cons_self
      rw [List.cons_append] at hTake hDrop ⊢
      rw [List.takeWhile_cons_of_pos hC] at hTake
      rw [List.dropWhile_cons_of_pos hC] at hDrop
      rw [rewriteWords, if_pos hC, hTake, hDrop]

/- Signs are kept. -/
theorem rewriteWords_signs
    {signs : List Char}
    (h : ∀ c ∈ signs, isWord c = false)
    (rest : List Char) :
    rewriteWords edit (signs ++ rest) =
      signs ++ rewriteWords edit rest := by
  induction signs with
  | nil => rfl
  | cons c more ih =>
      rw [List.forall_mem_cons] at h
      rw [List.cons_append, rewriteWords_sign h.1, ih h.2]
      rfl

/- An edit puts a word at the place of a word. -/
def KeepsWords
    (edit : List Char → List Char → Edit) : Prop :=
  ∀ word behind, IsRun word behind →
    ∀ text, Anchor.wordAt false
      ((edit word behind).put ++ text) = true

/- A text starts with a word if it did before. -/
theorem wordAt_rewriteWords
    (h : KeepsWords edit)
    (text : List Char) :
    Anchor.wordAt false (rewriteWords edit text) =
      Anchor.wordAt false text := by
  induction text using wordwise with
  | nil => rw [rewriteWords_nil]
  | sign c rest hC _ => rw [rewriteWords_sign hC]; rfl
  | word word behind hRun _ =>
      rw [rewriteWords_run hRun, h word behind hRun,
        hRun.wordAt_append]

/- What is kept of the signs at the start. -/
theorem span_rewriteWords
    (h : KeepsWords edit)
    {sign : Char → Bool}
    (hSign : ∀ c, sign c = true → isWord c = false)
    (text : List Char) :
    (rewriteWords edit text).takeWhile sign =
        text.takeWhile sign ∧
      (rewriteWords edit text).dropWhile sign =
        rewriteWords edit (text.dropWhile sign) := by
  have hStop : ∀ other : List Char,
      Anchor.wordAt false other = true →
        other.takeWhile sign = [] ∧
          other.dropWhile sign = other := by
    intro other hOther
    cases other with
    | nil => cases hOther
    | cons c more =>
        have hC : isWord c = true := hOther
        have hNot : ¬ sign c = true := by
          intro hYes
          rw [hSign c hYes] at hC
          cases hC
        rw [List.takeWhile_cons_of_neg hNot,
          List.dropWhile_cons_of_neg hNot]
        exact ⟨rfl, rfl⟩
  induction text using wordwise with
  | nil => simp
  | sign c rest hC ih =>
      by_cases hYes : sign c = true
      · rw [rewriteWords_sign hC,
          List.takeWhile_cons_of_pos hYes,
          List.takeWhile_cons_of_pos hYes,
          List.dropWhile_cons_of_pos hYes,
          List.dropWhile_cons_of_pos hYes]
        exact ⟨congrArg _ ih.1, ih.2⟩
      · rw [rewriteWords_sign hC,
          List.takeWhile_cons_of_neg hYes,
          List.takeWhile_cons_of_neg hYes,
          List.dropWhile_cons_of_neg hYes,
          List.dropWhile_cons_of_neg hYes,
          rewriteWords_sign hC]
        exact ⟨rfl, rfl⟩
  | word word behind hRun _ =>
      have hBefore := hStop _ (hRun.wordAt_append behind)
      have hAfter := hStop (rewriteWords edit (word ++ behind)) (by
        rw [wordAt_rewriteWords h, hRun.wordAt_append])
      rw [hBefore.1, hBefore.2, hAfter.1, hAfter.2]
      exact ⟨rfl, rfl⟩

end Text

end GradleMigration

------------------------------------------------------------
-- Renaming Words
------------------------------------------------------------

namespace GradleMigration

namespace Text

/-
  Rename the words of a text in one pass: each of them, as
  long as it can be, together with the text behind it, gives
  what comes in its place.  All other characters are kept.
-/
def renameWords
    (rename : List Char → List Char → List Char) :
    List Char → List Char :=
  rewriteWords fun word behind => ⟨rename word behind, 0⟩

/- Words are renamed to words. -/
def NamesWords
    (rename : List Char → List Char → List Char) : Prop :=
  ∀ word behind, IsRun word behind →
    rename word behind ≠ [] ∧
      ∀ c ∈ rename word behind, isWord c = true

variable {rename other : List Char → List Char → List Char}

theorem renameWords_sign
    {c : Char}
    (h : isWord c = false)
    (rest : List Char) :
    renameWords rename (c :: rest) =
      c :: renameWords rename rest :=
  rewriteWords_sign h rest

theorem renameWords_run
    {word behind : List Char}
    (h : IsRun word behind) :
    renameWords rename (word ++ behind) =
      rename word behind ++ renameWords rename behind :=
  rewriteWords_run h

theorem renameWords_signs
    {signs : List Char}
    (h : ∀ c ∈ signs, isWord c = false)
    (rest : List Char) :
    renameWords rename (signs ++ rest) =
      signs ++ renameWords rename rest :=
  rewriteWords_signs h rest

theorem NamesWords.keepsWords
    (h : NamesWords rename) :
    KeepsWords fun word behind => ⟨rename word behind, 0⟩ := by
  intro word behind hRun text
  rcases h word behind hRun with ⟨hNil, hWord⟩
  change Anchor.wordAt false (rename word behind ++ text) = true
  cases hNew : rename word behind with
  | nil => exact absurd hNew hNil
  | cons c more =>
      rw [hNew] at hWord
      exact hWord c List.mem_cons_self

/- A new name is as long as it can be. -/
theorem NamesWords.isRun
    (h : NamesWords rename)
    {word behind : List Char}
    (hRun : IsRun word behind) :
    IsRun (rename word behind)
      (renameWords rename behind) where
  ne_nil := (h word behind hRun).1
  isWord := (h word behind hRun).2
  ended := by
    rw [renameWords, wordAt_rewriteWords h.keepsWords,
      hRun.ended]

/- Renamings that agree on words give the same text. -/
theorem renameWords_congr
    (h : ∀ word behind, rename word behind = other word behind)
    (text : List Char) :
    renameWords rename text = renameWords other text := by
  have hSame : rename = other :=
    funext fun word => funext fun behind => h word behind
  rw [hSame]

/- A word that is its own new name is kept. -/
theorem renameWords_self
    (text : List Char) :
    renameWords (fun word _ => word) text = text := by
  induction text using wordwise with
  | nil => simp [renameWords]
  | sign c rest hC ih => rw [renameWords_sign hC, ih]
  | word word behind hRun ih =>
      rw [renameWords_run hRun]
      exact congrArg _ (ih 0)

/-
  Two passes are one, if the second sees behind every word
  what was there before the first.
-/
theorem renameWords_renameWords
    (h : NamesWords rename)
    (hOther : ∀ word behind,
      other word (renameWords rename behind) =
        other word behind)
    (text : List Char) :
    renameWords other (renameWords rename text) =
      renameWords
        (fun word behind => other (rename word behind) behind)
        text := by
  induction text using wordwise with
  | nil => simp [renameWords]
  | sign c rest hC ih =>
      rw [renameWords_sign hC, renameWords_sign hC,
        renameWords_sign hC, ih]
  | word word behind hRun ih =>
      rw [renameWords_run hRun, renameWords_run (h.isRun hRun),
        renameWords_run hRun, hOther]
      exact congrArg _ (ih 0)

end Text

end GradleMigration
