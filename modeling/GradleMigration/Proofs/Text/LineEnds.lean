import GradleMigration.Proofs.Text.Lines
import Mathlib.Data.List.Chain

/-
  The two styles of line ends.

  A text with line feeds becomes one with CR LF pairs.  A scan
  that treats both characters alike does the same in either
  of them, and so does one that looks for other characters.

  Main declarations:
    * `Text.InLine`
    * `Text.crLf`
    * `Text.crLf_append`
    * `Text.span_crLf` and `Text.all_crLf`
    * `Text.isPrefixOf_crLf`
    * `Text.Unescaped`
-/

------------------------------------------------------------
-- Texts with CR LF Pairs
------------------------------------------------------------

namespace GradleMigration

namespace Text

/- A character that is in no line end. -/
def InLine
    (c : Char) : Prop :=
  c ≠ '\r' ∧ c ≠ '\n'

instance :
    DecidablePred InLine :=
  fun c => inferInstanceAs (Decidable (c ≠ '\r' ∧ c ≠ '\n'))

/- The characters of a line. -/
theorem forall_inLine
    {text : List Char}
    (hReturn : '\r' ∉ text)
    (hFeed : '\n' ∉ text) :
    ∀ c ∈ text, InLine c := by
  intro c hC
  exact ⟨fun hEq => hReturn (hEq ▸ hC),
    fun hEq => hFeed (hEq ▸ hC)⟩

/- Every line feed becomes a CR LF pair. -/
def crLf
    (text : List Char) : List Char :=
  text.flatMap fun c =>
    if c = '\n' then ['\r', '\n'] else [c]

@[simp] theorem crLf_nil :
    crLf [] = [] :=
  rfl

@[simp] theorem crLf_feed
    (rest : List Char) :
    crLf ('\n' :: rest) = '\r' :: '\n' :: crLf rest :=
  rfl

theorem crLf_cons
    {c : Char}
    (h : c ≠ '\n')
    (rest : List Char) :
    crLf (c :: rest) = c :: crLf rest := by
  unfold crLf
  rw [List.flatMap_cons, if_neg h]
  rfl

@[simp] theorem crLf_append
    (first second : List Char) :
    crLf (first ++ second) = crLf first ++ crLf second :=
  List.flatMap_append

/- A text on one line stays as it is. -/
theorem crLf_of_not_mem
    {text : List Char}
    (h : '\n' ∉ text) :
    crLf text = text := by
  induction text with
  | nil => rfl
  | cons c rest ih =>
      rw [List.mem_cons, not_or] at h
      rw [crLf_cons (Ne.symm h.1), ih h.2]

theorem crLf_line
    {line : List Char}
    (h : '\n' ∉ line)
    (rest : List Char) :
    crLf (line ++ '\n' :: rest) =
      (line ++ ['\r']) ++ '\n' :: crLf rest := by
  rw [crLf_append, crLf_of_not_mem h, crLf_feed,
    List.append_assoc]
  rfl

theorem crLf_eq_nil_iff
    {text : List Char} :
    crLf text = [] ↔ text = [] := by
  cases text with
  | nil => exact Iff.rfl
  | cons c rest =>
      by_cases hC : c = '\n'
      · subst hC
        simp
      · simp [crLf_cons hC]

/- The first character, if it is in no line end. -/
theorem head?_crLf
    {c : Char}
    (hReturn : c ≠ '\r')
    (hFeed : c ≠ '\n')
    (text : List Char) :
    (crLf text).head? = some c ↔ text.head? = some c := by
  cases text with
  | nil => rfl
  | cons d rest =>
      by_cases hD : d = '\n'
      · subst hD
        simp [Ne.symm hReturn, Ne.symm hFeed]
      · rw [crLf_cons hD]
        rfl

end Text

end GradleMigration

------------------------------------------------------------
-- Scans of Both Styles
------------------------------------------------------------

namespace GradleMigration

namespace Text

/-
  A test that does not tell the characters of a line end apart
  holds for as long in either style.
-/
theorem span_crLf
    {test : Char → Bool}
    (h : test '\r' = test '\n')
    (text : List Char) :
    (crLf text).takeWhile test = crLf (text.takeWhile test) ∧
      (crLf text).dropWhile test =
        crLf (text.dropWhile test) := by
  induction text with
  | nil => exact ⟨rfl, rfl⟩
  | cons c rest ih =>
      by_cases hC : c = '\n'
      · subst hC
        rw [crLf_feed]
        cases hTest : test '\n' with
        | false =>
            rw [hTest] at h
            simp [h, hTest]
        | true =>
            rw [hTest] at h
            simp [h, hTest, ih]
      · rw [crLf_cons hC]
        cases hTest : test c with
        | false => simp [hTest, crLf_cons hC]
        | true => simp [hTest, crLf_cons hC, ih]

theorem all_crLf
    {test : Char → Bool}
    (h : test '\r' = test '\n')
    (text : List Char) :
    (crLf text).all test = text.all test := by
  induction text with
  | nil => rfl
  | cons c rest ih =>
      by_cases hC : c = '\n'
      · subst hC
        simp [h, ih]
      · simp [crLf_cons hC, ih]

/- A text starts with a word in either style. -/
theorem isPrefixOf_crLf
    {word : List Char}
    (hReturn : '\r' ∉ word)
    (hFeed : '\n' ∉ word)
    (text : List Char) :
    word.isPrefixOf (crLf text) = word.isPrefixOf text := by
  induction word generalizing text with
  | nil => rfl
  | cons c more ih =>
      rw [List.mem_cons, not_or] at hReturn hFeed
      cases text with
      | nil => rfl
      | cons d rest =>
          by_cases hD : d = '\n'
          · subst hD
            have hNotReturn : (c == '\r') = false :=
              beq_false_of_ne (Ne.symm hReturn.1)
            have hNotFeed : (c == '\n') = false :=
              beq_false_of_ne (Ne.symm hFeed.1)
            rw [crLf_feed, List.isPrefixOf, List.isPrefixOf,
              hNotReturn, hNotFeed]
            rfl
          · rw [crLf_cons hD, List.isPrefixOf, List.isPrefixOf,
              ih hReturn.2 hFeed.2]

end Text

end GradleMigration

------------------------------------------------------------
-- Escaped Line Feeds
------------------------------------------------------------

namespace GradleMigration

namespace Text

/- No backslash stands directly before a line feed. -/
def Unescaped
    (text : List Char) : Prop :=
  text.IsChain fun c d => c = '\\' → d ≠ '\n'

instance
    (text : List Char) :
    Decidable (Unescaped text) := by
  unfold Unescaped
  infer_instance

/- A text without backslashes escapes nothing. -/
theorem unescaped_append
    {first second : List Char}
    (hFirst : '\\' ∉ first)
    (hSecond : Unescaped second) :
    Unescaped (first ++ second) := by
  induction first with
  | nil => exact hSecond
  | cons c more ih =>
      rw [List.mem_cons, not_or] at hFirst
      unfold Unescaped at ih ⊢
      rw [List.cons_append, List.isChain_cons]
      refine ⟨fun d _ hC => ?_, ih hFirst.2⟩
      exact absurd hC.symm hFirst.1

end Text

end GradleMigration
