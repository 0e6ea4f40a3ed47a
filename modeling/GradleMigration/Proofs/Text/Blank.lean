import GradleMigration.Script.Lexeme
import GradleMigration.Text.Blank
import GradleMigration.Text.Word
import Mathlib.Data.List.Basic

/-
  What blank characters are not: other characters, parts of
  words, and quotes.

  Main declarations:
    * `Text.Ranges.mem_codes`
    * `Text.ne_of_isBlank`
    * `Text.isWord_of_isBlank`
    * `Script.isQuote_of_isBlank`
-/

------------------------------------------------------------
-- Tables of Characters
------------------------------------------------------------

namespace GradleMigration

namespace Text

/- The codes in a table of ranges. -/
def Ranges.codes
    (ranges : Ranges) : List Nat :=
  ranges.flatMap fun range =>
    List.range' range.1 (range.2 + 1 - range.1)

/- A character that a table holds has its code there. -/
theorem Ranges.mem_codes
    {ranges : Ranges}
    {c : Char}
    (h : ranges.contains c = true) :
    c.toNat ∈ ranges.codes := by
  rcases List.any_eq_true.mp h with ⟨range, hRange, hIn⟩
  rw [Bool.and_eq_true, decide_eq_true_eq, decide_eq_true_eq]
    at hIn
  refine List.mem_flatMap.mpr ⟨range, hRange, ?_⟩
  rw [List.mem_range'_1]
  omega

end Text

end GradleMigration

------------------------------------------------------------
-- Blanks and Other Characters
------------------------------------------------------------

namespace GradleMigration

namespace Text

/- A blank is none of the other characters. -/
theorem ne_of_isBlank
    {c d : Char}
    (h : isBlank c = true)
    (hOther : isBlank d = false) :
    c ≠ d := by
  intro hEq
  rw [hEq, hOther] at h
  cases h

/- No blank is in a word. -/
theorem isWord_of_isBlank
    {c : Char}
    (h : isBlank c = true) :
    isWord c = false := by
  have hAll :
      ∀ code ∈ blankRanges.codes,
        isWord (Char.ofNat code) = false := by
    decide +kernel
  have hHere := hAll c.toNat (Ranges.mem_codes h)
  rw [Char.ofNat_toNat] at hHere
  exact hHere

end Text

/- No blank is a quote. -/
theorem Script.isQuote_of_isBlank
    {c : Char}
    (h : Text.isBlank c = true) :
    isQuote c = false := by
  unfold isQuote
  rw [Bool.or_eq_false_iff, decide_eq_false_iff_not,
    decide_eq_false_iff_not]
  exact ⟨Text.ne_of_isBlank h (by decide),
    Text.ne_of_isBlank h (by decide)⟩

end GradleMigration
