import GradleMigration.Text.Digit
import Mathlib.Algebra.Group.Nat.Defs
import Mathlib.Data.List.Basic
import Mathlib.Data.List.Induction

/-
  The digits that numbers are printed with are read back as
  the same numbers.

  Main declarations:
    * `Text.isDigit_of_ascii`
    * `Text.digitsValue_eq_ofDigitChars`
    * `Text.digitsValue_toDigits`
    * `Text.digitsValue_lt`
    * `Text.head?_toDigits`
    * `Text.toList_int`
-/

------------------------------------------------------------
-- Printed Digits
------------------------------------------------------------

namespace GradleMigration

namespace Text

/- The codes of the ASCII digits. -/
theorem toNat_of_ascii
    {c : Char}
    (h : c.isDigit = true) :
    48 ≤ c.toNat ∧ c.toNat ≤ 57 := by
  simpa [Char.isDigit, ← Char.le_def, UInt32.le_iff_toNat_le]
    using h

/- The ASCII digits are digits. -/
theorem isDigit_of_ascii
    {c : Char}
    (h : c.isDigit = true) :
    isDigit c = true := by
  have hCode := toNat_of_ascii h
  unfold isDigit
  rw [if_pos (by omega)]
  exact h

/- The value of an ASCII digit. -/
theorem digitValue_of_ascii
    {c : Char}
    (h : c.isDigit = true) :
    digitValue c = some (c.toNat - '0'.toNat) := by
  have hCode := toNat_of_ascii h
  have hZero : '0'.toNat = 48 := rfl
  have hRange : digitRanges.rangeOf c = some (48, 57) := by
    unfold digitRanges Ranges.rangeOf
    rw [List.find?_cons_of_pos]
    simp [hCode]
  rw [digitValue, hRange, Option.map_some, hZero,
    Nat.mod_eq_of_lt (by omega)]

/- ASCII digits spell the number that they are read as. -/
theorem digitsValue_eq_ofDigitChars
    {digits : List Char}
    (h : ∀ c ∈ digits, c.isDigit = true) :
    digitsValue digits = Nat.ofDigitChars 10 digits 0 := by
  unfold digitsValue
  rw [Nat.ofDigitChars_eq_foldl]
  apply List.foldl_ext
  intro n c hC
  rw [digitValue_of_ascii (h c hC), Option.getD_some]

/- The digits of a number spell it. -/
theorem digitsValue_toDigits
    (n : Nat) :
    digitsValue (Nat.toDigits 10 n) = n := by
  rw [digitsValue_eq_ofDigitChars fun c hC =>
    Nat.isDigit_of_mem_toDigits (by decide) (by decide) hC]
  exact Nat.ofDigitChars_ten_toDigits

/- So many digits spell a number below that power of ten. -/
theorem digitsValue_lt
    (digits : List Char) :
    digitsValue digits < 10 ^ digits.length := by
  induction digits using List.reverseRecOn with
  | nil => decide
  | append_singleton digits c ih =>
      have hLast : (digitValue c).getD 0 < 10 := by
        unfold digitValue
        cases digitRanges.rangeOf c with
        | none => exact Nat.zero_lt_succ _
        | some range => exact Nat.mod_lt _ (by decide)
      have hMore : digitsValue (digits ++ [c]) =
          10 * digitsValue digits + (digitValue c).getD 0 := by
        unfold digitsValue
        rw [List.foldl_append]
        rfl
      rw [hMore, List.length_append, List.length_singleton,
        Nat.pow_succ]
      omega

/- Numbers are printed in ASCII digits. -/
theorem isDigit_of_mem_digits
    {n : Nat}
    {c : Char}
    (h : c ∈ Nat.toDigits 10 n) :
    c.isDigit = true :=
  Nat.isDigit_of_mem_toDigits (by decide) (by decide) h

/- No zero leads the digits of another number. -/
theorem head?_toDigits
    {n : Nat}
    (h : 0 < n) :
    (Nat.toDigits 10 n).head? ≠ some '0' := by
  induction n using Nat.strongRecOn with
  | ind n ih =>
      by_cases hSmall : n < 10
      · have hDigit : ∀ d < 10, 0 < d →
            d.digitChar ≠ '0' := by
          decide
        rw [Nat.toDigits_of_lt_base hSmall, List.head?_cons]
        intro hEq
        exact hDigit n hSmall h (Option.some.inj hEq)
      · have hLess : n / 10 < n :=
          Nat.div_lt_self h (by decide)
        have hPos : 0 < n / 10 :=
          Nat.div_pos (Nat.le_of_not_lt hSmall) (by decide)
        rw [Nat.toDigits_of_base_le (by decide)
          (Nat.le_of_not_lt hSmall), List.head?_append]
        cases hHead : (Nat.toDigits 10 (n / 10)).head? with
        | none =>
            exact absurd (List.head?_eq_none_iff.mp hHead)
              Nat.toDigits_ne_nil
        | some c =>
            rw [Option.some_or, ← hHead]
            exact ih (n / 10) hLess hPos

/- The sign of a printed integer. -/
def intSign
    (n : Int) : List Char :=
  if n < 0 then ['-'] else []

/- An integer is printed as its sign and its digits. -/
theorem toList_int
    (n : Int) :
    (toString n).toList =
      intSign n ++ Nat.toDigits 10 n.natAbs := by
  rw [Int.toString_eq_repr]
  cases n with
  | ofNat n => simp [Int.repr, intSign]
  | negSucc n =>
      simp [Int.repr, intSign, Int.negSucc_lt_zero]

end Text

end GradleMigration
