import GradleMigration.Text.Blank
import GradleMigration.Text.Digit

/-
  Integers as people may write them.

  Key definitions include:
    * `tooManyDigitsText`
    * `digitGroups`
    * `looseInteger`

  A loosely written integer may stand between blanks, have a
  sign, and have single underscores between its digits, which
  may be decimal digits of any script.
-/

------------------------------------------------------------
-- Loosely Written Integers
------------------------------------------------------------

namespace GradleMigration

namespace Text

/- The most digits that an integer may be written with. -/
def maxDigits : Nat :=
  4300

/- What is said about an integer with more digits. -/
def tooManyDigitsText
    (count : Nat) : String :=
  s!"Exceeds the limit ({maxDigits} digits) for " ++
    s!"integer string conversion: value has {count} digits; " ++
    "use sys.set_int_max_str_digits() to increase the limit"

/-
  The digits of a numeral with single underscores between
  digits; `afterDigit` tells whether a digit came just before.
-/
def digitGroups
    (afterDigit : Bool) :
    List Char → Option (List Char)
| [] => if afterDigit then some [] else none
| '_' :: rest =>
    if afterDigit then digitGroups false rest else none
| c :: rest =>
    if isDigit c then
      (digitGroups true rest).map (c :: ·)
    else
      none

/- The magnitude of a loosely written numeral. -/
def looseMagnitude
    (text : List Char) : Option Nat :=
  match digitGroups false text with
  | none => none
  | some digits =>
      if digits.length ≤ maxDigits then
        some (digitsValue digits)
      else
        none

/- The value of a loosely written integer. -/
def looseInteger
    (text : List Char) : Option Int :=
  match trim text with
  | '-' :: rest =>
      (looseMagnitude rest).map fun n => -(n : Int)
  | '+' :: rest => (looseMagnitude rest).map fun n => (n : Int)
  | rest => (looseMagnitude rest).map fun n => (n : Int)

end Text

end GradleMigration
