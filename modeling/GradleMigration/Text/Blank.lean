import GradleMigration.Text.Ranges

/-
  Blank characters and trimming.

  Key definitions include:
    * `blankRanges`
    * `isBlank`
    * `isAsciiBlank`
    * `trimLeft`
    * `trim`

  The blanks are the white space of every script together
  with the information separators U+001C to U+001F.
-/

------------------------------------------------------------
-- Blank Characters
------------------------------------------------------------

namespace GradleMigration

namespace Text

/- The blank characters, as closed ranges in order. -/
def blankRanges : Ranges :=
  [ (0x09, 0x0D), (0x1C, 0x20), (0x85, 0x85),
    (0xA0, 0xA0), (0x1680, 0x1680), (0x2000, 0x200A),
    (0x2028, 0x2029), (0x202F, 0x202F), (0x205F, 0x205F),
    (0x3000, 0x3000) ]

/- A blank character of any script. -/
def isBlank
    (c : Char) : Bool :=
  blankRanges.contains c

/- Space, tab, line feed, carriage return, VT and FF. -/
def isAsciiBlank
    (c : Char) : Bool :=
  c == ' ' || (0x09 ≤ c.toNat && c.toNat ≤ 0x0D)

end Text

end GradleMigration

------------------------------------------------------------
-- Trimming
------------------------------------------------------------

namespace GradleMigration

namespace Text

/- The text without its leading blanks. -/
def trimLeft
    (text : List Char) : List Char :=
  text.dropWhile isBlank

/- The text without its leading and trailing blanks. -/
def trim
    (text : List Char) : List Char :=
  (trimLeft (trimLeft text).reverse).reverse

end Text

end GradleMigration
