/-
  Sets of characters given by a table of closed ranges.

  Key definitions include:
    * `Ranges`
    * `Ranges.rangeOf`
    * `Ranges.contains`
-/

------------------------------------------------------------
-- Tables of Ranges
------------------------------------------------------------

namespace GradleMigration

namespace Text

/- Closed ranges of character codes. -/
abbrev Ranges :=
  List (Nat × Nat)

namespace Ranges

/- The first range that holds the character. -/
def rangeOf
    (ranges : Ranges)
    (c : Char) : Option (Nat × Nat) :=
  ranges.find? fun range =>
    range.1 ≤ c.toNat && c.toNat ≤ range.2

/- Whether some range holds the character. -/
def contains
    (ranges : Ranges)
    (c : Char) : Bool :=
  ranges.any fun range =>
    range.1 ≤ c.toNat && c.toNat ≤ range.2

end Ranges

end Text

end GradleMigration
