/-
  Lines of a text and offsets into it.

  Key definitions include:
    * `lineStart`
    * `lineStop`
    * `lineOf`
    * `lineNumber`
    * `offsetFromEnd`
    * `unifyNewlines`

  Offsets count characters from zero.  A line ends before a
  line feed or at the end of the text.
-/

------------------------------------------------------------
-- Lines Around Offsets
------------------------------------------------------------

namespace GradleMigration

namespace Text

/- The characters from `start` up to, not including, `stop`. -/
def slice
    (content : List Char)
    (start stop : Nat) : List Char :=
  (content.drop start).take (stop - start)

/- The offset at which the line that holds `start` begins. -/
def lineStart
    (content : List Char)
    (start : Nat) : Nat :=
  let before := content.take start
  before.length -
    (before.reverse.takeWhile (· != '\n')).length

/- The offset at which the line that holds `stop` ends. -/
def lineStop
    (content : List Char)
    (stop : Nat) : Nat :=
  stop + ((content.drop stop).takeWhile (· != '\n')).length

/- The whole lines that the span from `start` to `stop` meets. -/
def lineOf
    (content : List Char)
    (start stop : Nat) : List Char :=
  slice content (lineStart content start)
    (lineStop content stop)

/- The number, counted from one, of the line holding `start`. -/
def lineNumber
    (content : List Char)
    (start : Nat) : Nat :=
  (content.take start).count '\n' + 1

/-
  An offset that may be negative: negative ones count from the
  end of the text and stop at its start.
-/
def offsetFromEnd
    (size : Nat)
    (offset : Int) : Nat :=
  if offset < 0 then
    (offset + size).toNat
  else
    offset.toNat

end Text

end GradleMigration

------------------------------------------------------------
-- Line Ends
------------------------------------------------------------

namespace GradleMigration

namespace Text

/- Every CR LF pair and every lone CR becomes one LF. -/
def unifyNewlines : List Char → List Char
| [] => []
| '\r' :: '\n' :: rest => '\n' :: unifyNewlines rest
| '\r' :: rest => '\n' :: unifyNewlines rest
| c :: rest => c :: unifyNewlines rest

/- Every CR LF pair becomes one LF; a lone CR stays. -/
def joinNewlines : List Char → List Char
| [] => []
| '\r' :: '\n' :: rest => '\n' :: joinNewlines rest
| c :: rest => c :: joinNewlines rest

end Text

end GradleMigration
