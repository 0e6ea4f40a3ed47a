import GradleMigration.Pattern.Basic

/-
  Modes that change what the parts of a pattern mean.

  Key definitions include:
    * `Mode`
    * `Modes`
    * `Modes.combine`
    * `Modes.folding`
    * `Modes.literal`
    * `Modes.lineStart`
-/

------------------------------------------------------------
-- Modes
------------------------------------------------------------

namespace GradleMigration

/- The modes that a pattern can switch. -/
inductive Mode where
| ignoreCase
| locale
| multiLine
| dotAll
| verbose
| ascii
| bare
| unicode
deriving DecidableEq, Repr

/- The letter of each mode. -/
def Mode.ofLetter : Char → Option Mode
| 'i' => some .ignoreCase
| 'L' => some .locale
| 'm' => some .multiLine
| 's' => some .dotAll
| 'x' => some .verbose
| 'a' => some .ascii
| 't' => some .bare
| 'u' => some .unicode
| _ => none

/- The modes that choose the alphabet of classes. -/
def Mode.isAlphabet
    (mode : Mode) : Bool :=
  mode = .locale || mode = .ascii || mode = .unicode

/- The modes in force at a place of a pattern. -/
abbrev Modes :=
  List Mode

namespace Modes

/-
  The modes inside a scope that switches some on and some
  off; a newly chosen alphabet replaces the one in force.
-/
def combine
    (modes on off : Modes) : Modes :=
  let kept :=
    if on.any Mode.isAlphabet then
      modes.filter (!·.isAlphabet)
    else
      modes
  (kept ++ on).filter (!off.contains ·)

/- Whether classes have their ASCII members only. -/
def ascii
    (modes : Modes) : Bool :=
  modes.contains .ascii

/- How letters are compared. -/
def folding
    (modes : Modes) : Folding :=
  if modes.contains .ignoreCase then
    if modes.ascii then .ascii else .full
  else
    .exact

end Modes

end GradleMigration

------------------------------------------------------------
-- Parts under Modes
------------------------------------------------------------

namespace GradleMigration

namespace Modes

/- A set of characters. -/
def set
    (modes : Modes)
    (negated : Bool)
    (items : List SetItem) : Pattern :=
  .one ⟨negated, items, modes.folding⟩

/- One literal character. -/
def literal
    (modes : Modes)
    (c : Char) : Pattern :=
  modes.set false [.char c]

/- Any character; without `dotAll` the line feed is not one. -/
def anyChar
    (modes : Modes) : Pattern :=
  if modes.contains .dotAll then
    .one ⟨true, [], .exact⟩
  else
    .one ⟨true, [.char '\n'], .exact⟩

/- The start of the text, or of each line. -/
def lineStart
    (modes : Modes) : Anchor :=
  if modes.contains .multiLine then .lineStart else .textStart

/- The end of the text, or of each line. -/
def lineEnd
    (modes : Modes) : Anchor :=
  if modes.contains .multiLine then .lineEnd else .lastLineEnd

end Modes

end GradleMigration
