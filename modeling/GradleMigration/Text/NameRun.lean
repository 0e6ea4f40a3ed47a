import GradleMigration.Text.Ranges

/-
  Names of characters whose codes follow one another.

  Key definitions include:
    * `NameRun`
    * `nameWords`
    * `nextName`
    * `NameRun.names`
    * `NameRun.codeOf?`

  Names that stand next to each other begin alike, so a name
  is written down as what sets it apart from the one before.
-/

------------------------------------------------------------
-- Runs of Names
------------------------------------------------------------

namespace GradleMigration

namespace Text

/-
  The names of the characters from a code on, on several
  lines.  A small letter goes before each name and tells how
  many words it has in common with the name before: none for
  `a`, one for `b`.  The words behind them are written out.
-/
structure NameRun where
  first : Nat
  lines : List String

/- The words of a name, each with the sign that ends it. -/
def nameWords
    (name : List Char) : List (List Char) :=
  name.splitBy fun c _ => c != ' ' && c != '-'

/- The name that is written down behind another. -/
def nextName
    (previous : List Char) : List Char → List Char
| [] => []
| mark :: rest =>
    let shared := mark.toNat - 'a'.toNat
    ((nameWords previous).take shared).flatten ++ rest

/- The names behind a name, as they are written down. -/
def namesFrom
    (previous : List Char) :
    List (List Char) → List (List Char)
| [] => []
| written :: rest =>
    let name := nextName previous written
    name :: namesFrom name rest

namespace NameRun

/- The names of a run in their order. -/
def names
    (run : NameRun) : List (List Char) :=
  let text := run.lines.flatMap String.toList
  namesFrom [] (text.splitBy fun _ next => !next.isLower)

/- The code of the character with a name. -/
def codeOf?
    (run : NameRun)
    (name : List Char) : Option Nat :=
  (run.names.idxOf? name).map (run.first + ·)

end NameRun

end Text

end GradleMigration
