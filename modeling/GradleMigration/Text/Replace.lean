/-
  Replacing a literal text.

  Key definitions include:
    * `replaceAll`
    * `replaceFirst`
-/

------------------------------------------------------------
-- Literal Replacement
------------------------------------------------------------

namespace GradleMigration

namespace Text

/-
  Replace occurrences from the left, never overlapping; the
  first `skip` characters belong to an occurrence already
  replaced.
-/
def replaceFrom
    (needle replacement : List Char) :
    (skip : Nat) → List Char → List Char
| _, [] => []
| skip + 1, _ :: rest =>
    replaceFrom needle replacement skip rest
| 0, c :: rest =>
    if needle.isPrefixOf (c :: rest) then
      replacement ++
        replaceFrom needle replacement
          (needle.length - 1) rest
    else
      c :: replaceFrom needle replacement 0 rest

/- Replace every occurrence of a non-empty text. -/
def replaceAll
    (needle replacement content : List Char) : List Char :=
  replaceFrom needle replacement 0 content

/- Replace the first occurrence of a non-empty text. -/
def replaceFirst
    (needle replacement : List Char) :
    List Char → List Char
| [] => []
| c :: rest =>
    if needle.isPrefixOf (c :: rest) then
      replacement ++ (c :: rest).drop needle.length
    else
      c :: replaceFirst needle replacement rest

end Text

end GradleMigration
