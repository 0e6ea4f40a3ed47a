import GradleMigration.File.Tree

/-
  Patterns for the names in a directory.

  Key definitions include:
    * `GlobPart`
    * `Glob.parse`
    * `Glob.matchesName`
    * `FileTree.glob`

  A star stands for any text, a question mark for any one
  character, brackets for one character of a set, and with an
  exclamation mark for one that is not in the set.
-/

------------------------------------------------------------
-- Patterns
------------------------------------------------------------

namespace GradleMigration

/- One piece of a pattern. -/
inductive GlobPart where
| exactly (c : Char)
| anyOne
| anyRun
| oneOf (negated : Bool) (ranges : List (Char × Char))
deriving DecidableEq, Repr

namespace GlobPart

/- Whether a piece stands for a character. -/
def accepts
    (part : GlobPart)
    (c : Char) : Bool :=
  match part with
  | .exactly d => c == d
  | .anyOne => true
  | .anyRun => true
  | .oneOf negated ranges =>
      negated != ranges.any fun (low, high) =>
        decide (low ≤ c) && decide (c ≤ high)

end GlobPart

/- A pattern for names. -/
abbrev Glob :=
  List GlobPart

namespace Glob

/- Whether a pattern stands for a name. -/
def matchesName : Glob → List Char → Bool
| [], name => name.isEmpty
| .anyRun :: rest, name =>
    (List.range (name.length + 1)).any fun count =>
      matchesName rest (name.drop count)
| _ :: _, [] => false
| part :: rest, c :: name =>
    part.accepts c && matchesName rest name

end Glob

end GradleMigration

------------------------------------------------------------
-- Sets of Characters
------------------------------------------------------------

namespace GradleMigration

namespace Glob

/-
  A character of a set, or the dash between the ends of a
  range.
-/
inductive SetMark where
| char (c : Char)
| dash
deriving DecidableEq, Repr

/-
  Cut the text of a set at the dashes that make ranges.  A dash
  needs a character before it, `skip` is how many characters to
  pass before the next one is looked for, and `chunk` is what
  has been passed since the last cut, in reverse.
-/
def chunks
    (skip : Nat)
    (chunk : List Char) :
    List Char → List (List Char)
| [] => [chunk.reverse]
| c :: rest =>
    match skip with
    | skip + 1 => chunks skip (c :: chunk) rest
    | 0 =>
        if c = '-' then
          chunk.reverse :: chunks 2 [] rest
        else
          chunks 0 (c :: chunk) rest

/- A cut at the very end is a dash of its own. -/
def mendLast : List (List Char) → List (List Char)
| [] => []
| [chunk] => [chunk]
| [chunk, []] => [chunk ++ ['-']]
| chunk :: more => chunk :: mendLast more

/- Join a chunk to the next one where their range is empty. -/
def joinEmptyRange
    (chunk : List Char) :
    List (List Char) → List (List Char)
| [] => [chunk]
| next :: more =>
    match chunk.getLast?, next with
    | some low, high :: tail =>
        if high < low then
          (chunk.dropLast ++ tail) :: more
        else
          chunk :: next :: more
    | _, _ => chunk :: next :: more

/- The marks of a set, without empty ranges. -/
def setMarks
    (text : List Char) : List SetMark :=
  let skip := if text.head? = some '!' then 2 else 1
  let cut := mendLast (chunks skip [] text)
  let joined := cut.foldr joinEmptyRange []
  let marked := joined.map fun chunk => chunk.map SetMark.char
  [SetMark.dash].intercalate marked

/- The ranges of a set. -/
def rangesOf : List SetMark → List (Char × Char)
| [] => []
| .dash :: rest => ('-', '-') :: rangesOf rest
| .char low :: .dash :: .char high :: rest =>
    (low, high) :: rangesOf rest
| .char c :: rest => (c, c) :: rangesOf rest

/- The piece for the text between brackets. -/
def setPart
    (text : List Char) : GlobPart :=
  match setMarks text with
  | .char '!' :: rest => .oneOf true (rangesOf rest)
  | marks => .oneOf false (rangesOf marks)

/-
  The text of the set that starts here and what follows its
  closing bracket.  A bracket right at the start, or right
  after an exclamation mark, belongs to the set.
-/
def setText
    (text : List Char) : Option (List Char × List Char) :=
  let lead :=
    match text with
    | '!' :: ']' :: _ => 2
    | '!' :: _ => 1
    | ']' :: _ => 1
    | _ => 0
  let body := (text.drop lead).takeWhile (· != ']')
  match text.drop (lead + body.length) with
  | [] => none
  | _ :: rest => some (text.take lead ++ body, rest)

end Glob

end GradleMigration

------------------------------------------------------------
-- Reading a Pattern
------------------------------------------------------------

namespace GradleMigration

namespace Glob

/-
  Read a pattern; the first `skip` characters belong to a set
  that has been read.
-/
def parseFrom : (skip : Nat) → List Char → Glob
| _, [] => []
| skip + 1, _ :: rest => parseFrom skip rest
| 0, '*' :: rest => .anyRun :: parseFrom 0 rest
| 0, '?' :: rest => .anyOne :: parseFrom 0 rest
| 0, '[' :: rest =>
    match setText rest with
    | none => .exactly '[' :: parseFrom 0 rest
    | some (text, _) =>
        setPart text :: parseFrom (text.length + 1) rest
| 0, c :: rest => .exactly c :: parseFrom 0 rest

/- The pattern that a text writes. -/
def parse
    (text : List Char) : Glob :=
  parseFrom 0 text

end Glob

end GradleMigration

------------------------------------------------------------
-- Directories
------------------------------------------------------------

namespace GradleMigration

/- Why a directory cannot be searched. -/
inductive GlobFault where
| doubleStar
| file (fault : FileFault)
deriving DecidableEq, Repr

/- The wording of a fault. -/
def GlobFault.message : GlobFault → String
| .doubleStar =>
    "Invalid pattern: '**' can only be an entire path component"
| .file fault => fault.message

/- Whether two stars stand side by side in a text. -/
def hasDoubleStar : List Char → Bool
| '*' :: '*' :: _ => true
| _ :: rest => hasDoubleStar rest
| [] => false

namespace FileTree

/-
  The names in a directory that a pattern stands for.  What is
  not a directory has none.
-/
def glob
    (tree : FileTree)
    (path : Path)
    (text : List Char) : Except GlobFault (List Name) :=
  if hasDoubleStar text then
    .error .doubleStar
  else
    match tree.isDirectory path with
    | .error fault => .error (.file fault)
    | .ok false => .ok []
    | .ok true =>
        match tree.locate path with
        | .error cause => .error (.file (.system cause path))
        | .ok location =>
            .ok ((tree.namesIn location).filter fun name =>
              (Glob.parse text).matchesName
                name.text.toList)

end FileTree

end GradleMigration
