import GradleMigration.Script.Lexeme
import GradleMigration.Text.Blank
import GradleMigration.Text.Lines
import GradleMigration.Text.Word

/-
  Tasks whose actions are appended with the shift operator.

  Key definitions include:
    * `TaskHeader`
    * `shiftHeader`
    * `closureHeader`
    * `closureHeaders`
    * `migrateTask`
    * `migrateTasks`
    * `migrateHeaders`

  A header is the word `task`, blanks, a name, the operator
  `<<` and, for a closure, an opening brace, with blanks
  allowed between the last three.
-/

------------------------------------------------------------
-- Headers
------------------------------------------------------------

namespace GradleMigration

namespace Script

/- The word that declares a task. -/
def taskWord : List Char :=
  "task".toList

/-
  A header at the front of a text: the name of the task and
  what follows the operator.
-/
def shiftHeader
    (text : List Char) :
    Option (List Char × List Char) :=
  if taskWord.isPrefixOf text then
    let rest := text.drop taskWord.length
    let named := rest.dropWhile Text.isBlank
    let name := named.takeWhile Text.isWord
    if named.length = rest.length || name.isEmpty then
      none
    else
      match (named.dropWhile Text.isWord).dropWhile
          Text.isBlank with
      | '<' :: '<' :: behind => some (name, behind)
      | _ => none
  else
    none

/-
  A closure header at the front of a text: the name of the
  task and what follows the opening brace.
-/
def closureHeader
    (text : List Char) :
    Option (List Char × List Char) :=
  match shiftHeader text with
  | none => none
  | some (name, behind) =>
      match behind.dropWhile Text.isBlank with
      | '\x7b' :: body => some (name, body)
      | _ => none

/- A closure header: where it starts, its name and length. -/
structure TaskHeader where
  start : Nat
  name : List Char
  size : Nat
deriving DecidableEq, Repr

/- The offset just behind a header, after its brace. -/
def TaskHeader.stop
    (header : TaskHeader) : Nat :=
  header.start + header.size

/-
  The closure header at the front of a text that stands at
  offset `pos`; a header starts a word.
-/
def headerHere
    (insideWord : Bool)
    (pos : Nat)
    (text : List Char) : Option TaskHeader :=
  if insideWord then
    none
  else
    (closureHeader text).map fun (name, body) =>
      ⟨pos, name, text.length - body.length⟩

/- The closure header that starts at an offset, if any. -/
def closureHeaderAt
    (content : List Char)
    (pos : Nat) : Option TaskHeader :=
  let insideWord :=
    ((content.take pos).getLast?.map Text.isWord).getD false
  headerHere insideWord pos (content.drop pos)

/-
  The closure headers from a place on, from left to right and
  never overlapping.  The first `skip` characters belong to a
  header that has been found.
-/
def headersFrom :
    (skip : Nat) →
    (insideWord : Bool) →
    (pos : Nat) →
    List Char → List TaskHeader
| _, _, _, [] => []
| skip + 1, _, pos, c :: rest =>
    headersFrom skip (Text.isWord c) (pos + 1) rest
| 0, insideWord, pos, c :: rest =>
    match headerHere insideWord pos (c :: rest) with
    | none => headersFrom 0 (Text.isWord c) (pos + 1) rest
    | some header =>
        header ::
          headersFrom (header.size - 1) (Text.isWord c)
            (pos + 1) rest

/- All closure headers of a text. -/
def closureHeaders
    (content : List Char) : List TaskHeader :=
  headersFrom 0 false 0 content

end Script

end GradleMigration

------------------------------------------------------------
-- Migrating Tasks
------------------------------------------------------------

namespace GradleMigration

namespace Script

/- The header that a task gets in place of the operator. -/
def newHeader
    (name : List Char) : List Char :=
  "task ".toList ++ name ++ " \x7b doLast \x7b".toList

/-
  Migrate the task of one header: the header is replaced and a
  brace is added behind the one that closes its body.  Without
  such a brace nothing changes.
-/
def migrateTask
    (header : TaskHeader)
    (content : List Char) : List Char :=
  match closingBrace content (header.stop - 1) with
  | none => content
  | some close =>
      content.take header.start ++
        newHeader header.name ++
        Text.slice content header.stop (close + 1) ++
        " \x7d".toList ++
        content.drop (close + 1)

/-
  Migrate all tasks, the last first, so that the offsets of
  earlier headers stay valid.
-/
def migrateTasks
    (content : List Char) : List Char :=
  (closureHeaders content).foldr migrateTask content

/-
  Replace every header, with an opening brace or without, by
  the new one.  The first `skip` characters belong to a header
  that has been replaced.
-/
def migrateHeadersFrom :
    (skip : Nat) →
    (insideWord : Bool) →
    List Char → List Char
| _, _, [] => []
| skip + 1, _, c :: rest =>
    migrateHeadersFrom skip (Text.isWord c) rest
| 0, insideWord, c :: rest =>
    match if insideWord then none
        else shiftHeader (c :: rest) with
    | none =>
        c :: migrateHeadersFrom 0 (Text.isWord c) rest
    | some (name, behind) =>
        let tail := behind.dropWhile Text.isBlank
        let left :=
          if tail.head? = some '\x7b' then
            tail.length - 1
          else
            tail.length
        newHeader name ++
          migrateHeadersFrom (rest.length - left)
            (Text.isWord c) rest

/- Replace the headers of a text, whatever their bodies. -/
def migrateHeaders
    (content : List Char) : List Char :=
  migrateHeadersFrom 0 false content

end Script

end GradleMigration
