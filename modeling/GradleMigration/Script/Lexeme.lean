import GradleMigration.Text.Quoted

/-
  Lexemes of a build script: string literals, comments and
  single characters, and the braces between them.

  Key definitions include:
    * `literalLength`
    * `literalEnd`
    * `commentLength`
    * `lexemeLength`
    * `closingBrace`

  A quote opens a string literal, tripled when three of it
  stand in a row.  A backslash takes the next character with
  it.  A literal in single quotes ends before a line feed even
  when it is not closed.
-/

------------------------------------------------------------
-- String Literals
------------------------------------------------------------

namespace GradleMigration

namespace Script

/-
  The number of characters up to the end of a literal whose
  opening delimiter has been read, closing one included.
-/
def literalBody
    (delimiter : List Char) : List Char → Nat
| [] => 0
| ['\\'] => 1
| '\\' :: _ :: rest => 2 + literalBody delimiter rest
| c :: rest =>
    if delimiter.isPrefixOf (c :: rest) then
      delimiter.length
    else if delimiter.length = 1 && c = '\n' then
      0
    else
      1 + literalBody delimiter rest

/- The delimiter that a quote opens, given what follows it. -/
def delimiterOf
    (quote : Char)
    (rest : List Char) : List Char :=
  if [quote, quote].isPrefixOf rest then
    [quote, quote, quote]
  else
    [quote]

/- The length of the literal opened by a quote. -/
def literalLength
    (quote : Char)
    (rest : List Char) : Nat :=
  let delimiter := delimiterOf quote rest
  delimiter.length +
    literalBody delimiter (rest.drop (delimiter.length - 1))

/-
  The offset just behind the literal that opens at `start`, or
  nothing when the text ends before it.
-/
def literalEnd
    (content : List Char)
    (start : Nat) : Option Nat :=
  match content.drop start with
  | [] => none
  | quote :: rest => some (start + literalLength quote rest)

end Script

end GradleMigration

------------------------------------------------------------
-- Comments and Lexemes
------------------------------------------------------------

namespace GradleMigration

namespace Script

/- The characters that open a string literal. -/
def isQuote
    (c : Char) : Bool :=
  c = Text.apostrophe || c = Text.doubleQuote

/- The length of a block comment behind its opening. -/
def blockCommentBody : List Char → Nat
| [] => 0
| '*' :: '/' :: _ => 2
| _ :: rest => 1 + blockCommentBody rest

/-
  The length of the comment that starts here, if one does.  A
  line comment stops before the line feed.
-/
def commentLength : List Char → Option Nat
| '/' :: '/' :: rest =>
    some (2 + (rest.takeWhile (· != '\n')).length)
| '/' :: '*' :: rest => some (2 + blockCommentBody rest)
| _ => none

/- The length of the lexeme that starts with `c`. -/
def lexemeLength
    (c : Char)
    (rest : List Char) : Nat :=
  if isQuote c then
    literalLength c rest
  else
    (commentLength (c :: rest)).getD 1

end Script

end GradleMigration

------------------------------------------------------------
-- Braces
------------------------------------------------------------

namespace GradleMigration

namespace Script

/-
  The offset of the first brace that brings the depth back to
  zero.  The first `skip` characters belong to a lexeme that
  has been looked at.
-/
def blockEndFrom :
    (skip : Nat) →
    (depth : Int) →
    (pos : Nat) →
    List Char → Option Nat
| _, _, _, [] => none
| skip + 1, depth, pos, _ :: rest =>
    blockEndFrom skip depth (pos + 1) rest
| 0, depth, pos, c :: rest =>
    if c = '\x7b' then
      blockEndFrom 0 (depth + 1) (pos + 1) rest
    else if c = '\x7d' then
      if depth = 1 then
        some pos
      else
        blockEndFrom 0 (depth - 1) (pos + 1) rest
    else
      blockEndFrom (lexemeLength c rest - 1) depth
        (pos + 1) rest

/-
  The offset of the brace that closes the one at `start`.
  Braces in string literals and comments do not count.
-/
def closingBrace
    (content : List Char)
    (start : Nat) : Option Nat :=
  blockEndFrom 0 0 start (content.drop start)

end Script

end GradleMigration
