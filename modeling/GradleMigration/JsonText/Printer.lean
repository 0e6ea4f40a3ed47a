import GradleMigration.Data.Datum
import GradleMigration.Text.Quoted

/-
  Writing data as JSON.

  Key definitions include:
    * `JsonText.printString`
    * `JsonText.print`

  Every item and every entry stands on a line of its own, two
  blanks further in than what holds it.
-/

------------------------------------------------------------
-- Strings
------------------------------------------------------------

namespace GradleMigration

namespace JsonText

/- How a character is written in a string. -/
def printChar
    (c : Char) : List Char :=
  if c = Text.doubleQuote || c = '\\' then ['\\', c]
  else if c = '\x08' then ['\\', 'b']
  else if c = '\x0c' then ['\\', 'f']
  else if c = '\n' then ['\\', 'n']
  else if c = '\r' then ['\\', 'r']
  else if c = '\t' then ['\\', 't']
  else if c.toNat < 0x20 then
    '\\' :: 'u' :: Text.hexDigits 4 c.toNat
  else
    [c]

/- A text as a string. -/
def printString
    (text : String) : List Char :=
  Text.doubleQuote ::
    text.toList.flatMap printChar ++ [Text.doubleQuote]

end JsonText

end GradleMigration

------------------------------------------------------------
-- Values
------------------------------------------------------------

namespace GradleMigration

namespace JsonText

/- A new line, so many blanks in. -/
def newLine
    (indent : Nat) : List Char :=
  '\n' :: List.replicate indent ' '

/- A number that is not an integer. -/
def printReal : RealValue → List Char
| .whole n => (toString n).toList ++ ['.', '0']
| _ => "NaN".toList

mutual

/- A value whose lines are so many blanks in. -/
def printAt
    (indent : Nat) : Datum → List Char
| .null => "null".toList
| .bool true => "true".toList
| .bool false => "false".toList
| .int n => (toString n).toList
| .real value => printReal value
| .text text => printString text
| .moment => "null".toList
| .list [] => ['[', ']']
| .list (item :: items) =>
    '[' :: newLine (indent + 2) ++
      printAt (indent + 2) item ++
      printItems (indent + 2) items ++
      newLine indent ++ [']']
| .table [] => ['\x7b', '\x7d']
| .table ((name, value) :: entries) =>
    '\x7b' :: newLine (indent + 2) ++
      printString name ++ [':', ' '] ++
      printAt (indent + 2) value ++
      printEntries (indent + 2) entries ++
      newLine indent ++ ['\x7d']

/- Further items of a list. -/
def printItems
    (indent : Nat) : List Datum → List Char
| [] => []
| item :: items =>
    ',' :: newLine indent ++ printAt indent item ++
      printItems indent items

/- Further entries of a table. -/
def printEntries
    (indent : Nat) : List (String × Datum) → List Char
| [] => []
| (name, value) :: entries =>
    ',' :: newLine indent ++ printString name ++
      [':', ' '] ++ printAt indent value ++
      printEntries indent entries

end

/- A value as JSON. -/
def print
    (value : Datum) : List Char :=
  printAt 0 value

end JsonText

end GradleMigration
