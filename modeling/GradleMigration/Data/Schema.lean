import GradleMigration.Data.Datum
import GradleMigration.Rule.Severity
import GradleMigration.Text.Integer

/-
  Checking data against a schema.

  Key definitions include:
    * `Step`
    * `IssueKind`
    * `Issue`
    * `Checked`
    * `Schema.required`
    * `Schema.optional`
    * `Schema.text`
    * `Schema.bool`
    * `Schema.int`
    * `Schema.intAtLeast`
    * `Schema.listOf`

  A check gives a value or every issue of the data, in the
  order in which the schema names the parts.
-/

------------------------------------------------------------
-- Issues
------------------------------------------------------------

namespace GradleMigration

/- A step from a piece of data into one of its parts. -/
inductive Step where
| field (name : String)
| index (position : Nat)
deriving DecidableEq, Repr

/- What is wrong with a part. -/
inductive IssueKind where
| missing
| stringType
| enum
| boolParsing
| boolType
| intParsing
| intParsingSize
| intFromFloat
| intType
| finiteNumber
| tooSmall
| listType
| tupleType
| tooLong
| modelType
| jsonInvalid
deriving DecidableEq, Repr

/- The identifier of an issue kind. -/
def IssueKind.name : IssueKind → String
| .missing => "missing"
| .stringType => "string_type"
| .enum => "enum"
| .boolParsing => "bool_parsing"
| .boolType => "bool_type"
| .intParsing => "int_parsing"
| .intParsingSize => "int_parsing_size"
| .intFromFloat => "int_from_float"
| .intType => "int_type"
| .finiteNumber => "finite_number"
| .tooSmall => "greater_than_equal"
| .listType => "list_type"
| .tupleType => "tuple_type"
| .tooLong => "too_long"
| .modelType => "model_type"
| .jsonInvalid => "json_invalid"

/- An issue and where it is. -/
structure Issue where
  location : List Step
  kind : IssueKind
deriving DecidableEq, Repr

/- How many issues there are, in words. -/
def issueCount
    (issues : List Issue)
    (schema : String) : String :=
  let plural := if issues.length = 1 then "" else "s"
  s!"{issues.length} validation error{plural} for {schema}"

end GradleMigration

------------------------------------------------------------
-- Checked Values
------------------------------------------------------------

namespace GradleMigration

/- A value, or the issues that stand in its way. -/
inductive Checked (α : Type) where
| good (value : α)
| bad (issues : List Issue)
deriving DecidableEq, Repr

namespace Checked

variable {α β : Type}

/- Apply a checked function; the issues of both add up. -/
def apply
    (f : Checked (α → β))
    (x : Checked α) : Checked β :=
  match f, x with
  | .good f, .good a => .good (f a)
  | .good _, .bad issues => .bad issues
  | .bad issues, .good _ => .bad issues
  | .bad issues, .bad more => .bad (issues ++ more)

instance : Applicative Checked where
  pure := .good
  seq f x := f.apply (x ())

/- Move issues one step outwards. -/
def under
    (step : Step) : Checked α → Checked α
| .good a => .good a
| .bad issues =>
    .bad (issues.map fun issue =>
      { issue with location := step :: issue.location })

/- A single issue right here. -/
def issue
    (kind : IssueKind) : Checked α :=
  .bad [⟨[], kind⟩]

end Checked

end GradleMigration

------------------------------------------------------------
-- Scalars
------------------------------------------------------------

namespace GradleMigration

namespace Schema

/- A text. -/
def text : Datum → Checked String
| .text s => .good s
| _ => .issue .stringType

/- A text or nothing. -/
def textOrNull : Datum → Checked (Option String)
| .null => .good none
| .text s => .good (some s)
| _ => .issue .stringType

/- The name of a severity. -/
def severity : Datum → Checked Severity
| .text s =>
    match Severity.ofName? s with
    | some severity => .good severity
    | none => .issue .enum
| _ => .issue .enum

/- The words for false. -/
def falseWords : List String :=
  ["0", "off", "f", "false", "n", "no"]

/- The words for true. -/
def trueWords : List String :=
  ["1", "on", "t", "true", "y", "yes"]

/- A truth value given by a word in any case. -/
def boolOfWord
    (word : String) : Checked Bool :=
  let lower :=
    String.ofList (word.toList.map Char.toLower)
  if falseWords.contains lower then .good false
  else if trueWords.contains lower then .good true
  else .issue .boolParsing

/- A truth value given by a whole number. -/
def boolOfInt
    (n : Int) : Checked Bool :=
  if n = 0 then .good false
  else if n = 1 then .good true
  else .issue .boolParsing

/- A truth value, or what can stand for one. -/
def bool : Datum → Checked Bool
| .bool b => .good b
| .int n => boolOfInt n
| .real (.whole n) => boolOfInt n
| .text word => boolOfWord word
| _ => .issue .boolType

/- The blanks that may stand around an integer. -/
def isMargin
    (c : Char) : Bool :=
  c = ' ' || (0x09 ≤ c.toNat && c.toNat ≤ 0x0D) ||
    [0x85, 0xA0, 0x1680, 0x2028, 0x2029, 0x202F, 0x205F,
      0x3000].contains c.toNat ||
    (0x2000 ≤ c.toNat && c.toNat ≤ 0x200A)

/- The digits of a numeral with underscores between digits. -/
def digitsOf
    (afterDigit : Bool) :
    List Char → Option (List Char)
| [] => if afterDigit then some [] else none
| '_' :: rest =>
    if afterDigit then digitsOf false rest else none
| c :: rest =>
    if c.isDigit then
      (digitsOf true rest).map (c :: ·)
    else
      none

/- The magnitude of a numeral, perhaps with a zero fraction. -/
def magnitudeOf
    (numeral : List Char) : Option Nat :=
  let whole := numeral.takeWhile (· != '.')
  let fraction := numeral.drop (whole.length + 1)
  if fraction.all (· == '0') then
    (digitsOf false whole).map fun digits =>
      digits.foldl
        (fun n c => 10 * n + (c.toNat - '0'.toNat)) 0
  else
    none

/- The integer that a text holds. -/
def intOfText
    (s : String) : Option Int :=
  let trimmed :=
    ((s.toList.dropWhile isMargin).reverse.dropWhile
      isMargin).reverse
  match trimmed with
  | '-' :: rest => (magnitudeOf rest).map fun n => -(n : Int)
  | '+' :: rest => (magnitudeOf rest).map fun n => (n : Int)
  | rest => (magnitudeOf rest).map fun n => (n : Int)

/- Whole real numbers of this size stand for no integers. -/
def wordLimit : Nat :=
  9223372036854775808

/- An integer, or what can stand for one. -/
def int : Datum → Checked Int
| .int n => .good n
| .bool b => .good (if b then 1 else 0)
| .real (.whole n) =>
    if n.natAbs < wordLimit then
      .good n
    else
      .issue .intParsingSize
| .real .fraction => .issue .intFromFloat
| .real _ => .issue .finiteNumber
| .text s =>
    match intOfText s with
    | none => .issue .intParsing
    | some n =>
        if Text.maxDigits <
            (Nat.toDigits 10 n.natAbs).length then
          .issue .intParsingSize
        else
          .good n
| _ => .issue .intType

/- An integer that is not less than a bound. -/
def intAtLeast
    (bound : Int)
    (datum : Datum) : Checked Int :=
  match int datum with
  | .good n =>
      if bound ≤ n then .good n else .issue .tooSmall
  | .bad issues => .bad issues

end Schema

end GradleMigration

------------------------------------------------------------
-- Lists and Tables
------------------------------------------------------------

namespace GradleMigration

namespace Schema

variable {α : Type}

/- Check items that start at a position. -/
def itemsFrom
    (check : Datum → Checked α) :
    (position : Nat) → List Datum → Checked (List α)
| _, [] => .good []
| position, item :: items =>
    List.cons <$> (check item).under (.index position) <*>
      itemsFrom check (position + 1) items

/- A list whose items pass a check. -/
def listOf
    (check : Datum → Checked α) : Datum → Checked (List α)
| .list items => itemsFrom check 0 items
| _ => .issue .listType

/- A pair of texts, given as a list of two. -/
def textPair : Datum → Checked (String × String)
| .list [] =>
    .bad [⟨[.index 0], .missing⟩, ⟨[.index 1], .missing⟩]
| .list [a] =>
    Prod.mk <$> (text a).under (.index 0) <*>
      Checked.bad [⟨[.index 1], .missing⟩]
| .list [a, b] =>
    Prod.mk <$> (text a).under (.index 0) <*>
      (text b).under (.index 1)
| .list _ => .issue .tooLong
| _ => .issue .tupleType

/- A part that has to be there. -/
def required
    (table : Table)
    (name : String)
    (check : Datum → Checked α) : Checked α :=
  match table.get? name with
  | none => .bad [⟨[.field name], .missing⟩]
  | some datum => (check datum).under (.field name)

/- A part that has a default. -/
def optional
    (table : Table)
    (name : String)
    (default : α)
    (check : Datum → Checked α) : Checked α :=
  match table.get? name with
  | none => .good default
  | some datum => (check datum).under (.field name)

/- A table whose parts pass a check. -/
def model
    (check : Table → Checked α) : Datum → Checked α
| .table table => check table
| _ => .issue .modelType

end Schema

end GradleMigration
