import GradleMigration.Data.Decimal
import GradleMigration.Text.Integer
import GradleMigration.Text.Quoted

/-
  Reading data from JSON.

  Key definitions include:
    * `JsonText.readString`
    * `JsonText.readNumber`
    * `JsonText.readValue`
    * `JsonText.parse`

  Besides the numerals of JSON the words `NaN` and `Infinity`
  are numbers.  Of two entries with the same name the later
  one counts.
-/

------------------------------------------------------------
-- Strings
------------------------------------------------------------

namespace GradleMigration

namespace JsonText

/- What has been read and what follows it. -/
abbrev Read (α : Type) :=
  Option (α × List Char)

/- The blanks between the parts of a text. -/
def isSpace
    (c : Char) : Bool :=
  c = ' ' || c = '\t' || c = '\n' || c = '\r'

/- The text behind its leading blanks. -/
def skipSpace
    (ahead : List Char) : List Char :=
  ahead.dropWhile isSpace

/- The value of a hexadecimal digit. -/
def hexValue
    (c : Char) : Option Nat :=
  if '0' ≤ c ∧ c ≤ '9' then
    some (c.toNat - '0'.toNat)
  else if 'a' ≤ c ∧ c ≤ 'f' then
    some (c.toNat - 'a'.toNat + 10)
  else if 'A' ≤ c ∧ c ≤ 'F' then
    some (c.toNat - 'A'.toNat + 10)
  else
    none

/- The code unit of four hexadecimal digits. -/
def codeUnit
    (a b c d : Char) : Option Nat := do
  let a ← hexValue a
  let b ← hexValue b
  let c ← hexValue c
  let d ← hexValue d
  return ((a * 16 + b) * 16 + c) * 16 + d

/- What a backslash and one character stand for. -/
def shortEscape : Char → Option Char
| '\\' => some '\\'
| '/' => some '/'
| 'b' => some '\x08'
| 'f' => some '\x0c'
| 'n' => some '\n'
| 'r' => some '\r'
| 't' => some '\t'
| c => if c = Text.doubleQuote then some c else none

/- Whether a code unit is the first half of a pair. -/
def isHighHalf
    (unit : Nat) : Bool :=
  0xD800 ≤ unit && unit < 0xDC00

/- Whether a code unit is the second half of a pair. -/
def isLowHalf
    (unit : Nat) : Bool :=
  0xDC00 ≤ unit && unit < 0xE000

/- The character of a pair of code units. -/
def pairedChar
    (high low : Nat) : Char :=
  Char.ofNat
    (0x10000 + (high - 0xD800) * 0x400 + (low - 0xDC00))

/-
  The rest of a string up to its closing quote.  With a first
  half of a pair behind it, the second half has to come next.
-/
def readString :
    (high : Option Nat) → List Char → Read (List Char)
| _, [] => none
| high, '\\' :: 'u' :: a :: b :: c :: d :: rest =>
    match codeUnit a b c d, high with
    | none, _ => none
    | some unit, some first =>
        if isLowHalf unit then
          (readString none rest).map fun (text, rest) =>
            (pairedChar first unit :: text, rest)
        else
          none
    | some unit, none =>
        if isHighHalf unit then
          readString (some unit) rest
        else if isLowHalf unit then
          none
        else
          (readString none rest).map fun (text, rest) =>
            (Char.ofNat unit :: text, rest)
| some _, _ :: _ => none
| none, '\\' :: c :: rest =>
    match shortEscape c with
    | none => none
    | some c =>
        (readString none rest).map fun (text, rest) =>
          (c :: text, rest)
| none, c :: rest =>
    if c = Text.doubleQuote then
      some ([], rest)
    else if c = '\\' || c.toNat < 0x20 then
      none
    else
      (readString none rest).map fun (text, rest) =>
        (c :: text, rest)

end JsonText

end GradleMigration

------------------------------------------------------------
-- Numbers
------------------------------------------------------------

namespace GradleMigration

namespace JsonText

/- The digits at the front of a text and what follows. -/
def splitDigits
    (ahead : List Char) : List Char × List Char :=
  (ahead.takeWhile Text.isAsciiDigit,
    ahead.dropWhile Text.isAsciiDigit)

/- The digits behind a point; a point needs digits. -/
def readFraction : List Char → Read (List Char)
| '.' :: rest =>
    match splitDigits rest with
    | ([], _) => none
    | (digits, rest) => some (digits, rest)
| ahead => some ([], ahead)

/- Whether a character announces an exponent. -/
def isExponentMark
    (c : Char) : Bool :=
  c = 'e' || c = 'E'

/- The digits of an exponent with its sign. -/
def readExponentDigits
    (negative : Bool)
    (ahead : List Char) : Read Int :=
  match splitDigits ahead with
  | ([], _) => none
  | (digits, rest) =>
      let value : Int := Text.digitsValue digits
      some (if negative then -value else value, rest)

/- An exponent, where there is one. -/
def readExponent : List Char → Read (Option Int)
| [] => some (none, [])
| c :: rest =>
    if isExponentMark c then
      let read :=
        match rest with
        | '-' :: rest => readExponentDigits true rest
        | '+' :: rest => readExponentDigits false rest
        | rest => readExponentDigits false rest
      read.map fun (value, rest) => (some value, rest)
    else
      some (none, c :: rest)

/- The number for a sign and the parts of a numeral. -/
def numberOf
    (negative : Bool)
    (whole fraction : List Char)
    (exponent : Option Int) : Option Datum :=
  if fraction.isEmpty && exponent.isNone then
    if Text.maxDigits < whole.length then
      none
    else
      let value : Int := Text.digitsValue whole
      some (.int (if negative then -value else value))
  else
    let decimal : Decimal :=
      { negative := negative
        digits := Text.digitsValue (whole ++ fraction)
        exponent := exponent.getD 0 - fraction.length }
    some (.real decimal.toReal)

/- A numeral behind its sign; zeros do not lead. -/
def readNumber
    (negative : Bool)
    (ahead : List Char) : Option (Datum × List Char) := do
  let (whole, rest) := splitDigits ahead
  if whole.isEmpty ||
      (whole.head? = some '0' && 1 < whole.length) then
    none
  else
    let (fraction, rest) ← readFraction rest
    let (exponent, rest) ← readExponent rest
    let number ← numberOf negative whole fraction exponent
    return (number, rest)

end JsonText

end GradleMigration

------------------------------------------------------------
-- Values
------------------------------------------------------------

namespace GradleMigration

namespace JsonText

/- The words that are values. -/
def wordValues : List (List Char × Datum) :=
  [ ("null".toList, .null),
    ("true".toList, .bool true),
    ("false".toList, .bool false),
    ("NaN".toList, .real .undefined),
    ("Infinity".toList, .real .infinite),
    ("-Infinity".toList, .real .infinite) ]

/- A word that is a value. -/
def readWord
    (ahead : List Char) : Read Datum :=
  wordValues.findSome? fun (word, value) =>
    if word.isPrefixOf ahead then
      some (value, ahead.drop word.length)
    else
      none

/- A value that is neither a list nor a table. -/
def readScalar : List Char → Read Datum
| [] => none
| c :: rest =>
    if c = Text.doubleQuote then
      (readString none rest).map fun (text, rest) =>
        (.text (String.ofList text), rest)
    else
      match readWord (c :: rest) with
      | some read => some read
      | none =>
          if c = '-' then
            readNumber true rest
          else
            readNumber false (c :: rest)

/- The name of an entry and what follows its colon. -/
def readName : List Char → Read String
| [] => none
| c :: rest =>
    if c = Text.doubleQuote then
      match readString none rest with
      | none => none
      | some (text, rest) =>
          match skipSpace rest with
          | ':' :: rest => some (String.ofList text, rest)
          | _ => none
    else
      none

/- How deep lists and tables may be nested. -/
def maxDepth : Nat :=
  200

mutual

/-
  A value behind blanks, in at most `depth` further lists and
  tables; each unit of fuel pays for one value, item or entry.
-/
def readValue :
    (fuel depth : Nat) → List Char → Read Datum
| 0, _, _ => none
| fuel + 1, depth, ahead =>
    match skipSpace ahead with
    | '[' :: rest =>
        match depth with
        | 0 => none
        | depth + 1 =>
            match skipSpace rest with
            | ']' :: rest => some (.list [], rest)
            | rest =>
                (readItems fuel depth rest).map
                  fun (items, rest) => (.list items, rest)
    | '\x7b' :: rest =>
        match depth with
        | 0 => none
        | depth + 1 =>
            match skipSpace rest with
            | '\x7d' :: rest => some (.table [], rest)
            | rest =>
                (readEntries fuel depth [] rest).map
                  fun (entries, rest) => (.table entries, rest)
    | ahead => readScalar ahead

/- The items of a list up to its closing bracket. -/
def readItems :
    (fuel depth : Nat) → List Char → Read (List Datum)
| 0, _, _ => none
| fuel + 1, depth, ahead =>
    match readValue fuel depth ahead with
    | none => none
    | some (item, rest) =>
        match skipSpace rest with
        | ']' :: rest => some ([item], rest)
        | ',' :: rest =>
            (readItems fuel depth rest).map
              fun (items, rest) => (item :: items, rest)
        | _ => none

/- The entries of a table up to its closing brace. -/
def readEntries :
    (fuel depth : Nat) →
    (done : Table) →
    List Char → Read Table
| 0, _, _, _ => none
| fuel + 1, depth, done, ahead =>
    match readName (skipSpace ahead) with
    | none => none
    | some (name, rest) =>
        match readValue fuel depth rest with
        | none => none
        | some (value, rest) =>
            let done := done.set name value
            match skipSpace rest with
            | '\x7d' :: rest => some (done, rest)
            | ',' :: rest => readEntries fuel depth done rest
            | _ => none

end

/- The data of a JSON text, or nothing when it is not JSON. -/
def parse
    (text : List Char) : Option Datum :=
  match readValue (2 * text.length + 2) maxDepth text with
  | none => none
  | some (value, rest) =>
      if (skipSpace rest).isEmpty then some value else none

end JsonText

end GradleMigration
