import GradleMigration.Data.Decimal
import GradleMigration.Text.Integer
import GradleMigration.Text.Quoted

/-
  The scalar values of TOML: strings, numbers, dates and
  times.

  Key definitions include:
    * `Toml.Read`
    * `Toml.Fault`
    * `Toml.ReadValue`
    * `Toml.readBasic`
    * `Toml.readLiteral`
    * `Toml.readMultiline`
    * `Toml.readMoment`
    * `Toml.readNumber`

  A reader takes the characters ahead and gives a value with
  the characters behind it, or nothing when the text is not
  TOML.  A reader of values also tells why it gives none.
-/

------------------------------------------------------------
-- Readers and Characters
------------------------------------------------------------

namespace GradleMigration

namespace Toml

/- The outcome of reading something at the front of a text. -/
abbrev Read
    (α : Type) :=
  Option (α × List Char)

/-
  Why a text is not read: it is not TOML, or it holds a whole
  number in decimal digits of which there are too many.
-/
inductive Fault where
| notToml
| tooManyDigits (count : Nat)
deriving DecidableEq, Repr

/- The wording of a fault. -/
def Fault.message : Fault → String
| .notToml => "not a TOML document"
| .tooManyDigits count => Text.tooManyDigitsText count

/- The outcome of reading a value at the front of a text. -/
abbrev ReadValue :=
  Except Fault (Datum × List Char)

/- What has to be there for the text to be TOML. -/
def expect
    {α : Type} : Option α → Except Fault α
| none => .error .notToml
| some a => .ok a

/- Try another reader where the text is not TOML for one. -/
def orElse
    (first second : ReadValue) : ReadValue :=
  match first with
  | .error .notToml => second
  | first => first

/- Blanks within a line. -/
def isSpace
    (c : Char) : Bool :=
  c = ' ' || c = '\t'

/- Blanks and line feeds. -/
def isSpaceOrNewline
    (c : Char) : Bool :=
  isSpace c || c = '\n'

/- Control characters that no comment or string may hold. -/
def isIllegal
    (c : Char) : Bool :=
  (c.toNat < 0x20 && c != '\t') || c.toNat = 0x7F

/- Hexadecimal digits. -/
def isHexDigit
    (c : Char) : Bool :=
  c.isDigit || ('a' ≤ c && c ≤ 'f') || ('A' ≤ c && c ≤ 'F')

/- The value of one digit in a base up to sixteen. -/
def digitOf
    (c : Char) : Nat :=
  if c.isDigit then c.toNat - '0'.toNat
  else (c.toLower.toNat - 'a'.toNat) + 10

/- The value of digits in a base. -/
def valueIn
    (base : Nat)
    (digits : List Char) : Nat :=
  digits.foldl (fun n c => base * n + digitOf c) 0

/- Step over a fixed text, if it stands here. -/
def skipText
    (text : String)
    (ahead : List Char) : Option (List Char) :=
  if text.toList.isPrefixOf ahead then
    some (ahead.drop text.length)
  else
    none

end Toml

end GradleMigration

------------------------------------------------------------
-- Strings
------------------------------------------------------------

namespace GradleMigration

namespace Toml

/- The characters that short escapes stand for. -/
def shortEscape : Char → Option Char
| 'b' => some '\x08'
| 't' => some '\t'
| 'n' => some '\n'
| 'f' => some '\x0c'
| 'r' => some '\r'
| '\x22' => some '\x22'
| '\\' => some '\\'
| _ => none

/- A character given by `count` hexadecimal digits. -/
def readHexChar
    (count : Nat)
    (ahead : List Char) : Read Char :=
  let digits := ahead.take count
  let code := valueIn 16 digits
  if digits.length = count && digits.all isHexDigit &&
      Nat.isValidChar code then
    some (Char.ofNat code, ahead.drop count)
  else
    none

/- An escape whose backslash has been read. -/
def readEscape : List Char → Read Char
| [] => none
| 'u' :: rest => readHexChar 4 rest
| 'U' :: rest => readHexChar 8 rest
| c :: rest => (shortEscape c).map (·, rest)

/-
  A line continuation whose backslash has been read: blanks up
  to the end of the line and all blanks after it vanish.
-/
def skipContinuation
    (ahead : List Char) : Option (List Char) :=
  match ahead.dropWhile isSpace with
  | [] => some []
  | '\n' :: rest => some (rest.dropWhile isSpaceOrNewline)
  | _ => none

/-
  The rest of a string in double quotes, up to its end.  Each
  unit of fuel pays for one step.
-/
def readBasicFrom
    (multiline : Bool) :
    (fuel : Nat) →
    (done : List Char) →
    List Char → Read (List Char)
| 0, _, _ => none
| _, _, [] => none
| fuel + 1, done, c :: rest =>
    if c = Text.doubleQuote then
      if !multiline then
        some (done.reverse, rest)
      else if [c, c].isPrefixOf rest then
        some (done.reverse, rest.drop 2)
      else
        readBasicFrom multiline fuel (c :: done) rest
    else if c = '\\' then
      if multiline &&
          (rest.head?.map isSpaceOrNewline).getD false then
        match skipContinuation rest with
        | none => none
        | some rest =>
            readBasicFrom multiline fuel done rest
      else
        match readEscape rest with
        | none => none
        | some (d, rest) =>
            readBasicFrom multiline fuel (d :: done) rest
    else if isIllegal c && !(multiline && c = '\n') then
      none
    else
      readBasicFrom multiline fuel (c :: done) rest

/- A one-line string whose opening quote has been read. -/
def readBasic
    (ahead : List Char) : Read (List Char) :=
  readBasicFrom false (ahead.length + 1) [] ahead

/- A literal string whose opening quote has been read. -/
def readLiteral
    (ahead : List Char) : Read (List Char) :=
  let taken := ahead.takeWhile (· != Text.apostrophe)
  if taken.length < ahead.length &&
      !taken.any isIllegal then
    some (taken, ahead.drop (taken.length + 1))
  else
    none

/- The text up to three apostrophes, which are stepped over. -/
def readMultilineLiteral : List Char → Read (List Char)
| [] => none
| c :: rest =>
    if [c, c, c].isPrefixOf (c :: rest) &&
        c = Text.apostrophe then
      some ([], rest.drop 2)
    else if isIllegal c && c != '\n' then
      none
    else
      (readMultilineLiteral rest).map
        fun (text, rest) => (c :: text, rest)

/- Up to two quotes may stand right before the closing ones. -/
def takeExtraQuotes
    (quote : Char)
    (text ahead : List Char) : List Char × List Char :=
  let extra := (ahead.take 2).takeWhile (· = quote)
  (text ++ extra, ahead.drop extra.length)

/-
  A multi-line string whose three opening quotes have been
  read.  A line feed right behind them does not count.
-/
def readMultiline
    (quote : Char)
    (ahead : List Char) : Read (List Char) :=
  let body :=
    if ahead.head? = some '\n' then ahead.drop 1 else ahead
  let read :=
    if quote = Text.apostrophe then
      readMultilineLiteral body
    else
      readBasicFrom true (body.length + 1) [] body
  read.map fun (text, rest) =>
    takeExtraQuotes quote text rest

/- A string whose opening quote has been read. -/
def readString
    (quote : Char)
    (ahead : List Char) : Read (List Char) :=
  if [quote, quote].isPrefixOf ahead then
    readMultiline quote (ahead.drop 2)
  else if quote = Text.apostrophe then
    readLiteral ahead
  else
    readBasic ahead

end Toml

end GradleMigration

------------------------------------------------------------
-- Numbers
------------------------------------------------------------

namespace GradleMigration

namespace Toml

/-
  Further digits, each perhaps behind one underscore, and the
  characters behind them.
-/
def moreDigits
    (isDigit : Char → Bool) :
    List Char → List Char × List Char
| '_' :: c :: rest =>
    if isDigit c then
      let (digits, rest) := moreDigits isDigit rest
      (c :: digits, rest)
    else
      ([], '_' :: c :: rest)
| c :: rest =>
    if isDigit c then
      let (digits, rest) := moreDigits isDigit rest
      (c :: digits, rest)
    else
      ([], c :: rest)
| [] => ([], [])

/- At least one digit. -/
def readDigits
    (isDigit : Char → Bool) :
    List Char → Read (List Char)
| [] => none
| c :: rest =>
    if isDigit c then
      let (digits, rest) := moreDigits isDigit rest
      some (c :: digits, rest)
    else
      none

/- A number in another base, behind its zero. -/
def readBased
    (ahead : List Char) : Read Datum :=
  let read := fun (base : Nat) (isDigit : Char → Bool) rest =>
    (readDigits isDigit rest).map fun (digits, rest) =>
      (Datum.int (valueIn base digits), rest)
  match ahead with
  | 'x' :: rest => read 16 isHexDigit rest
  | 'b' :: rest => read 2 (fun c => c = '0' || c = '1') rest
  | 'o' :: rest =>
      read 8 (fun c => '0' ≤ c && c ≤ '7') rest
  | _ => none

/- The digits before the point: no zero leads others. -/
def readWhole : List Char → Read (List Char)
| '0' :: rest => some (['0'], rest)
| ahead => readDigits Char.isDigit ahead

/- An optional sign. -/
def readSign : List Char → Bool × List Char
| '-' :: rest => (true, rest)
| '+' :: rest => (false, rest)
| ahead => (false, ahead)

/- The optional digits behind a point. -/
def readFraction
    (ahead : List Char) :
    Option (List Char) × List Char :=
  match ahead with
  | '.' :: rest =>
      match readDigits Char.isDigit rest with
      | some (digits, rest) => (some digits, rest)
      | none => (none, ahead)
  | _ => (none, ahead)

/- The optional exponent. -/
def readExponent
    (ahead : List Char) : Option Int × List Char :=
  let read := fun rest =>
    let (negative, unsigned) := readSign rest
    match readDigits Char.isDigit unsigned with
    | some (digits, rest) =>
        let n := valueIn 10 digits
        (some (if negative then -(n : Int) else n), rest)
    | none => (none, ahead)
  match ahead with
  | 'e' :: rest => read rest
  | 'E' :: rest => read rest
  | _ => (none, ahead)

/- The whole number that decimal digits write. -/
def wholeNumber
    (negative : Bool)
    (digits : List Char) : Except Fault Datum :=
  if digits.length ≤ Text.maxDigits then
    let n := valueIn 10 digits
    .ok (.int (if negative then -(n : Int) else n))
  else
    .error (.tooManyDigits digits.length)

/- A decimal number. -/
def readDecimal
    (ahead : List Char) : ReadValue :=
  let (negative, unsigned) := readSign ahead
  match readWhole unsigned with
  | none => .error .notToml
  | some (whole, rest) =>
      let (fraction, rest) := readFraction rest
      let (exponent, rest) := readExponent rest
      if fraction.isNone && exponent.isNone then
        (wholeNumber negative whole).map (·, rest)
      else
        let places := fraction.getD []
        let decimal : Decimal :=
          ⟨negative, valueIn 10 (whole ++ places),
            exponent.getD 0 - places.length⟩
        .ok (.real decimal.toReal, rest)

/- Any number written with digits. -/
def readNumber
    (ahead : List Char) : ReadValue :=
  match ahead with
  | '0' :: rest =>
      orElse (expect (readBased rest)) (readDecimal ahead)
  | _ => readDecimal ahead

/- The numbers written with letters. -/
def readSpecial
    (ahead : List Char) : Read Datum :=
  let unsigned := (readSign ahead).2
  match skipText "inf" unsigned, skipText "nan" unsigned with
  | some rest, _ => some (.real .infinite, rest)
  | none, some rest => some (.real .undefined, rest)
  | none, none => none

end Toml

end GradleMigration

------------------------------------------------------------
-- Dates and Times
------------------------------------------------------------

namespace GradleMigration

namespace Toml

/- A number of exactly `count` digits within bounds. -/
def readField
    (count least most : Nat)
    (ahead : List Char) : Option (Nat × List Char) :=
  let digits := ahead.take count
  let n := valueIn 10 digits
  if digits.length = count && digits.all Char.isDigit &&
      least ≤ n && n ≤ most then
    some (n, ahead.drop count)
  else
    none

/- Whether a year is a leap year. -/
def isLeap
    (year : Nat) : Bool :=
  year % 4 = 0 && (year % 100 != 0 || year % 400 = 0)

/- The number of days of a month. -/
def daysIn
    (year month : Nat) : Nat :=
  if month = 2 then
    if isLeap year then 29 else 28
  else if [4, 6, 9, 11].contains month then
    30
  else
    31

/-
  Something that looks like a date, and whether the calendar
  has it.
-/
def readDate
    (ahead : List Char) : Option (Bool × List Char) := do
  let (year, rest) ← readField 4 0 9999 ahead
  let rest ← skipText "-" rest
  let (month, rest) ← readField 2 1 12 rest
  let rest ← skipText "-" rest
  let (day, rest) ← readField 2 1 31 rest
  return (0 < year && day ≤ daysIn year month, rest)

/- A time of day. -/
def readTime
    (ahead : List Char) : Option (List Char) := do
  let (_, rest) ← readField 2 0 23 ahead
  let rest ← skipText ":" rest
  let (_, rest) ← readField 2 0 59 rest
  let rest ← skipText ":" rest
  let (_, rest) ← readField 2 0 59 rest
  match rest with
  | '.' :: c :: tail =>
      if c.isDigit then
        return tail.dropWhile Char.isDigit
      else
        return rest
  | _ => return rest

/- An optional offset from universal time. -/
def skipOffset
    (ahead : List Char) : List Char :=
  let read : List Char → Option (List Char) := fun rest => do
    let (_, rest) ← readField 2 0 23 rest
    let rest ← skipText ":" rest
    let (_, rest) ← readField 2 0 59 rest
    return rest
  match ahead with
  | 'Z' :: rest => rest
  | 'z' :: rest => rest
  | '+' :: rest => (read rest).getD ahead
  | '-' :: rest => (read rest).getD ahead
  | _ => ahead

/- An optional time behind a date. -/
def skipTimeOfDate
    (ahead : List Char) : List Char :=
  match ahead with
  | c :: rest =>
      if c = 'T' || c = 't' || c = ' ' then
        match readTime rest with
        | some rest => skipOffset rest
        | none => ahead
      else
        ahead
  | [] => ahead

/-
  A date, a date with a time, or a time: whether the calendar
  has it, and what follows.
-/
def readMoment
    (ahead : List Char) : Read Bool :=
  match readDate ahead with
  | some (valid, rest) => some (valid, skipTimeOfDate rest)
  | none => (readTime ahead).map (true, ·)

end Toml

end GradleMigration
