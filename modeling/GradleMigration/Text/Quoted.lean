import GradleMigration.Text.Printable

/-
  Texts quoted inside a message.

  Key definitions include:
    * `quoted`

  A quoted text stands between apostrophes, or between double
  quotes when it holds an apostrophe and no double quote.
  What cannot be shown is written as an escape.
-/

------------------------------------------------------------
-- Escapes
------------------------------------------------------------

namespace GradleMigration

namespace Text

/- The apostrophe. -/
def apostrophe : Char :=
  '\x27'

/- The double quote. -/
def doubleQuote : Char :=
  '\x22'

/- A number as `width` lower-case hexadecimal digits. -/
def hexDigits
    (width n : Nat) : List Char :=
  let digits := Nat.toDigits 16 n
  List.replicate (width - digits.length) '0' ++ digits

/- How one character is shown between the given quotes. -/
def quotedChar
    (quote c : Char) : List Char :=
  if c = quote || c = '\\' then ['\\', c]
  else if c = '\t' then ['\\', 't']
  else if c = '\n' then ['\\', 'n']
  else if c = '\r' then ['\\', 'r']
  else if isPrintable c then [c]
  else if c.toNat < 0x100 then
    '\\' :: 'x' :: hexDigits 2 c.toNat
  else if c.toNat < 0x10000 then
    '\\' :: 'u' :: hexDigits 4 c.toNat
  else
    '\\' :: 'U' :: hexDigits 8 c.toNat

end Text

end GradleMigration

------------------------------------------------------------
-- Quoting
------------------------------------------------------------

namespace GradleMigration

namespace Text

/- The quote that a text is shown in. -/
def quoteFor
    (text : List Char) : Char :=
  if text.contains apostrophe &&
      !text.contains doubleQuote then
    doubleQuote
  else
    apostrophe

/- A text in quotes, with escapes. -/
def quoted
    (text : String) : String :=
  let quote := quoteFor text.toList
  String.ofList
    (quote :: text.toList.flatMap (quotedChar quote) ++
      [quote])

end Text

end GradleMigration
