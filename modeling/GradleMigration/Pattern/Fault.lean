import GradleMigration.Text.Integer
import GradleMigration.Text.Quoted

/-
  Why a pattern or a replacement text is refused.

  Key definitions include:
    * `PatternCause`
    * `PatternCause.message`
    * `PatternFault`
    * `PatternFault.kind`
    * `PatternFault.message`

  A fault names its cause and, where there is one, the place
  in the refused text.  Only faults with a cause are refusals;
  the others come out as errors of another kind.
-/

------------------------------------------------------------
-- Causes
------------------------------------------------------------

namespace GradleMigration

/- What is wrong with a pattern or a replacement text. -/
inductive PatternCause where
| danglingEscape
| incompleteEscape (escape : String)
| badEscape (escape : String)
| octalTooLarge (escape : String)
| missingBrace
| unknownCharacter (name : String)
| missingName (what : String)
| unterminatedName (terminator : Char)
| badGroupName (name : String)
| unknownGroupName (name : String)
| redefinedGroup (name : String) (index previous : Nat)
| unknownGroup (index : Nat)
| openGroup
| groupInLookbehind
| badGroupNumber
| unterminatedSet
| badRange (first last : String)
| nothingToRepeat
| multipleRepeat
| reversedBounds
| unexpectedEnd
| unknownExtension (text : String)
| unterminatedComment
| unterminatedGroup
| unbalancedParenthesis
| tooManyBranches
| missingFlagEnd
| missingFlag
| missingColon
| unknownFlag
| localeFlag
| incompatibleFlags
| typeFlagOff
| globalFlagOn
| globalFlagOff
| flagOnAndOff
| lateFlags
| variableLookbehind
| distantLookbehind
| bareRepeat (operator : String)
| missingAngle
| tooDeep
deriving DecidableEq, Repr

/- The wording of a cause. -/
def PatternCause.message : PatternCause → String
| .danglingEscape => "bad escape (end of pattern)"
| .incompleteEscape escape => s!"incomplete escape {escape}"
| .badEscape escape => s!"bad escape {escape}"
| .octalTooLarge escape =>
    s!"octal escape value {escape} outside of range 0-0o377"
| .missingBrace => "missing \x7b"
| .unknownCharacter name =>
    s!"undefined character name {Text.quoted name}"
| .missingName what => s!"missing {what}"
| .unterminatedName terminator =>
    s!"missing {terminator}, unterminated name"
| .badGroupName name =>
    s!"bad character in group name {Text.quoted name}"
| .unknownGroupName name =>
    s!"unknown group name {Text.quoted name}"
| .redefinedGroup name index previous =>
    s!"redefinition of group name {Text.quoted name} " ++
      s!"as group {index}; was group {previous}"
| .unknownGroup index => s!"invalid group reference {index}"
| .openGroup => "cannot refer to an open group"
| .groupInLookbehind =>
    "cannot refer to group defined in the same " ++
      "lookbehind subpattern"
| .badGroupNumber => "bad group number"
| .unterminatedSet => "unterminated character set"
| .badRange first last =>
    s!"bad character range {first}-{last}"
| .nothingToRepeat => "nothing to repeat"
| .multipleRepeat => "multiple repeat"
| .reversedBounds => "min repeat greater than max repeat"
| .unexpectedEnd => "unexpected end of pattern"
| .unknownExtension text => s!"unknown extension ?{text}"
| .unterminatedComment => "missing ), unterminated comment"
| .unterminatedGroup => "missing ), unterminated subpattern"
| .unbalancedParenthesis => "unbalanced parenthesis"
| .tooManyBranches =>
    "conditional backref with more than two branches"
| .missingFlagEnd => "missing -, : or )"
| .missingFlag => "missing flag"
| .missingColon => "missing :"
| .unknownFlag => "unknown flag"
| .localeFlag =>
    "bad inline flags: cannot use 'L' flag with a str pattern"
| .incompatibleFlags =>
    "bad inline flags: flags 'a', 'u' and 'L' are " ++
      "incompatible"
| .typeFlagOff =>
    "bad inline flags: cannot turn off flags 'a', 'u' and 'L'"
| .globalFlagOn =>
    "bad inline flags: cannot turn on global flag"
| .globalFlagOff =>
    "bad inline flags: cannot turn off global flag"
| .flagOnAndOff =>
    "bad inline flags: flag turned on and off"
| .lateFlags =>
    "global flags not at the start of the expression"
| .variableLookbehind =>
    "look-behind requires fixed-width pattern"
| .distantLookbehind => "looks too much behind"
| .bareRepeat operator =>
    s!"internal: unsupported template operator {operator}"
| .missingAngle => "missing <"
| .tooDeep => "pattern nested too deeply"

end GradleMigration

------------------------------------------------------------
-- Faults
------------------------------------------------------------

namespace GradleMigration

/-
  Why a text is no pattern.  Besides faults with a place in
  the text there are numbers too large to repeat by, or with
  too many digits to be read, codes that no machine integer
  holds, and the two alphabets of character classes asked for
  at once.
-/
inductive PatternFault where
| refused
    (cause : PatternCause)
    (position : Option Nat)
    (text : List Char)
| repetitionTooLarge
| codeTooLarge
| tooManyDigits (count : Nat)
| twoAlphabets
deriving DecidableEq, Repr

/-
  What a fault comes out as: a refusal of the text, the error
  of a number that is too large, or that of a value that will
  not do.
-/
inductive PatternFault.Kind where
| refusal
| overflow
| value
deriving DecidableEq, Repr

/- The kind of each fault. -/
def PatternFault.kind : PatternFault → PatternFault.Kind
| .refused .. => .refusal
| .repetitionTooLarge => .overflow
| .codeTooLarge => .overflow
| .tooManyDigits _ => .value
| .twoAlphabets => .value

/-
  The place in a text: the offset, and line and column when
  the text has several lines.
-/
def placeInText
    (text : List Char)
    (position : Nat) : String :=
  if text.contains '\n' then
    let before := text.take position
    let line := before.count '\n' + 1
    let column :=
      (before.reverse.takeWhile (· != '\n')).length + 1
    s!" at position {position} (line {line}, column {column})"
  else
    s!" at position {position}"

/- The wording of a fault. -/
def PatternFault.message : PatternFault → String
| .refused cause none _ => cause.message
| .refused cause (some position) text =>
    cause.message ++ placeInText text position
| .repetitionTooLarge =>
    "the repetition number is too large"
| .codeTooLarge =>
    "Python int too large to convert to C int"
| .tooManyDigits count => Text.tooManyDigitsText count
| .twoAlphabets =>
    "ASCII and UNICODE flags are incompatible"

end GradleMigration
