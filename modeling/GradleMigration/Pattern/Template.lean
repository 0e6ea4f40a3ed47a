import GradleMigration.Pattern.Search

/-
  Replacement templates and substitution.

  Key definitions include:
    * `TemplatePart`
    * `TemplateFault`
    * `Regex.template`
    * `Regex.substitute`

  A template is literal text with references to groups.  It is
  read against the groups of a pattern, and refused even when
  the pattern has no hit.
-/

------------------------------------------------------------
-- Templates
------------------------------------------------------------

namespace GradleMigration

/- A piece of a replacement. -/
inductive TemplatePart where
| literal (text : List Char)
| group (index : Nat)
deriving DecidableEq, Repr

/- Why a replacement text is refused. -/
inductive TemplateFault where
| refused (fault : PatternFault)
| unknownGroupName (name : String)
deriving DecidableEq, Repr

/- The wording of a fault. -/
def TemplateFault.message : TemplateFault → String
| .refused fault => fault.message
| .unknownGroupName name =>
    (PatternCause.unknownGroupName name).message

/- What a hit is replaced by. -/
def expand
    (template : List TemplatePart)
    (hit : Hit) : List Char :=
  template.flatMap fun part =>
    match part with
    | .literal text => text
    | .group index => hit.group index

end GradleMigration

------------------------------------------------------------
-- Reading a Template
------------------------------------------------------------

namespace GradleMigration

namespace Reading

/-
  A reference as written: by number, or by a name that no
  group has.
-/
inductive Reference where
| numbered (index : Nat)
| unknown (name : String)

/- The reference in angle brackets. -/
def readReference
    (regex : Regex) : Reading Reference := do
  if !(← accept '<') then
    refuse 0 .missingAngle
  let name ← takeName '>' "group name"
  if Text.isIdentifier name then
    match regex.groupNames.lookup (String.ofList name) with
    | some index => return .numbered index
    | none => return .unknown (String.ofList name)
  else
    let index ← groupNumbered name
    if regex.groupCount < index then
      refuse (name.length + 1) (.unknownGroup index)
    return .numbered index

/- An escape that starts with a digit other than zero. -/
def readDecimalPart
    (regex : Regex)
    (c : Char) : Reading TemplatePart := do
  let more ← takeWhile 1 Char.isDigit
  let digits := c :: more
  let third ←
    if digits.length = 2 && digits.all isOctalDigit then
      takeWhile 1 isOctalDigit
    else
      pure []
  if third.isEmpty then
    let index := valueIn 10 digits
    if regex.groupCount < index then
      refuse digits.length (.unknownGroup index)
    return .group index
  else
    let code ← checkOctal (digits ++ third)
    return .literal [Char.ofNat code]

/-
  The pieces of a template, newest first, up to its end or to
  a name that no group has.
-/
def readParts
    (regex : Regex) :
    (fuel : Nat) →
    List TemplatePart →
    Reading (Except String (List TemplatePart))
| 0, parts => return .ok parts
| fuel + 1, parts => do
    match ← take with
    | none => return .ok parts
    | some (.plain c) =>
        readParts regex fuel (.literal [c] :: parts)
    | some (.escaped 'g') =>
        match ← readReference regex with
        | .unknown name => return .error name
        | .numbered index =>
            readParts regex fuel (.group index :: parts)
    | some (.escaped '0') =>
        let digits ← takeWhile 2 isOctalDigit
        let code := valueIn 8 digits % 0x100
        readParts regex fuel
          (.literal [Char.ofNat code] :: parts)
    | some (.escaped c) =>
        if c.isDigit then
          let part ← readDecimalPart regex c
          readParts regex fuel (part :: parts)
        else
          match controlChar c with
          | some d =>
              readParts regex fuel (.literal [d] :: parts)
          | none =>
              if c.isAlpha then
                refuse 2 (.badEscape (escapeText c []))
              readParts regex fuel
                (.literal ['\\', c] :: parts)

end Reading

end GradleMigration

------------------------------------------------------------
-- Substitution
------------------------------------------------------------

namespace GradleMigration

namespace Regex

/- Read a replacement text against the groups of a pattern. -/
def template
    (regex : Regex)
    (replacement : List Char) :
    Except TemplateFault (List TemplatePart) :=
  match Reading.run replacement
      (Reading.readParts regex (replacement.length + 1) [])
  with
  | .error fault => .error (.refused fault)
  | .ok (.error name, _) => .error (.unknownGroupName name)
  | .ok (.ok parts, _) => .ok parts.reverse

/- Replace every hit in a text that has been cut at hits. -/
def rejoin
    (replace : Hit → List Char)
    (segments : Pattern.Segments) : List Char :=
  segments.hits.flatMap
      (fun (gap, hit) => gap ++ replace hit) ++
    segments.tail

/- Replace every hit of a pattern as a function says. -/
def replaceHits
    (regex : Regex)
    (replace : Hit → List Char)
    (text : List Char) : List Char :=
  rejoin replace (regex.pattern.segments text)

/- Replace every hit of a pattern by a replacement text. -/
def substitute
    (regex : Regex)
    (replacement text : List Char) :
    Except TemplateFault (List Char) :=
  match regex.template replacement with
  | .error fault => .error fault
  | .ok parts => .ok (regex.replaceHits (expand parts) text)

end Regex

end GradleMigration
