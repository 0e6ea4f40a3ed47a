import GradleMigration.Pattern.Template
import GradleMigration.Rule.Severity
import GradleMigration.Script.TaskClosure
import GradleMigration.Text.Replace

/-
  Migration rules: a deprecated construct, how it is found,
  explained and migrated.

  Key definitions include:
    * `Substitution`
    * `RuleKind`
    * `Rule`
    * `Rule.hits`
    * `Rule.transform`
    * `Rule.explain`
    * `Rule.suggestFix`
    * `Rule.isFixable`

  A rule either applies its substitutions one after another to
  the whole text, or changes tasks structurally.
-/

------------------------------------------------------------
-- Rules
------------------------------------------------------------

namespace GradleMigration

/- Replace every hit of a pattern by a replacement text. -/
structure Substitution where
  pattern : Regex
  replacement : String
deriving Repr

/- How a rule changes a text. -/
inductive RuleKind where
| substitution
| taskLeftShift
deriving DecidableEq, Repr

/- A deprecated construct and what to do about it. -/
structure Rule where
  id : String
  pattern : Regex
  severity : Severity
  title : String
  description : String
  autoFixable : Bool
  explanation : Option String
  kind : RuleKind
  substitutions : List Substitution
deriving Repr

end GradleMigration

------------------------------------------------------------
-- Finding and Explaining
------------------------------------------------------------

namespace GradleMigration

namespace Rule

/- The explanation of a rule that has none of its own. -/
def genericExplanation : String :=
  "This code pattern is deprecated or removed in Gradle 9 " ++
    "and requires migration."

/- The suggestion where no automatic change applies. -/
def manualFix : String :=
  "// Manual migration required - see explanation"

/- The mark in an explanation for the matched text. -/
def matchedMark : List Char :=
  "\x7bmatched\x7d".toList

/- The occurrences of the construct in a text. -/
def hits
    (rule : Rule)
    (content : List Char) : List Hit :=
  rule.pattern.hits content

/- The explanation for a matched text. -/
def explain
    (rule : Rule)
    (matched : List Char) : String :=
  match rule.explanation with
  | none => genericExplanation
  | some template =>
      if template = "" then
        genericExplanation
      else
        String.ofList
          (Text.replaceAll matchedMark matched
            template.toList)

end Rule

end GradleMigration

------------------------------------------------------------
-- Migrating
------------------------------------------------------------

namespace GradleMigration

namespace Substitution

/- Replace every hit. -/
def apply
    (s : Substitution)
    (text : List Char) : Except TemplateFault (List Char) :=
  s.pattern.substitute s.replacement.toList text

/- Apply substitutions one after another. -/
def applyAll :
    List Substitution →
    List Char → Except TemplateFault (List Char)
| [], text => .ok text
| s :: rest, text =>
    match s.apply text with
    | .error fault => .error fault
    | .ok text => applyAll rest text

end Substitution

namespace Rule

/- Migrate every occurrence in a text. -/
def transform
    (rule : Rule)
    (content : List Char) :
    Except TemplateFault (List Char) :=
  match rule.kind with
  | .substitution =>
      Substitution.applyAll rule.substitutions content
  | .taskLeftShift => .ok (Script.migrateTasks content)

/-
  The suggestion for a source text that has been migrated;
  a task whose body is out of sight gets a new header only.
-/
def suggestionFor
    (rule : Rule)
    (source fixed : List Char) : List Char :=
  let fixed :=
    if fixed = source && rule.kind = .taskLeftShift then
      Script.migrateHeaders source
    else
      fixed
  if fixed = source then
    manualFix.toList
  else
    Text.trim fixed

/-
  The suggested text for a match, computed on its lines when
  they are given.
-/
def suggestFix
    (rule : Rule)
    (matched : List Char)
    (context : Option (List Char)) :
    Except TemplateFault (List Char) :=
  let source := context.getD matched
  match rule.transform source with
  | .error fault => .error fault
  | .ok fixed => .ok (rule.suggestionFor source fixed)

/-
  Whether an occurrence can be migrated: its lines change, or
  its task has a closed body.
-/
def isFixable
    (rule : Rule)
    (content : List Char)
    (hit : Hit) : Except TemplateFault Bool :=
  if !rule.autoFixable then
    .ok false
  else
    match rule.kind with
    | .taskLeftShift =>
        match Script.closureHeaderAt content hit.start with
        | none => .ok false
        | some header =>
            .ok (Script.closingBrace content
              (header.stop - 1)).isSome
    | .substitution =>
        let line := Text.lineOf content hit.start hit.stop
        match rule.transform line with
        | .error fault => .error fault
        | .ok fixed => .ok (fixed != line)

end Rule

end GradleMigration
