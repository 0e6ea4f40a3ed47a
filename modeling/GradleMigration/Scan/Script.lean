import GradleMigration.Project.Layout
import GradleMigration.Report.Basic
import GradleMigration.Rule.Basic

/-
  What rules find in the text of a script.

  Key definitions include:
    * `Rule.occurrence`
    * `Rule.occurrences`
    * `Script.occurrences`

  Of every rule the first hits are reported, in the order of
  their offsets, up to a fixed number.
-/

------------------------------------------------------------
-- Occurrences
------------------------------------------------------------

namespace GradleMigration

/- The most findings of one rule in one script. -/
def maxFindingsPerRule : Nat :=
  100

/- Where a script is and which module it belongs to. -/
structure ScriptPlace where
  file : Path
  moduleName : String
deriving DecidableEq, Repr

namespace Rule

/- The occurrence that a hit of a rule is. -/
def occurrence
    (rule : Rule)
    (place : ScriptPlace)
    (content : List Char)
    (hit : Hit) : Except TemplateFault Occurrence :=
  let matched := Text.trim hit.text
  let context := Text.lineOf content hit.start hit.stop
  match rule.suggestFix matched (some context) with
  | .error fault => .error fault
  | .ok suggestion =>
      match rule.isFixable content hit with
      | .error fault => .error fault
      | .ok fixable =>
          .ok
            { ruleId := rule.id
              severity := rule.severity
              title := rule.title
              description := rule.description
              file := place.file
              line := Text.lineNumber content hit.start
              matched := String.ofList matched
              explanation := rule.explain matched
              suggestedFix := String.ofList suggestion
              autoFixable := fixable
              modules := .ofList [place.moduleName] }

/- The occurrences that some hits of a rule are. -/
def occurrencesOf
    (rule : Rule)
    (place : ScriptPlace)
    (content : List Char) :
    List Hit → Except TemplateFault (List Occurrence)
| [] => .ok []
| hit :: hits =>
    match rule.occurrence place content hit with
    | .error fault => .error fault
    | .ok occurrence =>
        match occurrencesOf rule place content hits with
        | .error fault => .error fault
        | .ok more => .ok (occurrence :: more)

/- The reported occurrences of a rule in a text. -/
def occurrences
    (rule : Rule)
    (place : ScriptPlace)
    (content : List Char) :
    Except TemplateFault (List Occurrence) :=
  rule.occurrencesOf place content
    ((rule.hits content).take maxFindingsPerRule)

end Rule

namespace Script

/- The reported occurrences of all rules in a text. -/
def occurrences
    (place : ScriptPlace)
    (content : List Char) :
    List Rule → Except TemplateFault (List Occurrence)
| [] => .ok []
| rule :: rules =>
    match rule.occurrences place content with
    | .error fault => .error fault
    | .ok found =>
        match occurrences place content rules with
        | .error fault => .error fault
        | .ok more => .ok (found ++ more)

end Script

end GradleMigration
