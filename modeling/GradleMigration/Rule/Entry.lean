import GradleMigration.Data.Schema
import GradleMigration.Rule.Basic
import GradleMigration.Text.Utf8
import GradleMigration.Toml.Scalar

/-
  Catalog entries and the rules they describe.

  Key definitions include:
    * `RuleEntry`
    * `RuleEntry.check`
    * `CatalogFault`
    * `CatalogFault.message`
    * `RuleEntry.build`
-/

------------------------------------------------------------
-- Entries
------------------------------------------------------------

namespace GradleMigration

/- One entry of a rule catalog. -/
structure RuleEntry where
  id : String
  severity : Severity
  title : String
  description : String
  pattern : String
  autoFixable : Bool := false
  kind : String := "substitution"
  explanation : Option String := none
  substitutions : List (String × String) := []
deriving Repr

namespace RuleEntry

/- The schema of an entry. -/
def check
    (table : Table) : Checked RuleEntry :=
  RuleEntry.mk
    <$> Schema.required table "id" Schema.text
    <*> Schema.required table "severity" Schema.severity
    <*> Schema.required table "title" Schema.text
    <*> Schema.required table "description" Schema.text
    <*> Schema.required table "pattern" Schema.text
    <*> Schema.optional table "auto_fixable" false Schema.bool
    <*> Schema.optional table "kind" "substitution" Schema.text
    <*> Schema.optional table "explanation" none
      Schema.textOrNull
    <*> Schema.optional table "substitutions" []
      (Schema.listOf Schema.textPair)

/- The schema of a catalog. -/
def checkAll
    (table : Table) : Checked (List RuleEntry) :=
  Schema.required table "rules"
    (Schema.listOf (Schema.model check))

end RuleEntry

end GradleMigration

------------------------------------------------------------
-- Faults
------------------------------------------------------------

namespace GradleMigration

/- Why a catalog is refused. -/
inductive CatalogFault where
| notText (fault : Utf8.Fault)
| notToml (source : String)
| tooManyDigits (count : Nat)
| invalid (source : String) (issues : List Issue)
| duplicateId (id source : String)
| unknownKind (id kind : String)
| noSubstitutions (id : String)
| badPattern (id pattern : String) (fault : PatternFault)
deriving Repr

/- The wording of a fault. -/
def CatalogFault.message : CatalogFault → String
| .notText fault => fault.message
| .notToml source => s!"Cannot parse {source}"
| .tooManyDigits count =>
    (Toml.Fault.tooManyDigits count).message
| .invalid source issues =>
    let count := issueCount issues "RuleCatalog"
    s!"Invalid rule entry in {source}: {count}"
| .duplicateId id source =>
    s!"Duplicate rule id '{id}' in {source}"
| .unknownKind id kind => s!"Rule {id}: unknown kind '{kind}'"
| .noSubstitutions id =>
    s!"Rule {id} is auto-fixable but declares no substitutions"
| .badPattern id pattern (.refused cause position text) =>
    let shown := Text.quoted pattern
    let reason :=
      (PatternFault.refused cause position text).message
    s!"Rule {id}: invalid pattern {shown}: {reason}"
| .badPattern _ _ fault => fault.message

end GradleMigration

------------------------------------------------------------
-- Building Rules
------------------------------------------------------------

namespace GradleMigration

/- The kind with a name. -/
def RuleKind.ofName? : String → Option RuleKind
| "substitution" => some .substitution
| "task-leftshift" => some .taskLeftShift
| _ => none

namespace RuleEntry

/- Compile a pattern on behalf of a rule. -/
def compile
    (id source : String) : Except CatalogFault Regex :=
  match Regex.compile source with
  | .ok regex => .ok regex
  | .error fault => .error (.badPattern id source fault)

/- Compile the substitutions of a rule in order. -/
def compileAll
    (id : String) :
    List (String × String) →
    Except CatalogFault (List Substitution)
| [] => .ok []
| (source, replacement) :: rest =>
    match compile id source with
    | .error fault => .error fault
    | .ok regex =>
        match compileAll id rest with
        | .error fault => .error fault
        | .ok more => .ok (⟨regex, replacement⟩ :: more)

/-
  The rule of an entry.  Checked in this order: the kind, the
  substitutions that an automatic fix needs, the pattern, the
  patterns of the substitutions.
-/
def build
    (entry : RuleEntry) : Except CatalogFault Rule :=
  match RuleKind.ofName? entry.kind with
  | none => .error (.unknownKind entry.id entry.kind)
  | some kind =>
      if entry.autoFixable && kind = .substitution &&
          entry.substitutions.isEmpty then
        .error (.noSubstitutions entry.id)
      else
        match compile entry.id entry.pattern with
        | .error fault => .error fault
        | .ok pattern =>
            match compileAll entry.id entry.substitutions with
            | .error fault => .error fault
            | .ok substitutions =>
                .ok
                  { id := entry.id
                    pattern := pattern
                    severity := entry.severity
                    title := entry.title
                    description := entry.description
                    autoFixable := entry.autoFixable
                    explanation := entry.explanation
                    kind := kind
                    substitutions := substitutions }

end RuleEntry

end GradleMigration
