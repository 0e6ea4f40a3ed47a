import GradleMigration.Config
import GradleMigration.Report.Saved
import GradleMigration.Session

/-
  What a command ends with.

  Key definitions include:
    * `CommandFault`
    * `CommandFault.message`
    * `CommandFault.nature`
    * `CommandResult`

  A fault is either refused with a message, or passed on when
  the command has no words for it.
-/

------------------------------------------------------------
-- Faults
------------------------------------------------------------

namespace GradleMigration

/- Why a command does not do its work. -/
inductive CommandFault where
| config (fault : ConfigFault)
| read (fault : ReadFault)
| catalog (fault : CatalogFault)
| scan (fault : ScanFault)
| session (fault : SessionFault)
| report (issues : List Issue)
| backup (fault : BackupFault)
deriving Repr

/-
  The nature of a fault: a request that the program refuses, a
  file or a value that cannot be read, or anything else.
-/
inductive FaultNature where
| refusal
| unreadable
| other
deriving DecidableEq, Repr

/- The nature of each kind of fault of a pattern. -/
def FaultNature.ofPattern :
    PatternFault.Kind → FaultNature
| .refusal => .refusal
| .value => .unreadable
| .overflow => .other

/- Refusals of patterns are refusals, other faults are not. -/
@[simp]
theorem FaultNature.ofPattern_eq_refusal_iff
    {kind : PatternFault.Kind} :
    ofPattern kind = .refusal ↔ kind = .refusal := by
  cases kind <;> simp [ofPattern]

namespace CommandFault

/- The wording of a fault. -/
def message : CommandFault → String
| .config fault => fault.message
| .read fault => fault.message
| .catalog fault => fault.message
| .scan fault => fault.message
| .session fault => fault.message
| .report issues => issueCount issues Report.schemaName
| .backup fault => fault.message

/- The nature of a fault. -/
def nature : CommandFault → FaultNature
| .config _ => .unreadable
| .read _ => .unreadable
| .catalog (.notText _) => .unreadable
| .catalog (.tooManyDigits _) => .unreadable
| .catalog (.badPattern _ _ fault) => .ofPattern fault.kind
| .catalog _ => .refusal
| .scan (.project (.file _)) => .unreadable
| .scan (.project _) => .refusal
| .scan (.read _) => .unreadable
| .scan (.template _) => .other
| .session (.stopped (.file _)) => .unreadable
| .session (.stopped (.template _)) => .other
| .session _ => .refusal
| .report _ => .unreadable
| .backup _ => .unreadable

end CommandFault

end GradleMigration

------------------------------------------------------------
-- Results
------------------------------------------------------------

namespace GradleMigration

/-
  The exit code of a command, the lines it has printed, the
  lines it has complained with, and a fault it passes on.
-/
structure CommandResult where
  exit : Nat
  lines : List String
  complaints : List String
  passedOn : Option CommandFault
deriving Repr

namespace CommandResult

/- Lines that end as they should. -/
def printed
    (exit : Nat)
    (lines : List String) : CommandResult :=
  ⟨exit, lines, [], none⟩

/- A complaint. -/
def failed
    (exit : Nat)
    (message : String) : CommandResult :=
  ⟨exit, [], [s!"Error: {message}"], none⟩

/- A fault without words. -/
def passOn
    (fault : CommandFault) : CommandResult :=
  ⟨1, [], [], some fault⟩

/- The result for a fault: refusals are complained about. -/
def ofFault
    (fault : CommandFault) : CommandResult :=
  match fault.nature with
  | .refusal => failed 2 fault.message
  | _ => passOn fault

/-
  The result for a fault of a fix: what cannot be read is
  complained about too.
-/
def ofFixFault
    (fault : CommandFault) : CommandResult :=
  match fault.nature with
  | .refusal => failed 2 fault.message
  | .unreadable =>
      failed 2 s!"Cannot read report: {fault.message}"
  | .other => passOn fault

/- The result for a command line that is no command. -/
def usage : CommandResult :=
  ⟨2, [], ["usage error"], none⟩

end CommandResult

end GradleMigration
