/-
  How severe a finding is.

  Key definitions include:
    * `Severity`
    * `Severity.name`
    * `Severity.rank`
    * `Severity.ofName?`
-/

------------------------------------------------------------
-- Severities
------------------------------------------------------------

namespace GradleMigration

/- The severities, the gravest first. -/
inductive Severity where
| critical
| high
| medium
| low
deriving DecidableEq, Repr

namespace Severity

/- All severities, the gravest first. -/
def all : List Severity :=
  [.critical, .high, .medium, .low]

/- The name of a severity. -/
def name : Severity → String
| .critical => "CRITICAL"
| .high => "HIGH"
| .medium => "MEDIUM"
| .low => "LOW"

/- Graver severities have greater ranks. -/
def rank : Severity → Nat
| .critical => 4
| .high => 3
| .medium => 2
| .low => 1

/- The severity with exactly this name. -/
def ofName?
    (text : String) : Option Severity :=
  all.find? (·.name == text)

/- The severity with this name in any case. -/
def ofAnyCase?
    (text : String) : Option Severity :=
  all.find? fun severity =>
    severity.name.toList.map Char.toLower ==
      text.toList.map Char.toLower

end Severity

end GradleMigration
