import GradleMigration.Rule.Entry
import GradleMigration.Text.Case
import GradleMigration.Text.Lines
import GradleMigration.Toml.Reader

/-
  The table of migration rules loaded from a catalog.

  Key definitions include:
    * `Registry`
    * `Registry.ofEntries`
    * `Registry.ofText`
    * `Registry.ofBytes`
    * `Registry.get?`
    * `Registry.enabled`

  A catalog is taken whole or refused at the first entry that
  breaks a condition.
-/

------------------------------------------------------------
-- Loading
------------------------------------------------------------

namespace GradleMigration

/- Rules in the order of their catalog. -/
structure Registry where
  rules : List Rule
deriving Repr

namespace Registry

/- The registry of an empty catalog. -/
def empty : Registry :=
  ⟨[]⟩

/- The rule with an id. -/
def get?
    (registry : Registry)
    (id : String) : Option Rule :=
  registry.rules.find? (·.id == id)

/- Whether there is a rule with an id. -/
def contains
    (registry : Registry)
    (id : String) : Bool :=
  (registry.get? id).isSome

/- Add the rules of entries to those already built. -/
def addEntries
    (source : String) :
    Registry →
    List RuleEntry → Except CatalogFault Registry
| registry, [] => .ok registry
| registry, entry :: entries =>
    if registry.contains entry.id then
      .error (.duplicateId entry.id source)
    else
      match entry.build with
      | .error fault => .error fault
      | .ok rule =>
          addEntries source ⟨registry.rules ++ [rule]⟩ entries

/- The registry of a list of entries. -/
def ofEntries
    (source : String)
    (entries : List RuleEntry) :
    Except CatalogFault Registry :=
  addEntries source .empty entries

/- The registry of a catalog text. -/
def ofText
    (source : String)
    (text : List Char) : Except CatalogFault Registry :=
  match Toml.read text with
  | .error .notToml => .error (.notToml source)
  | .error (.tooManyDigits count) =>
      .error (.tooManyDigits count)
  | .ok table =>
      match RuleEntry.checkAll table with
      | .bad issues => .error (.invalid source issues)
      | .good entries => ofEntries source entries

/-
  The registry of a catalog file; every kind of line end is
  accepted.
-/
def ofBytes
    (source : String)
    (bytes : List UInt8) : Except CatalogFault Registry :=
  match Utf8.decode bytes with
  | .error fault => .error (.notText fault)
  | .ok text => ofText source (Text.unifyNewlines text)

end Registry

end GradleMigration

------------------------------------------------------------
-- Selection
------------------------------------------------------------

namespace GradleMigration

/- The key that stands for every rule. -/
def allKey : String :=
  "ALL"

/- Whether a rule is meant by one of the keys. -/
def Rule.isMeantBy
    (rule : Rule)
    (keys : List String) : Bool :=
  keys.contains allKey || keys.contains rule.id ||
    keys.contains rule.severity.name

namespace Registry

/-
  The rules that some selected key means and no ignored one.
  Keys are rule ids or severity names, taken in upper case.
-/
def enabled
    (registry : Registry)
    (select ignore : List String) : List Rule :=
  let select := select.map Text.upperText
  let ignore := ignore.map Text.upperText
  registry.rules.filter fun rule =>
    rule.isMeantBy select && !rule.isMeantBy ignore

end Registry

end GradleMigration
