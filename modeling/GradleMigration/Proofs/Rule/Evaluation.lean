import GradleMigration.Proofs.Text.Decoded
import GradleMigration.Rule.Registry

/-
  Rules that are built to be evaluated.

  The functions of this file do what compiling a pattern and
  building a rule or a registry do, but decode the characters
  of a pattern from its bytes.  A closed check on entries is
  rewritten by the equations below before it is evaluated.

  Main declarations:
    * `Regex.compile_eq_decoded`
    * `RuleEntry.build_eq_decoded`
    * `Registry.ofEntries_eq_decoded`
-/

------------------------------------------------------------
-- Patterns
------------------------------------------------------------

namespace GradleMigration

namespace Regex

/- The pattern that the decoded characters of a text spell. -/
def compileDecoded
    (source : String) : Except PatternFault Regex :=
  let text := Text.decoded source
  match Reading.run text (readWhole text.length) with
  | .error fault => .error fault
  | .ok ((pattern, modes), state) =>
      match pattern.fault (modes.contains .bare) with
      | some cause => .error (.refused cause none text)
      | none =>
          .ok
            { source := source
              pattern := pattern
              groupCount := state.groups - 1
              groupNames := state.names }

theorem compile_eq_decoded
    (source : String) :
    compile source = compileDecoded source := by
  have hText := Text.toList_eq_decoded source
  unfold compile compileDecoded
  generalize source.toList = text at hText ⊢
  subst hText
  rfl

end Regex

end GradleMigration

------------------------------------------------------------
-- Rules
------------------------------------------------------------

namespace GradleMigration

namespace RuleEntry

/- Compile decoded substitutions in order. -/
def compileAllDecoded
    (id : String) :
    List (String × String) →
    Except CatalogFault (List Substitution)
| [] => .ok []
| (source, replacement) :: rest =>
    match Regex.compileDecoded source with
    | .error fault => .error (.badPattern id source fault)
    | .ok regex =>
        match compileAllDecoded id rest with
        | .error fault => .error fault
        | .ok more => .ok (⟨regex, replacement⟩ :: more)

theorem compileAll_eq_decoded
    (id : String)
    (written : List (String × String)) :
    compileAll id written = compileAllDecoded id written := by
  induction written with
  | nil => rfl
  | cons pair rest ih =>
      unfold compileAll compileAllDecoded compile
      rw [Regex.compile_eq_decoded, ih]
      cases Regex.compileDecoded pair.1 with
      | error fault => rfl
      | ok regex => rfl

/- The rule of an entry with decoded patterns. -/
def buildDecoded
    (entry : RuleEntry) : Except CatalogFault Rule :=
  match RuleKind.ofName? entry.kind with
  | none => .error (.unknownKind entry.id entry.kind)
  | some kind =>
      if entry.autoFixable && kind = .substitution &&
          entry.substitutions.isEmpty then
        .error (.noSubstitutions entry.id)
      else
        match Regex.compileDecoded entry.pattern with
        | .error fault =>
            .error (.badPattern entry.id entry.pattern fault)
        | .ok pattern =>
            match compileAllDecoded entry.id
                entry.substitutions with
            | .error fault => .error fault
            | .ok substitutions =>
                .ok
                  { id := entry.id
                    pattern := pattern
                    severity := entry.severity
                    title := entry.title
                    description := entry.description
                    autoFixable := entry.autoFixable
                    explanation := entry.explanation
                    kind := kind
                    substitutions := substitutions }

theorem build_eq_decoded
    (entry : RuleEntry) :
    entry.build = entry.buildDecoded := by
  unfold build buildDecoded compile
  rw [compileAll_eq_decoded, Regex.compile_eq_decoded]
  cases Regex.compileDecoded entry.pattern with
  | error fault => rfl
  | ok pattern => rfl

end RuleEntry

end GradleMigration

------------------------------------------------------------
-- Registries
------------------------------------------------------------

namespace GradleMigration

namespace Registry

/- Add the rules of entries with decoded patterns. -/
def addEntriesDecoded
    (source : String) :
    Registry →
    List RuleEntry → Except CatalogFault Registry
| registry, [] => .ok registry
| registry, entry :: entries =>
    if registry.contains entry.id then
      .error (.duplicateId entry.id source)
    else
      match entry.buildDecoded with
      | .error fault => .error fault
      | .ok rule =>
          addEntriesDecoded source ⟨registry.rules ++ [rule]⟩
            entries

theorem addEntries_eq_decoded
    (source : String)
    (registry : Registry)
    (entries : List RuleEntry) :
    addEntries source registry entries =
      addEntriesDecoded source registry entries := by
  induction entries generalizing registry with
  | nil => rfl
  | cons entry rest ih =>
      unfold addEntries addEntriesDecoded
      rw [RuleEntry.build_eq_decoded]
      cases entry.buildDecoded with
      | error fault => rfl
      | ok rule => simp only [ih]

/- The registry of entries with decoded patterns. -/
def ofEntriesDecoded
    (source : String)
    (entries : List RuleEntry) :
    Except CatalogFault Registry :=
  addEntriesDecoded source .empty entries

theorem ofEntries_eq_decoded
    (source : String)
    (entries : List RuleEntry) :
    ofEntries source entries =
      ofEntriesDecoded source entries :=
  addEntries_eq_decoded source .empty entries

end Registry

end GradleMigration
