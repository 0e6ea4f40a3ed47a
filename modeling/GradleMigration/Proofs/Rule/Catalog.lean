import GradleMigration.Proofs.Rule.Evaluation
import GradleMigration.Proofs.Rule.Fixable
import GradleMigration.Proofs.Rule.Loading
import GradleMigration.Rule.Builtin

/-
  The catalog that comes with the program is loaded whole, and
  each of its rules agrees with itself.

  Main declarations:
    * `Builtin.marks`
    * `Registry.builtin_eq_decoded`
    * `Registry.ofEntries_builtin`
    * `Registry.mem_builtin_of_build`
    * `Registry.agrees_of_mem_builtin`
-/

------------------------------------------------------------
-- Checking the Catalog
------------------------------------------------------------

namespace GradleMigration

/-
  Characters of which the replacements in the catalog hold
  more than what they replace.
-/
def Builtin.marks : List Char :=
  ['s', 'n', '.']

namespace Registry

/- Whether a catalog is loaded with rules that leave a trace. -/
def isTraced
    (entries : List RuleEntry) : Bool :=
  match ofEntries builtinSource entries with
  | .error _ => false
  | .ok registry =>
      registry.rules.all (·.leavesTrace Builtin.marks)

/- What the check of a catalog says. -/
theorem of_isTraced
    {entries : List RuleEntry}
    (h : isTraced entries = true) :
    ∃ registry,
      ofEntries builtinSource entries = .ok registry ∧
        ∀ rule ∈ registry.rules,
          rule.leavesTrace Builtin.marks = true := by
  unfold isTraced at h
  split at h
  · cases h
  · next registry hLoad =>
      exact ⟨registry, hLoad, List.all_eq_true.mp h⟩

/- The check as it is evaluated. -/
theorem isTraced_eq_decoded
    (entries : List RuleEntry) :
    isTraced entries = match
        ofEntriesDecoded builtinSource entries with
      | .error _ => false
      | .ok registry =>
          registry.rules.all (·.leavesTrace Builtin.marks) := by
  rw [isTraced, ofEntries_eq_decoded]

/- All patterns and templates of the catalog are read here. -/
theorem isTraced_builtin :
    isTraced Builtin.entries = true := by
  rw [isTraced_eq_decoded]
  decide +kernel

/- The registry of a catalog, or an empty one. -/
def loaded
    (entries : List RuleEntry) : Registry :=
  match ofEntries builtinSource entries with
  | .ok registry => registry
  | .error _ => .empty

theorem loaded_eq
    {entries : List RuleEntry}
    {registry : Registry}
    (h : ofEntries builtinSource entries = .ok registry) :
    loaded entries = registry := by
  unfold loaded
  rw [h]

/- Without the attribute the catalog would be loaded here. -/
attribute [local irreducible] ofEntries in
theorem builtin_eq_loaded :
    builtin = loaded Builtin.entries :=
  rfl

/- A catalog that is loaded is what the program has. -/
theorem builtin_eq
    {registry : Registry}
    (h : ofEntries builtinSource Builtin.entries =
      .ok registry) :
    builtin = registry :=
  builtin_eq_loaded.trans (loaded_eq h)

/- The registry for checks that are evaluated. -/
theorem builtin_eq_decoded :
    builtin = match
        ofEntriesDecoded builtinSource Builtin.entries with
      | .ok registry => registry
      | .error _ => .empty := by
  rw [builtin_eq_loaded, loaded, ofEntries_eq_decoded]

/- The catalog is loaded whole. -/
theorem ofEntries_builtin :
    ofEntries builtinSource Builtin.entries =
      .ok builtin := by
  rcases of_isTraced isTraced_builtin with
    ⟨registry, hLoad, _⟩
  rw [builtin_eq hLoad]
  exact hLoad

/- The rule of each entry is one of the rules. -/
theorem mem_builtin_of_build
    {entry : RuleEntry}
    (hEntry : entry ∈ Builtin.entries)
    {rule : Rule}
    (h : entry.build = .ok rule) :
    rule ∈ builtin.rules :=
  mem_of_addEntries ofEntries_builtin (Or.inr ⟨entry, hEntry, h⟩)

/- Every rule of the catalog leaves a trace. -/
theorem leavesTrace_of_mem_builtin
    {rule : Rule}
    (h : rule ∈ builtin.rules) :
    rule.leavesTrace Builtin.marks = true := by
  rcases of_isTraced isTraced_builtin with
    ⟨registry, hLoad, hTraced⟩
  rw [builtin_eq hLoad] at h
  exact hTraced rule h

/- The rules of the catalog change every text. -/
theorem total_of_mem_builtin
    {rule : Rule}
    (h : rule ∈ builtin.rules) :
    rule.Total :=
  Rule.total_of_leavesTrace (leavesTrace_of_mem_builtin h)

/- The rules of the catalog agree with themselves. -/
theorem agrees_of_mem_builtin
    {rule : Rule}
    (h : rule ∈ builtin.rules) :
    rule.Agrees :=
  Rule.agrees_of_leavesTrace (leavesTrace_of_mem_builtin h)

/- The ids of the catalog are distinct. -/
theorem distinctIds_builtin :
    builtin.DistinctIds :=
  distinctIds_of_ofEntries ofEntries_builtin

end Registry

end GradleMigration
