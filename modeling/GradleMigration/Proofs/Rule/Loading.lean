import GradleMigration.Proofs.Rule.Evaluation
import GradleMigration.Rule.Builtin

/-
  The rules of a loaded catalog: their ids are distinct, so
  each rule is found by its id.  What is said of the rule of
  one entry can be tested on the entry.

  Main declarations:
    * `Registry.DistinctIds`
    * `Registry.distinctIds_of_ofEntries`
    * `Registry.mem_of_addEntries`
    * `Registry.get?_of_mem`
    * `RuleEntry.isTested`
    * `Rule.exists_taskLeftshift`
-/

------------------------------------------------------------
-- Distinct Ids
------------------------------------------------------------

namespace GradleMigration

namespace Registry

/- No two rules have the same id. -/
def DistinctIds
    (registry : Registry) : Prop :=
  (registry.rules.map Rule.id).Nodup

/- A registry contains exactly the ids of its rules. -/
theorem contains_iff
    (registry : Registry)
    (id : String) :
    registry.contains id = true ↔
      id ∈ registry.rules.map Rule.id := by
  unfold contains get?
  rw [List.find?_isSome, List.mem_map]
  simp only [beq_iff_eq]

/- The rule of an entry has the id of the entry. -/
theorem id_of_build
    {entry : RuleEntry}
    {rule : Rule}
    (h : entry.build = .ok rule) :
    rule.id = entry.id := by
  unfold RuleEntry.build at h
  split at h
  · cases h
  · split at h
    · cases h
    · split at h
      · cases h
      · split at h
        · cases h
        · cases h
          rfl

/- The kind and the substitutions of the rule of an entry. -/
theorem parts_of_build
    {entry : RuleEntry}
    {rule : Rule}
    (h : entry.build = .ok rule) :
    RuleKind.ofName? entry.kind = some rule.kind ∧
      RuleEntry.compileAll entry.id entry.substitutions =
        .ok rule.substitutions := by
  unfold RuleEntry.build at h
  split at h
  · cases h
  · next hKind =>
      split at h
      · cases h
      · split at h
        · cases h
        · split at h
          · cases h
          · next hSubstitutions =>
              cases h
              exact ⟨hKind, hSubstitutions⟩

/- Adding entries keeps the ids distinct. -/
theorem distinctIds_of_addEntries
    {source : String}
    {entries : List RuleEntry}
    {before after : Registry}
    (hBefore : before.DistinctIds)
    (h : addEntries source before entries = .ok after) :
    after.DistinctIds := by
  induction entries generalizing before with
  | nil =>
      cases h
      exact hBefore
  | cons entry rest ih =>
      unfold addEntries at h
      split at h
      · cases h
      · next hNew =>
          split at h
          · cases h
          · next rule hBuild =>
              refine ih ?_ h
              unfold DistinctIds at hBefore ⊢
              rw [List.map_append, List.map_singleton]
              refine List.nodup_append.mpr
                ⟨hBefore, by simp, ?_⟩
              intro id hId other hOther hEq
              have hRule : id = entry.id := by
                rw [hEq, List.mem_singleton.mp hOther,
                  id_of_build hBuild]
              exact hNew
                ((before.contains_iff entry.id).mpr
                  (hRule ▸ hId))

/- The ids of a loaded catalog are distinct. -/
theorem distinctIds_of_ofEntries
    {source : String}
    {entries : List RuleEntry}
    {registry : Registry}
    (h : ofEntries source entries = .ok registry) :
    registry.DistinctIds := by
  refine distinctIds_of_addEntries ?_ h
  exact List.nodup_nil

/- The rules of all entries get into the registry. -/
theorem mem_of_addEntries
    {source : String}
    {entries : List RuleEntry}
    {before after : Registry}
    (h : addEntries source before entries = .ok after)
    {rule : Rule}
    (hRule : rule ∈ before.rules ∨
      ∃ entry ∈ entries, entry.build = .ok rule) :
    rule ∈ after.rules := by
  induction entries generalizing before with
  | nil =>
      cases h
      rcases hRule with hBefore | ⟨entry, hEntry, _⟩
      · exact hBefore
      · cases hEntry
  | cons entry rest ih =>
      unfold addEntries at h
      split at h
      · cases h
      · split at h
        · cases h
        · next built hBuild =>
            apply ih h
            rcases hRule with hBefore | ⟨other, hOther, hIs⟩
            · exact Or.inl (List.mem_append_left _ hBefore)
            · rcases List.mem_cons.mp hOther with hHere | hLater
              · rw [hHere, hBuild] at hIs
                cases hIs
                exact Or.inl (by simp)
              · exact Or.inr ⟨other, hLater, hIs⟩

/- Each rule is the one that is found by its id. -/
theorem get?_of_mem
    {registry : Registry}
    (hDistinct : registry.DistinctIds)
    {rule : Rule}
    (hRule : rule ∈ registry.rules) :
    registry.get? rule.id = some rule := by
  unfold get?
  unfold DistinctIds at hDistinct
  generalize registry.rules = rules at hDistinct hRule
  induction rules with
  | nil => cases hRule
  | cons first rest ih =>
      have hParts := List.nodup_cons.mp hDistinct
      rcases List.mem_cons.mp hRule with hHere | hRest
      · subst hHere
        simp
      · have hOther : (first.id == rule.id) = false := by
          rw [beq_eq_false_iff_ne]
          intro hEq
          exact hParts.1
            (hEq ▸ List.mem_map_of_mem hRest)
        rw [List.find?_cons, hOther]
        exact ih hParts.2 hRest

end Registry

end GradleMigration

------------------------------------------------------------
-- The Rule of One Entry
------------------------------------------------------------

namespace GradleMigration

namespace RuleEntry

/- Whether an entry has a rule that passes a test. -/
def isTested
    (entry : RuleEntry)
    (test : Rule → Bool) : Bool :=
  match entry.build with
  | .error _ => false
  | .ok rule => test rule

/- The test as it is evaluated. -/
theorem isTested_eq_decoded
    (entry : RuleEntry)
    (test : Rule → Bool) :
    entry.isTested test = match entry.buildDecoded with
      | .error _ => false
      | .ok rule => test rule := by
  rw [isTested, build_eq_decoded]

theorem of_isTested
    {entry : RuleEntry}
    {test : Rule → Bool}
    (h : entry.isTested test = true) :
    ∃ rule, entry.build = .ok rule ∧ test rule = true := by
  unfold isTested at h
  split at h
  · cases h
  · next rule hBuild => exact ⟨rule, hBuild, h⟩

/- The rule of a tested entry has passed the test. -/
theorem test_of_build
    {entry : RuleEntry}
    {test : Rule → Bool}
    (h : entry.isTested test = true)
    {rule : Rule}
    (hBuild : entry.build = .ok rule) :
    test rule = true := by
  unfold isTested at h
  rw [hBuild] at h
  exact h

end RuleEntry

/- The built-in rule for tasks, as an instance. -/
theorem Rule.exists_taskLeftshift :
    ∃ rule,
      Builtin.taskLeftshift.build = .ok rule ∧
        rule.kind = .taskLeftShift := by
  have hTested : Builtin.taskLeftshift.isTested
      (fun rule => rule.kind = .taskLeftShift) = true := by
    rw [RuleEntry.isTested_eq_decoded]
    decide +kernel
  rcases RuleEntry.of_isTested hTested with
    ⟨rule, hBuild, hKind⟩
  exact ⟨rule, hBuild, of_decide_eq_true hKind⟩

end GradleMigration
