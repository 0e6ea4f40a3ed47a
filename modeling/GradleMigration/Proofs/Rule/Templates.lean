import GradleMigration.Proofs.Data.Outcome
import GradleMigration.Proofs.Rule.Loading
import GradleMigration.Proofs.Rule.Transform
import Mathlib.Data.List.Forall2

/-
  What a catalog that has been loaded says about its rules.

  Loading reads every pattern but no replacement text.  So a
  rule answers everything it is asked, or nothing that needs
  its replacements, and which of the two can be read off its
  entry.

  Main declarations:
    * `Rule.Answers`
    * `Rule.Breaks`
    * `RuleEntry.Fillable`
    * `RuleEntry.answers_iff_of_build`
    * `RuleEntry.breaks_of_build`
    * `Registry.forall₂_of_ofEntries`
    * `Registry.exists_entry_of_mem`
    * `Registry.entries_of_ofText`
-/

------------------------------------------------------------
-- Rules that Answer and Rules that Break
------------------------------------------------------------

namespace GradleMigration

namespace Rule

/- A rule that answers whatever it is asked. -/
structure Answers
    (rule : Rule) : Prop where
  transform : ∀ content, ∃ text,
    rule.transform content = .ok text
  suggestFix : ∀ matched context, ∃ suggestion,
    rule.suggestFix matched context = .ok suggestion
  isFixable : ∀ content hit, ∃ fixable,
    rule.isFixable content hit = .ok fixable

/-
  A rule that has no answer where it needs its replacements;
  whether a hit is fixable it only has to find out when it may
  fix at all.
-/
structure Breaks
    (rule : Rule) : Prop where
  transform : ∀ content, ∃ fault,
    rule.transform content = .error fault
  suggestFix : ∀ matched context, ∃ fault,
    rule.suggestFix matched context = .error fault
  isFixable : ∀ content hit,
    if rule.autoFixable then
      ∃ fault, rule.isFixable content hit = .error fault
    else
      rule.isFixable content hit = .ok false

/- A rule answers exactly when it can change every text. -/
theorem answers_iff_total
    {rule : Rule} :
    rule.Answers ↔ rule.Total := by
  constructor
  · intro h
    exact h.transform
  · intro h
    refine
      { transform := h
        suggestFix := ?_
        isFixable := ?_ }
    · intro matched context
      rcases h (context.getD matched) with ⟨fixed, hFixed⟩
      unfold Rule.suggestFix
      simp only [hFixed]
      exact ⟨_, rfl⟩
    · intro content hit
      rcases h (Text.lineOf content hit.start hit.stop) with
        ⟨fixed, hFixed⟩
      unfold Rule.isFixable
      split
      · exact ⟨_, rfl⟩
      · split
        · split
          · exact ⟨_, rfl⟩
          · exact ⟨_, rfl⟩
        · simp only [hFixed]
          exact ⟨_, rfl⟩

/- A rule that cannot change every text can change none. -/
theorem transform_of_not_total
    {rule : Rule}
    (h : ¬ rule.Total)
    (content : List Char) :
    ∃ fault, rule.transform content = .error fault := by
  cases hText : rule.transform content with
  | error fault => exact ⟨fault, rfl⟩
  | ok text => exact absurd (total_of_transform hText) h

/- Tasks are changed without replacements. -/
theorem total_of_taskLeftShift
    {rule : Rule}
    (h : rule.kind = .taskLeftShift) :
    rule.Total := by
  intro content
  exact ⟨_, transform_eq_migrateTasks h content⟩

/- A rule that cannot change every text breaks. -/
theorem breaks_of_not_total
    {rule : Rule}
    (h : ¬ rule.Total) :
    rule.Breaks := by
  refine
    { transform := transform_of_not_total h
      suggestFix := ?_
      isFixable := ?_ }
  · intro matched context
    rcases transform_of_not_total h (context.getD matched) with
      ⟨fault, hFault⟩
    unfold Rule.suggestFix
    simp only [hFault]
    exact ⟨fault, rfl⟩
  · intro content hit
    have hKind : rule.kind = .substitution := by
      cases hKind : rule.kind with
      | substitution => rfl
      | taskLeftShift =>
          exact absurd (total_of_taskLeftShift hKind) h
    rcases transform_of_not_total h
        (Text.lineOf content hit.start hit.stop) with
      ⟨fault, hFault⟩
    unfold Rule.isFixable
    cases rule.autoFixable with
    | false => rfl
    | true =>
        simp only [hKind, hFault]
        exact ⟨fault, rfl⟩

/- What decides is whether the replacements can be read. -/
theorem total_iff_readable
    {rule : Rule} :
    rule.Total ↔
      (rule.kind = .substitution →
        ∀ s ∈ rule.substitutions, s.Readable) := by
  constructor
  · intro h hKind
    rcases h [] with ⟨text, hText⟩
    rw [transform_eq_applyAll hKind] at hText
    exact Substitution.readable_of_applyAll hText
  · intro h
    cases hKind : rule.kind with
    | substitution => exact total_of_readable (h hKind)
    | taskLeftShift => exact total_of_taskLeftShift hKind

end Rule

end GradleMigration

------------------------------------------------------------
-- Entries and their Rules
------------------------------------------------------------

namespace GradleMigration

namespace RuleEntry

/-
  An entry whose replacements can be filled in: each is a
  template for the groups of the pattern it stands with.
-/
def Fillable
    (entry : RuleEntry) : Prop :=
  RuleKind.ofName? entry.kind = some .substitution →
    ∀ pair ∈ entry.substitutions, ∀ regex,
      Regex.compile pair.1 = .ok regex →
        ∃ parts, regex.template pair.2.toList = .ok parts

/- What a pair of texts in an entry becomes. -/
def Compiles
    (pair : String × String)
    (s : Substitution) : Prop :=
  Regex.compile pair.1 = .ok s.pattern ∧
    s.replacement = pair.2

/- Substitutions are compiled one by one. -/
theorem forall₂_of_compileAll
    {id : String}
    {pairs : List (String × String)}
    {substitutions : List Substitution}
    (h : compileAll id pairs = .ok substitutions) :
    List.Forall₂ Compiles pairs substitutions := by
  induction pairs generalizing substitutions with
  | nil =>
      cases h
      exact .nil
  | cons pair rest ih =>
      unfold compileAll at h
      split at h
      · cases h
      · next regex hRegex =>
          split at h
          · cases h
          · next more hMore =>
              cases h
              refine .cons ⟨?_, rfl⟩ (ih hMore)
              unfold compile at hRegex
              split at hRegex
              · next compiled hCompiled =>
                  cases hRegex
                  exact hCompiled
              · cases hRegex

/- The kind and the substitutions of the rule of an entry. -/
theorem of_build
    {entry : RuleEntry}
    {rule : Rule}
    (h : entry.build = .ok rule) :
    RuleKind.ofName? entry.kind = some rule.kind ∧
      List.Forall₂ Compiles entry.substitutions
        rule.substitutions := by
  unfold build at h
  split at h
  · cases h
  · next kind hKind =>
      split at h
      · cases h
      · split at h
        · cases h
        · split at h
          · cases h
          · next substitutions hSubstitutions =>
              cases h
              exact ⟨hKind,
                forall₂_of_compileAll hSubstitutions⟩

/- Compiled substitutions are readable as their texts say. -/
theorem readable_iff_of_compiles
    {pairs : List (String × String)}
    {substitutions : List Substitution}
    (h : List.Forall₂ Compiles pairs substitutions) :
    (∀ s ∈ substitutions, s.Readable) ↔
      ∀ pair ∈ pairs, ∀ regex,
        Regex.compile pair.1 = .ok regex →
          ∃ parts, regex.template pair.2.toList = .ok parts := by
  induction h with
  | nil => simp
  | cons hHere _ ih =>
      rw [List.forall_mem_cons, List.forall_mem_cons, ih]
      refine and_congr_left fun _ => ?_
      unfold Substitution.Readable
      rw [hHere.1, hHere.2]
      simp

/-
  The replacements of a rule can be read exactly when those of
  its entry can be filled in.
-/
theorem total_iff_fillable
    {entry : RuleEntry}
    {rule : Rule}
    (h : entry.build = .ok rule) :
    rule.Total ↔ entry.Fillable := by
  rcases of_build h with ⟨hKind, hCompiled⟩
  rw [Rule.total_iff_readable]
  unfold Fillable
  rw [hKind, Option.some.injEq,
    readable_iff_of_compiles hCompiled]

/- The rule of an entry that can be filled in answers. -/
theorem answers_iff_of_build
    {entry : RuleEntry}
    {rule : Rule}
    (h : entry.build = .ok rule) :
    rule.Answers ↔ entry.Fillable :=
  Rule.answers_iff_total.trans (total_iff_fillable h)

/- The rule of any other entry breaks. -/
theorem breaks_of_build
    {entry : RuleEntry}
    {rule : Rule}
    (h : entry.build = .ok rule)
    (hEntry : ¬ entry.Fillable) :
    rule.Breaks :=
  Rule.breaks_of_not_total
    (mt (total_iff_fillable h).mp hEntry)

end RuleEntry

end GradleMigration

------------------------------------------------------------
-- Catalogs and their Registries
------------------------------------------------------------

namespace GradleMigration

namespace Registry

/- What a catalog adds is one rule for each entry. -/
theorem forall₂_of_addEntries
    {source : String}
    {entries : List RuleEntry}
    {before after : Registry}
    (h : addEntries source before entries = .ok after) :
    ∃ added, after.rules = before.rules ++ added ∧
      List.Forall₂ (fun entry rule => entry.build = .ok rule)
        entries added := by
  induction entries generalizing before with
  | nil =>
      cases h
      exact ⟨[], (List.append_nil _).symm, .nil⟩
  | cons entry rest ih =>
      unfold addEntries at h
      split at h
      · cases h
      · split at h
        · cases h
        · next rule hBuild =>
            rcases ih h with ⟨added, hRules, hAdded⟩
            refine ⟨rule :: added, ?_, .cons hBuild hAdded⟩
            rw [hRules, List.append_assoc]
            rfl

/- The rules of a loaded catalog are those of its entries. -/
theorem forall₂_of_ofEntries
    {source : String}
    {entries : List RuleEntry}
    {registry : Registry}
    (h : ofEntries source entries = .ok registry) :
    List.Forall₂ (fun entry rule => entry.build = .ok rule)
      entries registry.rules := by
  rcases forall₂_of_addEntries h with
    ⟨added, hRules, hAdded⟩
  rw [hRules]
  exact hAdded

/- Each rule of a registry goes with one of the entries. -/
theorem exists_entry_of_mem
    {entries : List RuleEntry}
    {rules : List Rule}
    {goesWith : RuleEntry → Rule → Prop}
    (h : List.Forall₂ goesWith entries rules)
    {rule : Rule}
    (hRule : rule ∈ rules) :
    ∃ entry ∈ entries, goesWith entry rule := by
  induction h with
  | nil => cases hRule
  | @cons entry first _ _ hHere _ ih =>
      rcases List.mem_cons.mp hRule with hIs | hLater
      · exact ⟨entry, List.mem_cons_self, hIs ▸ hHere⟩
      · rcases ih hLater with ⟨other, hOther, hGoes⟩
        exact ⟨other, List.mem_cons_of_mem _ hOther, hGoes⟩

/- The entries of a catalog text that is accepted. -/
theorem entries_of_ofText
    {source : String}
    {text : List Char}
    {registry : Registry}
    (h : ofText source text = .ok registry) :
    ∃ table entries,
      Toml.parse text = some table ∧
        RuleEntry.checkAll table = .good entries ∧
        List.Forall₂
          (fun entry rule => entry.build = .ok rule)
          entries registry.rules := by
  unfold ofText at h
  split at h
  · cases h
  · cases h
  · next table hRead =>
      have hTable : Toml.parse text = some table :=
        toOption_eq_some_iff.mpr hRead
      split at h
      · cases h
      · next entries hEntries =>
          exact ⟨table, entries, hTable, hEntries,
            forall₂_of_ofEntries h⟩

end Registry

end GradleMigration
