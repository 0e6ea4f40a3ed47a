import GradleMigration.Rule.Registry

/-
  Whether a rule can change texts does not depend on the
  text: a replacement is refused for every text or for none.
  A rule whose every change wears something off comes to rest
  when it is applied again and again.

  Main declarations:
    * `Rule.Total`
    * `Rule.total_of_readable`
    * `Rule.total_of_transform`
    * `Rule.total_of_suggestFix`
    * `Rule.passes`
    * `Rule.exists_passes_settled`
-/

------------------------------------------------------------
-- Substitutions
------------------------------------------------------------

namespace GradleMigration

namespace Substitution

/- A substitution whose replacement text is well formed. -/
def Readable
    (s : Substitution) : Prop :=
  ∃ parts, s.pattern.template s.replacement.toList = .ok parts

/- What a readable substitution makes of a text. -/
theorem apply_of_template
    {s : Substitution}
    {parts : List TemplatePart}
    (h : s.pattern.template s.replacement.toList = .ok parts)
    (text : List Char) :
    s.apply text =
      .ok (s.pattern.replaceHits (expand parts) text) := by
  simp [apply, Regex.substitute, h]

/- A substitution that applies to one text is readable. -/
theorem readable_of_apply
    {s : Substitution}
    {text changed : List Char}
    (h : s.apply text = .ok changed) :
    s.Readable := by
  unfold apply Regex.substitute at h
  split at h
  · cases h
  · next parts hParts => exact ⟨parts, hParts⟩

/- Readable substitutions apply to every text. -/
theorem applyAll_of_readable
    {substitutions : List Substitution}
    (h : ∀ s ∈ substitutions, s.Readable)
    (text : List Char) :
    ∃ changed, applyAll substitutions text = .ok changed := by
  induction substitutions generalizing text with
  | nil => exact ⟨text, rfl⟩
  | cons s rest ih =>
      rcases h s List.mem_cons_self with ⟨parts, hParts⟩
      rcases ih
          (fun other hOther =>
            h other (List.mem_cons_of_mem _ hOther))
          (s.pattern.replaceHits (expand parts) text) with
        ⟨changed, hChanged⟩
      refine ⟨changed, ?_⟩
      unfold applyAll
      rw [apply_of_template hParts]
      exact hChanged

/- Substitutions that apply to one text are readable. -/
theorem readable_of_applyAll
    {substitutions : List Substitution}
    {text changed : List Char}
    (h : applyAll substitutions text = .ok changed) :
    ∀ s ∈ substitutions, s.Readable := by
  induction substitutions generalizing text with
  | nil => simp
  | cons s rest ih =>
      unfold applyAll at h
      split at h
      · cases h
      · next between hApply =>
          intro other hOther
          rcases List.mem_cons.mp hOther with hHere | hRest
          · exact hHere ▸ readable_of_apply hApply
          · exact ih h other hRest

end Substitution

end GradleMigration

------------------------------------------------------------
-- Rules
------------------------------------------------------------

namespace GradleMigration

namespace Rule

/- The text that the rule for tasks makes. -/
theorem transform_eq_migrateTasks
    {rule : Rule}
    (hKind : rule.kind = .taskLeftShift)
    (content : List Char) :
    rule.transform content =
      .ok (Script.migrateTasks content) := by
  unfold transform
  rw [hKind]

/- The other rules make their substitutions. -/
theorem transform_eq_applyAll
    {rule : Rule}
    (hKind : rule.kind = .substitution)
    (content : List Char) :
    rule.transform content =
      Substitution.applyAll rule.substitutions content := by
  unfold transform
  rw [hKind]

/- A rule that changes every text without a fault. -/
def Total
    (rule : Rule) : Prop :=
  ∀ content, ∃ text, rule.transform content = .ok text

/- A rule with readable substitutions is total. -/
theorem total_of_readable
    {rule : Rule}
    (h : ∀ s ∈ rule.substitutions, s.Readable) :
    rule.Total := by
  intro content
  cases hKind : rule.kind with
  | substitution =>
      rw [transform_eq_applyAll hKind]
      exact Substitution.applyAll_of_readable h content
  | taskLeftShift =>
      exact ⟨_, transform_eq_migrateTasks hKind content⟩

/- A rule that has changed one text can change them all. -/
theorem total_of_transform
    {rule : Rule}
    {content text : List Char}
    (h : rule.transform content = .ok text) :
    rule.Total := by
  intro other
  cases hKind : rule.kind with
  | substitution =>
      rw [transform_eq_applyAll hKind] at h ⊢
      exact Substitution.applyAll_of_readable
        (Substitution.readable_of_applyAll h) other
  | taskLeftShift =>
      exact ⟨_, transform_eq_migrateTasks hKind other⟩

/- A suggestion is only made by changing its source text. -/
theorem total_of_suggestFix
    {rule : Rule}
    {matched suggestion : List Char}
    {context : Option (List Char)}
    (h : rule.suggestFix matched context = .ok suggestion) :
    rule.Total := by
  unfold suggestFix at h
  simp only at h
  split at h
  · cases h
  · next fixed hFixed => exact total_of_transform hFixed

end Rule

end GradleMigration

------------------------------------------------------------
-- Passes
------------------------------------------------------------

namespace GradleMigration

namespace Rule

/- What some passes of a rule, one after another, make. -/
def passes
    (rule : Rule) :
    Nat → List Char → Except TemplateFault (List Char)
| 0, text => .ok text
| count + 1, text =>
    match rule.transform text with
    | .error fault => .error fault
    | .ok changed => rule.passes count changed

/-
  If a pass keeps a text or lowers a measure of it, some pass
  leaves a text that is kept, at the latest when nothing is
  left to measure.
-/
theorem exists_passes_settled
    {rule : Rule}
    {measure : List Char → Nat}
    (h : ∀ text, ∃ changed, rule.transform text = .ok changed ∧
      (changed = text ∨ measure changed < measure text))
    (content : List Char) :
    ∃ count ≤ measure content, ∃ text,
      rule.passes count content = .ok text ∧
        rule.transform text = .ok text := by
  induction hMeasure : measure content using Nat.strongRecOn
    generalizing content with
  | _ n ih =>
      subst hMeasure
      rcases h content with ⟨changed, hChanged, hSame | hLess⟩
      · subst hSame
        exact ⟨0, Nat.zero_le _, changed, rfl, hChanged⟩
      · rcases ih _ hLess changed rfl with
          ⟨count, hCount, text, hText, hRest⟩
        refine ⟨count + 1, by omega, text, ?_, hRest⟩
        rw [passes, hChanged]
        exact hText

end Rule

end GradleMigration
