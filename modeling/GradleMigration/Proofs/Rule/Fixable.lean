import GradleMigration.Proofs.Pattern.Replacing
import GradleMigration.Proofs.Pattern.WholeLines
import GradleMigration.Proofs.Rule.Transform
import GradleMigration.Proofs.Script.Headers

/-
  Rules that agree with themselves: where an occurrence counts
  as fixable, migrating the whole text changes it.

  An occurrence is judged on its own lines.  What changes
  these lines has a hit in the text as well, and a rule whose
  replacements leave a trace never undoes what it has done.

  Main declarations:
    * `Substitution.exists_hits_of_applyAll`
    * `Substitution.count_of_applyAll`
    * `Rule.leavesTrace`
    * `Rule.Agrees`
    * `Rule.total_of_leavesTrace`
    * `Rule.agrees_of_leavesTrace`
-/

------------------------------------------------------------
-- Substitutions that Leave a Mark
------------------------------------------------------------

namespace GradleMigration

namespace Substitution

/- A substitution without a hit changes nothing. -/
theorem apply_of_hits_eq_nil
    {s : Substitution}
    {text changed : List Char}
    (h : s.apply text = .ok changed)
    (hHits : s.pattern.hits text = []) :
    changed = text := by
  rcases readable_of_apply h with ⟨parts, hParts⟩
  rw [apply_of_template hParts,
    Regex.replaceHits_of_hits_eq_nil hHits] at h
  cases h
  rfl

/-
  Where substitutions change a text, one of them has a hit in
  the text itself.
-/
theorem exists_hits_of_applyAll
    {substitutions : List Substitution}
    {text changed : List Char}
    (h : applyAll substitutions text = .ok changed)
    (hNe : changed ≠ text) :
    ∃ s ∈ substitutions, s.pattern.hits text ≠ [] := by
  induction substitutions with
  | nil =>
      cases h
      exact absurd rfl hNe
  | cons s rest ih =>
      unfold applyAll at h
      split at h
      · cases h
      · next between hApply =>
          by_cases hHits : s.pattern.hits text = []
          · cases apply_of_hits_eq_nil hApply hHits
            rcases ih h with ⟨other, hOther, hFound⟩
            exact ⟨other, List.mem_cons_of_mem _ hOther, hFound⟩
          · exact ⟨s, List.mem_cons_self, hHits⟩

/-
  Whether it can be read off a substitution that every hit
  makes a character more frequent.
-/
def leavesMark
    (mark : Char)
    (s : Substitution) : Bool :=
  match s.pattern.template s.replacement.toList with
  | .error _ => false
  | .ok parts => s.pattern.outweighs mark parts

/- A substitution that leaves a mark has been read. -/
theorem readable_of_leavesMark
    {mark : Char}
    {s : Substitution}
    (h : s.leavesMark mark = true) :
    s.Readable := by
  unfold leavesMark at h
  split at h
  · cases h
  · next parts hParts => exact ⟨parts, hParts⟩

/- Every hit of such a substitution adds to the count. -/
theorem count_of_apply
    {mark : Char}
    {s : Substitution}
    (hMark : s.leavesMark mark = true)
    {text changed : List Char}
    (h : s.apply text = .ok changed) :
    text.count mark + (s.pattern.hits text).length ≤
      changed.count mark := by
  unfold leavesMark at hMark
  split at hMark
  · cases hMark
  · next parts hParts =>
      rw [apply_of_template hParts] at h
      cases h
      apply Regex.count_replaceHits
      intro hit hHit
      exact Regex.count_lt_of_outweighs hMark
        (Regex.ofWay_of_mem_hits hHit)

/- The mark never gets less frequent. -/
theorem count_le_of_applyAll
    {mark : Char}
    {substitutions : List Substitution}
    (hMark : ∀ s ∈ substitutions, s.leavesMark mark = true)
    {text changed : List Char}
    (h : applyAll substitutions text = .ok changed) :
    text.count mark ≤ changed.count mark := by
  induction substitutions generalizing text with
  | nil =>
      cases h
      exact Nat.le_refl _
  | cons s rest ih =>
      unfold applyAll at h
      split at h
      · cases h
      · next between hApply =>
          have hFirst :=
            count_of_apply (hMark s List.mem_cons_self) hApply
          have hRest := ih
            (fun other hOther =>
              hMark other (List.mem_cons_of_mem _ hOther)) h
          omega

/-
  Where one of the substitutions has a hit, the mark gets more
  frequent: that one finds the text unchanged, or one before
  it has had a hit.
-/
theorem count_lt_of_applyAll
    {mark : Char}
    {substitutions : List Substitution}
    (hMark : ∀ s ∈ substitutions, s.leavesMark mark = true)
    {text changed : List Char}
    (h : applyAll substitutions text = .ok changed)
    {s : Substitution}
    (hS : s ∈ substitutions)
    (hHits : s.pattern.hits text ≠ []) :
    text.count mark < changed.count mark := by
  induction substitutions with
  | nil => cases hS
  | cons first rest ih =>
      have hRest : ∀ s ∈ rest, s.leavesMark mark = true :=
        fun other hOther =>
          hMark other (List.mem_cons_of_mem _ hOther)
      unfold applyAll at h
      split at h
      · cases h
      · next between hApply =>
          have hFirst :=
            count_of_apply (hMark first List.mem_cons_self) hApply
          have hLater := count_le_of_applyAll hRest h
          by_cases hNone : first.pattern.hits text = []
          · cases apply_of_hits_eq_nil hApply hNone
            rcases List.mem_cons.mp hS with hHere | hMem
            · rw [hHere] at hHits
              exact absurd hNone hHits
            · exact ih hRest h hMem
          · have hPos := List.length_pos_iff.mpr hNone
            omega

/-
  Whether it can be read off a substitution that a text with a
  hit differs from what becomes of it.
-/
def leavesDifference
    (s : Substitution) : Bool :=
  match s.pattern.template s.replacement.toList with
  | .error _ => false
  | .ok parts => s.pattern.diverges parts

/- A substitution that leaves a difference has been read. -/
theorem readable_of_leavesDifference
    {s : Substitution}
    (h : s.leavesDifference = true) :
    s.Readable := by
  unfold leavesDifference at h
  split at h
  · cases h
  · next parts hParts => exact ⟨parts, hParts⟩

/- A text with a hit of such a substitution is changed. -/
theorem apply_ne_of_leavesDifference
    {s : Substitution}
    (hDiffers : s.leavesDifference = true)
    {text changed : List Char}
    (h : s.apply text = .ok changed)
    (hHits : s.pattern.hits text ≠ []) :
    changed ≠ text := by
  unfold leavesDifference at hDiffers
  split at hDiffers
  · cases hDiffers
  · next parts hParts =>
      rw [apply_of_template hParts] at h
      cases h
      exact Regex.replaceHits_ne_of_diverges hDiffers hHits

end Substitution

end GradleMigration

------------------------------------------------------------
-- Rules that Agree with Themselves
------------------------------------------------------------

namespace GradleMigration

namespace Rule

/-
  Where an occurrence is fixable, migrating the whole text
  changes it.
-/
def Agrees
    (rule : Rule) : Prop :=
  ∀ content hit, rule.isFixable content hit = .ok true →
    ∃ text, rule.transform content = .ok text ∧ text ≠ content

/-
  Whether it can be read off the substitutions of a rule that
  a text with a hit of one of them is changed by all of them.
-/
def leavesTrace
    (marks : List Char)
    (rule : Rule) : Bool :=
  rule.substitutions.all (·.pattern.pattern.isLineLocal) &&
    match rule.substitutions with
    | [s] =>
        marks.any (s.leavesMark ·) || s.leavesDifference
    | substitutions =>
        marks.any fun mark =>
          substitutions.all (·.leavesMark mark)

/- What leaves a trace in a text has changed it. -/
theorem applyAll_ne_of_leavesTrace
    {marks : List Char}
    {rule : Rule}
    (hTrace : rule.leavesTrace marks = true)
    {text changed : List Char}
    (h : Substitution.applyAll rule.substitutions text =
      .ok changed)
    {s : Substitution}
    (hS : s ∈ rule.substitutions)
    (hHits : s.pattern.hits text ≠ []) :
    changed ≠ text := by
  have hMarked :
      ∀ mark,
        (∀ s ∈ rule.substitutions, s.leavesMark mark = true) →
          changed ≠ text := by
    intro mark hMark hEq
    have hLess :=
      Substitution.count_lt_of_applyAll hMark h hS hHits
    rw [hEq] at hLess
    exact Nat.lt_irrefl _ hLess
  unfold leavesTrace at hTrace
  rw [Bool.and_eq_true] at hTrace
  replace hTrace := hTrace.2
  split at hTrace
  · next only hOnly =>
      rw [hOnly, List.mem_singleton] at hS
      subst hS
      rcases Bool.or_eq_true_iff.mp hTrace with hSome | hDiffers
      · rcases List.any_eq_true.mp hSome with
          ⟨mark, _, hMark⟩
        apply hMarked mark
        rw [hOnly]
        simpa using hMark
      · rw [hOnly] at h
        simp only [Substitution.applyAll] at h
        split at h
        · cases h
        · next between hApply =>
            cases h
            exact Substitution.apply_ne_of_leavesDifference
              hDiffers hApply hHits
  · rcases List.any_eq_true.mp hTrace with ⟨mark, _, hMark⟩
    exact hMarked mark (List.all_eq_true.mp hMark)

/- The replacements of a rule that leaves a trace are read. -/
theorem total_of_leavesTrace
    {marks : List Char}
    {rule : Rule}
    (hTrace : rule.leavesTrace marks = true) :
    rule.Total := by
  apply total_of_readable
  unfold leavesTrace at hTrace
  rw [Bool.and_eq_true] at hTrace
  replace hTrace := hTrace.2
  split at hTrace
  · next only hOnly =>
      rw [hOnly]
      intro s hS
      cases List.mem_singleton.mp hS
      rcases Bool.or_eq_true_iff.mp hTrace with hSome | hDiffers
      · rcases List.any_eq_true.mp hSome with
          ⟨mark, _, hMark⟩
        exact Substitution.readable_of_leavesMark hMark
      · exact Substitution.readable_of_leavesDifference hDiffers
  · rcases List.any_eq_true.mp hTrace with ⟨mark, _, hMark⟩
    intro s hS
    exact Substitution.readable_of_leavesMark
      (List.all_eq_true.mp hMark s hS)

/-
  Where the lines around a hit are changed by substitutions
  that leave a trace, so is the text.
-/
theorem transform_ne_of_isFixable
    {marks : List Char}
    {rule : Rule}
    (hKind : rule.kind = .substitution)
    (hTrace : rule.leavesTrace marks = true)
    {content text : List Char}
    {hit : Hit}
    (hFixable : rule.isFixable content hit = .ok true)
    (hText : rule.transform content = .ok text) :
    text ≠ content := by
  unfold isFixable at hFixable
  split at hFixable
  · cases hFixable
  · rw [hKind] at hFixable
    simp only at hFixable
    split at hFixable
    · cases hFixable
    · next fixed hFixed =>
        injection hFixable with hChanged
        rw [transform_eq_applyAll hKind] at hFixed hText
        rcases Substitution.exists_hits_of_applyAll hFixed
            (bne_iff_ne.mp hChanged) with
          ⟨s, hS, hHits⟩
        have hLocal : s.pattern.pattern.isLineLocal = true := by
          unfold leavesTrace at hTrace
          rw [Bool.and_eq_true, List.all_eq_true] at hTrace
          exact hTrace.1 s hS
        rcases Text.wholeLines_lineOf content
            (Nat.le_add_right hit.start hit.text.length) with
          ⟨front, behind, hContent, hLines⟩
        have hFound : s.pattern.hits content ≠ [] := by
          rw [hContent]
          exact Regex.hits_ne_nil_of_wholeLines hLines hLocal
            hHits
        exact applyAll_ne_of_leavesTrace hTrace hText hS hFound

/- A task whose body is closed is migrated in the text. -/
theorem migrateTasks_ne_of_isFixable
    {rule : Rule}
    (hKind : rule.kind = .taskLeftShift)
    {content : List Char}
    {hit : Hit}
    (hFixable : rule.isFixable content hit = .ok true) :
    Script.migrateTasks content ≠ content := by
  unfold isFixable at hFixable
  split at hFixable
  · cases hFixable
  · rw [hKind] at hFixable
    simp only at hFixable
    split at hFixable
    · cases hFixable
    · next header hHeader =>
        injection hFixable with hClose
        exact Script.migrateTasks_ne hHeader hClose

/- A rule whose replacements leave a trace agrees. -/
theorem agrees_of_leavesTrace
    {marks : List Char}
    {rule : Rule}
    (hTrace : rule.leavesTrace marks = true) :
    rule.Agrees := by
  intro content hit hFixable
  rcases total_of_leavesTrace hTrace content with
    ⟨text, hText⟩
  refine ⟨text, hText, ?_⟩
  cases hKind : rule.kind with
  | substitution =>
      exact transform_ne_of_isFixable hKind hTrace hFixable
        hText
  | taskLeftShift =>
      rw [transform_eq_migrateTasks hKind] at hText
      cases hText
      exact migrateTasks_ne_of_isFixable hKind hFixable

end Rule

end GradleMigration
