import GradleMigration.Proofs.Pattern.LineByLine
import GradleMigration.Proofs.Rule.Evaluation
import GradleMigration.Proofs.Rule.Transform
import GradleMigration.Proofs.Script.Headers
import GradleMigration.Proofs.Text.Lines

/-
  Rules that rewrite a text line by line, and when one pass of
  them is enough.

  What such a rule looks for in a line is counted.  If every
  replacement lowers the count, a line that holds at most one
  construct is done after one pass: it had no hit, or the hit
  has left no construct in it.

  Main declarations:
    * `Form` and `Form.rewriteAll`
    * `Rule.exists_transform_of_rewritesBy`
    * `Rule.exists_transform_of_hasForms`
    * `Form.rewriteAll_line`
    * `Tally` and `Form.Spends`
    * `Form.rewriteAll_settles`
    * `Form.Wears`
    * `Form.rewriteAll_eq_or_countP_lt`
-/

------------------------------------------------------------
-- Forms
------------------------------------------------------------

namespace GradleMigration

/- A pattern, and the template that replaces its hits. -/
structure Form where
  pattern : Pattern
  template : List TemplatePart
deriving DecidableEq

namespace Form

/- Whether hits are replaced line by line. -/
def isLinewise
    (form : Form) : Bool :=
  form.pattern.isMoving && form.pattern.isLineBound

theorem isMoving_of_isLinewise
    {form : Form}
    (h : form.isLinewise = true) :
    form.pattern.isMoving = true :=
  (Bool.and_eq_true_iff.mp h).1

/- Replace all hits. -/
def rewrite
    (form : Form)
    (text : List Char) : List Char :=
  form.pattern.rewrite (expand form.template) text

/- Replace the hits of one form after another. -/
def rewriteAll : List Form → List Char → List Char
| [], text => text
| form :: rest, text => rewriteAll rest (form.rewrite text)

end Form

/- The form of a substitution, if its replacement is read. -/
def Substitution.form?
    (s : Substitution) : Option Form :=
  match s.pattern.template s.replacement.toList with
  | .error _ => none
  | .ok parts => some ⟨s.pattern.pattern, parts⟩

/- Whether the rule of an entry replaces by given forms. -/
def RuleEntry.rewritesBy
    (entry : RuleEntry)
    (forms : List Form) : Bool :=
  match entry.build with
  | .error _ => false
  | .ok rule =>
      rule.kind = .substitution &&
        rule.substitutions.map (·.form?) = forms.map some

/- Whether the rule of an entry rewrites by the given forms. -/
def RuleEntry.hasForms
    (entry : RuleEntry)
    (forms : List Form) : Bool :=
  match entry.build with
  | .error _ => false
  | .ok rule =>
      rule.kind = .substitution &&
        (rule.substitutions.map (·.form?) = forms.map some &&
          forms.all (·.isLinewise))

/- The checks as they are evaluated. -/
theorem RuleEntry.rewritesBy_eq_decoded
    (entry : RuleEntry)
    (forms : List Form) :
    entry.rewritesBy forms = match entry.buildDecoded with
      | .error _ => false
      | .ok rule =>
          rule.kind = .substitution &&
            rule.substitutions.map (·.form?) =
              forms.map some := by
  rw [rewritesBy, build_eq_decoded]

theorem RuleEntry.hasForms_eq_decoded
    (entry : RuleEntry)
    (forms : List Form) :
    entry.hasForms forms = match entry.buildDecoded with
      | .error _ => false
      | .ok rule =>
          rule.kind = .substitution &&
            (rule.substitutions.map (·.form?) =
                forms.map some &&
              forms.all (·.isLinewise)) := by
  rw [hasForms, build_eq_decoded]

/- An entry with forms has a rule. -/
theorem RuleEntry.of_rewritesBy
    {entry : RuleEntry}
    {forms : List Form}
    (h : entry.rewritesBy forms = true) :
    ∃ rule, entry.build = .ok rule ∧
      rule.kind = .substitution ∧
        rule.substitutions.map (·.form?) = forms.map some := by
  unfold rewritesBy at h
  split at h
  · cases h
  · next rule hBuild =>
      simp only [Bool.and_eq_true, decide_eq_true_eq] at h
      exact ⟨rule, hBuild, h⟩

/- An entry with forms has a rule, and rewrites by lines. -/
theorem RuleEntry.of_hasForms
    {entry : RuleEntry}
    {forms : List Form}
    (h : entry.hasForms forms = true) :
    (∀ form ∈ forms, form.isLinewise = true) ∧
      entry.rewritesBy forms = true := by
  unfold hasForms at h
  unfold rewritesBy
  split at h
  · cases h
  · next rule _ =>
      rw [Bool.and_eq_true, Bool.and_eq_true,
        List.all_eq_true] at h
      exact ⟨h.2.2, Bool.and_eq_true_iff.mpr ⟨h.1, h.2.1⟩⟩

/- A substitution with a form that moves on rewrites by it. -/
theorem Substitution.apply_of_form?
    {s : Substitution}
    {form : Form}
    (h : s.form? = some form)
    (hMoving : form.pattern.isMoving = true)
    (text : List Char) :
    s.apply text = .ok (form.rewrite text) := by
  unfold form? at h
  split at h
  · cases h
  · next parts hParts =>
      cases h
      rw [apply_of_template hParts,
        Regex.replaceHits_eq_rewrite hMoving]
      rfl

theorem Substitution.applyAll_of_forms
    {substitutions : List Substitution}
    {forms : List Form}
    (h : substitutions.map (·.form?) = forms.map some)
    (hMoving :
      ∀ form ∈ forms, form.pattern.isMoving = true)
    (text : List Char) :
    applyAll substitutions text =
      .ok (Form.rewriteAll forms text) := by
  induction substitutions generalizing forms text with
  | nil =>
      cases forms with
      | nil => rfl
      | cons form rest => cases h
  | cons s rest ih =>
      cases forms with
      | nil => cases h
      | cons form others =>
          rcases List.cons.inj h with ⟨hForm, hRest⟩
          rw [List.forall_mem_cons] at hMoving
          rw [applyAll, apply_of_form? hForm hMoving.1]
          exact ih hRest hMoving.2 _

/-
  The rule of an entry with forms changes every text by them.
-/
theorem Rule.exists_transform_of_rewritesBy
    {entry : RuleEntry}
    {forms : List Form}
    (h : entry.rewritesBy forms = true)
    (hMoving :
      ∀ form ∈ forms, form.pattern.isMoving = true) :
    ∃ rule, entry.build = .ok rule ∧
      rule.kind = .substitution ∧
        rule.substitutions.map (·.form?) = forms.map some ∧
          ∀ content, rule.transform content =
            .ok (Form.rewriteAll forms content) := by
  rcases entry.of_rewritesBy h with
    ⟨rule, hBuild, hKind, hSubstitutions⟩
  refine ⟨rule, hBuild, hKind, hSubstitutions, ?_⟩
  intro content
  rw [transform_eq_applyAll hKind]
  exact Substitution.applyAll_of_forms hSubstitutions hMoving
    content

theorem Rule.exists_transform_of_hasForms
    {entry : RuleEntry}
    {forms : List Form}
    (h : entry.hasForms forms = true) :
    ∃ rule, entry.build = .ok rule ∧
      ∀ content, rule.transform content =
        .ok (Form.rewriteAll forms content) := by
  rcases entry.of_hasForms h with ⟨hLinewise, hForms⟩
  rcases exists_transform_of_rewritesBy hForms
      (fun form hForm =>
        Form.isMoving_of_isLinewise (hLinewise form hForm)) with
    ⟨rule, hBuild, _, _, hTransform⟩
  exact ⟨rule, hBuild, hTransform⟩

namespace Form

/- Forms rewrite line by line. -/
theorem rewriteAll_line
    {forms : List Form}
    (h : ∀ form ∈ forms, form.isLinewise = true)
    (line rest : List Char) :
    rewriteAll forms (line ++ '\n' :: rest) =
      rewriteAll forms line ++
        '\n' :: rewriteAll forms rest := by
  induction forms generalizing line rest with
  | nil => rfl
  | cons form others ih =>
      rcases Bool.and_eq_true_iff.mp
          (h form List.mem_cons_self) with
        ⟨hMoving, hBound⟩
      have hFirst := Pattern.rewrite_line
        (placeless_expand form.template) hBound hMoving line
        rest
      have hRest := ih
        (fun other hOther =>
          h other (List.mem_cons_of_mem _ hOther))
        (form.rewrite line) (form.rewrite rest)
      simp only [rewriteAll]
      rw [← hRest]
      exact congrArg (rewriteAll others) hFirst

end Form

end GradleMigration

------------------------------------------------------------
-- At Most One Construct in a Line
------------------------------------------------------------

namespace GradleMigration

open Script

/-
  A count of constructs in a text, given whether it goes on
  with a word: the end of a text has no more than the text.
-/
structure Tally where
  count : Bool → List Char → Nat
  suffix : ∀ insideWord front rest,
    count (insideAfter insideWord front) rest ≤
      count insideWord (front ++ rest)

namespace Form

/-
  Every hit of a form is a construct in its own right, and its
  replacement leaves fewer of them.
-/
structure Spends
    (tally : Tally)
    (form : Form) : Prop where
  behind :
    ∀ {front rest : List Char} {t : Spot},
      t ∈ form.pattern.ways
          (Pattern.spotAt front.reverse rest) →
        tally.count (insideAfter false t.before.reverse)
            t.after <
          tally.count (insideAfter false front) rest
  lowers :
    ∀ {front rest : List Char} {t : Spot},
      t ∈ form.pattern.ways
          (Pattern.spotAt front.reverse rest) →
        tally.count false
            (front ++ (expand form.template
              (.between (Pattern.spotAt front.reverse rest) t) ++
                t.after)) <
          tally.count false (front ++ rest)

variable {tally : Tally} {form : Form} {forms : List Form}

/- A text without constructs is kept. -/
theorem Spends.rewriteFrom_of_count_eq_zero
    (h : form.Spends tally)
    (hMoving : form.pattern.isMoving = true)
    {front text : List Char}
    (hNone :
      tally.count (insideAfter false front) text = 0) :
    form.pattern.rewriteFrom (expand form.template) 0
        front.reverse text = text := by
  rcases form.pattern.rewriteFrom_cases hMoving
      (expand form.template) front text with
    hKept | ⟨gap, rest, t, hText, hWay, _, _⟩
  · exact hKept
  · have hHit := h.behind hWay
    have hSuffix :=
      tally.suffix (insideAfter false front) gap rest
    rw [← insideAfter_append, ← hText, hNone] at hSuffix
    omega

/-
  A line with at most one construct is kept by a form, or left
  without any.
-/
theorem Spends.rewrite_line
    (h : form.Spends tally)
    (hMoving : form.pattern.isMoving = true)
    {line : List Char}
    (hOne : tally.count false line ≤ 1) :
    form.rewrite line = line ∨
      tally.count false (form.rewrite line) = 0 := by
  rcases form.pattern.rewriteFrom_cases hMoving
      (expand form.template) [] line with
    hKept | ⟨gap, rest, t, hLine, hWay, _, hRewrite⟩
  · exact Or.inl hKept
  · have hBehind := h.behind hWay
    have hLowers := h.lowers hWay
    have hSuffix := tally.suffix false gap rest
    rw [List.nil_append] at hBehind hLowers hRewrite
    rw [← hLine] at hSuffix hLowers
    -- What is behind the hit has no construct.
    have hNone : tally.count
        (insideAfter false t.before.reverse) t.after = 0 := by
      omega
    have hRest := h.rewriteFrom_of_count_eq_zero hMoving hNone
    rw [List.reverse_reverse] at hRest
    rw [hRest] at hRewrite
    right
    unfold rewrite Pattern.rewrite
    rw [List.reverse_nil] at hRewrite
    rw [hRewrite]
    omega

/- Forms that all keep a text keep it together. -/
theorem rewriteAll_of_forall
    {text : List Char}
    (h : ∀ form ∈ forms, form.rewrite text = text) :
    rewriteAll forms text = text := by
  induction forms with
  | nil => rfl
  | cons form rest ih =>
      rw [rewriteAll, h form List.mem_cons_self]
      exact ih fun other hOther =>
        h other (List.mem_cons_of_mem _ hOther)

/- Forms keep a text without constructs. -/
theorem rewriteAll_of_count_eq_zero
    (hSpends : ∀ form ∈ forms, form.Spends tally)
    (hLinewise : ∀ form ∈ forms, form.isLinewise = true)
    {text : List Char}
    (hNone : tally.count false text = 0) :
    rewriteAll forms text = text := by
  apply rewriteAll_of_forall
  intro form hForm
  have hMoving :=
    isMoving_of_isLinewise (hLinewise form hForm)
  have hEmpty :
      tally.count (insideAfter false []) text = 0 := hNone
  exact (hSpends form hForm).rewriteFrom_of_count_eq_zero
    hMoving hEmpty

/-
  A line with at most one construct is kept by all forms, or
  left without any.
-/
theorem rewriteAll_line_cases
    (hSpends : ∀ form ∈ forms, form.Spends tally)
    (hLinewise : ∀ form ∈ forms, form.isLinewise = true)
    {line : List Char}
    (hOne : tally.count false line ≤ 1) :
    (∀ form ∈ forms, form.rewrite line = line) ∨
      tally.count false (rewriteAll forms line) = 0 := by
  induction forms with
  | nil => exact Or.inl (by simp)
  | cons form rest ih =>
      have hRest : ∀ other ∈ rest, other.Spends tally :=
        fun other hOther =>
          hSpends other (List.mem_cons_of_mem _ hOther)
      have hOthers : ∀ other ∈ rest, other.isLinewise = true :=
        fun other hOther =>
          hLinewise other (List.mem_cons_of_mem _ hOther)
      have hMoving :=
        isMoving_of_isLinewise
          (hLinewise form List.mem_cons_self)
      rw [rewriteAll]
      rcases (hSpends form List.mem_cons_self).rewrite_line
          hMoving hOne with hKept | hNone
      · rw [hKept]
        rcases ih hRest hOthers with hAll | hNone
        · exact Or.inl (List.forall_mem_cons.mpr ⟨hKept, hAll⟩)
        · exact Or.inr hNone
      · rw [rewriteAll_of_count_eq_zero hRest hOthers hNone]
        exact Or.inr hNone

/- A line with at most one construct is done after one pass. -/
theorem rewriteAll_rewriteAll_line
    (hSpends : ∀ form ∈ forms, form.Spends tally)
    (hLinewise : ∀ form ∈ forms, form.isLinewise = true)
    {line : List Char}
    (hOne : tally.count false line ≤ 1) :
    rewriteAll forms (rewriteAll forms line) =
      rewriteAll forms line := by
  rcases rewriteAll_line_cases hSpends hLinewise hOne with
    hAll | hNone
  · have hKept := rewriteAll_of_forall hAll
    rw [hKept, hKept]
  · exact rewriteAll_of_count_eq_zero hSpends hLinewise hNone

/-
  A text whose lines hold at most one construct each is done
  after one pass.
-/
theorem rewriteAll_settles
    (hSpends : ∀ form ∈ forms, form.Spends tally)
    (hLinewise : ∀ form ∈ forms, form.isLinewise = true)
    {text : List Char}
    (hOne : ∀ line ∈ text.splitOn '\n',
      tally.count false line ≤ 1) :
    rewriteAll forms (rewriteAll forms text) =
      rewriteAll forms text := by
  induction text using Text.linewise with
  | last line hLine =>
      rw [Text.splitOn_last hLine,
        List.forall_mem_singleton] at hOne
      exact rewriteAll_rewriteAll_line hSpends hLinewise hOne
  | line line rest hLine ih =>
      rw [Text.splitOn_line hLine, List.forall_mem_cons] at hOne
      rw [rewriteAll_line hLinewise, rewriteAll_line hLinewise,
        rewriteAll_rewriteAll_line hSpends hLinewise hOne.1,
        ih hOne.2]

end Form

end GradleMigration

------------------------------------------------------------
-- Passes Wear a Text Down
------------------------------------------------------------

namespace GradleMigration

namespace Form

/-
  Every replacement has fewer marked characters than the hit.
-/
def Wears
    (mark : Char → Bool)
    (form : Form) : Prop :=
  ∀ (front rest : List Char) (t : Spot),
    t ∈ form.pattern.ways
        (Pattern.spotAt front.reverse rest) →
      (expand form.template
          (.between (Pattern.spotAt front.reverse rest)
            t)).countP mark + t.after.countP mark <
        rest.countP mark

variable {mark : Char → Bool} {form : Form}

/- A walk keeps a text, or leaves fewer marked characters. -/
theorem Wears.rewriteFrom_eq_or_countP_lt
    (h : form.Wears mark)
    (hMoving : form.pattern.isMoving = true)
    (front after : List Char) :
    form.pattern.rewriteFrom (expand form.template) 0
          front.reverse after = after ∨
      (form.pattern.rewriteFrom (expand form.template) 0
          front.reverse after).countP mark <
        after.countP mark := by
  induction hLength : after.length using Nat.strongRecOn
    generalizing front after with
  | _ n ih =>
      subst hLength
      rcases form.pattern.rewriteFrom_cases hMoving
          (expand form.template) front after with
        hKept | ⟨gap, rest, t, hAfter, hWay, hShort, hRewrite⟩
      · exact Or.inl hKept
      · have hWorn := h _ _ _ hWay
        have hLater := ih _ hShort t.before.reverse t.after rfl
        rw [List.reverse_reverse] at hLater
        right
        rw [hRewrite, List.countP_append, List.countP_append]
        conv => rhs; rw [hAfter, List.countP_append]
        rcases hLater with hSame | hLess
        · rw [hSame]
          omega
        · omega

/-
  A pass of some forms keeps a text, or leaves fewer marked
  characters.
-/
theorem rewriteAll_eq_or_countP_lt
    {forms : List Form}
    (hWears : ∀ form ∈ forms, form.Wears mark)
    (hLinewise : ∀ form ∈ forms, form.isLinewise = true)
    (text : List Char) :
    rewriteAll forms text = text ∨
      (rewriteAll forms text).countP mark <
        text.countP mark := by
  induction forms generalizing text with
  | nil => exact Or.inl rfl
  | cons form rest ih =>
      have hMoving :=
        isMoving_of_isLinewise
          (hLinewise form List.mem_cons_self)
      have hFirst : form.rewrite text = text ∨
          (form.rewrite text).countP mark <
            text.countP mark :=
        (hWears form List.mem_cons_self)
          |>.rewriteFrom_eq_or_countP_lt hMoving [] text
      have hRest := ih
        (fun other hOther =>
          hWears other (List.mem_cons_of_mem _ hOther))
        (fun other hOther =>
          hLinewise other (List.mem_cons_of_mem _ hOther))
        (form.rewrite text)
      rw [rewriteAll]
      rcases hFirst with hSame | hLess
      · rw [hSame] at hRest ⊢
        exact hRest
      · right
        rcases hRest with hKept | hMore
        · rw [hKept]
          exact hLess
        · exact Nat.lt_trans hMore hLess

end Form

end GradleMigration
