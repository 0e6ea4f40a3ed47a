import GradleMigration.Proofs.Pattern.Covering
import GradleMigration.Proofs.Pattern.Enclosed
import GradleMigration.Proofs.Rule.Catalog

/-
  What it says about an occurrence that it is fixable.

  An occurrence is judged on all the lines that it meets, read
  as a text of their own.  So it may be called fixable because
  of another occurrence in these lines, and not fixable because
  what replaces it ends behind them.  Where it is alone in its
  lines, and all that is replaced of it is in them, the verdict
  is about the occurrence itself.

  Main declarations:
    * `Hit.Overlaps`
    * `Rule.Rewrites` and `Rule.RewritesLines`
    * `Rule.Alone` and `Rule.Enclosed`
    * `Rule.Judged` and `Rule.Misjudges`
    * `Rule.isLocated`
    * `Registry.substitutions_are_judged`
    * `Registry.occurrences_are_misjudged`
-/

------------------------------------------------------------
-- Occurrences and Replacements
------------------------------------------------------------

namespace GradleMigration

namespace Hit

/- Two hits have some place of the text in common. -/
def Overlaps
    (a b : Hit) : Prop :=
  a.start < b.stop ∧ b.start < a.stop

/- A hit has some place in common with the lines of another. -/
def MeetsLines
    (content : List Char)
    (a b : Hit) : Prop :=
  a.start < Text.lineStop content b.stop ∧
    Text.lineStart content b.start < a.stop

/- A hit is in the lines of another one. -/
def InLines
    (content : List Char)
    (a b : Hit) : Prop :=
  Text.lineStart content b.start ≤ a.start ∧
    a.stop ≤ Text.lineStop content b.stop

instance
    (a b : Hit) :
    Decidable (a.Overlaps b) := by
  unfold Overlaps
  infer_instance

instance
    (content : List Char)
    (a b : Hit) :
    Decidable (MeetsLines content a b) := by
  unfold MeetsLines
  infer_instance

instance
    (content : List Char)
    (a b : Hit) :
    Decidable (InLines content a b) := by
  unfold InLines
  infer_instance

end Hit

namespace Rule

/- Something of an occurrence is replaced in the text. -/
def Rewrites
    (rule : Rule)
    (content : List Char)
    (hit : Hit) : Prop :=
  ∃ s ∈ rule.substitutions, ∃ other ∈ s.pattern.hits content,
    other.Overlaps hit

/- Something is replaced in the lines of an occurrence. -/
def RewritesLines
    (rule : Rule)
    (content : List Char)
    (hit : Hit) : Prop :=
  ∃ s ∈ rule.substitutions,
    s.pattern.hits (Text.lineOf content hit.start hit.stop) ≠
      []

/- No other occurrence is in the lines of this one. -/
def Alone
    (rule : Rule)
    (content : List Char)
    (hit : Hit) : Prop :=
  ∀ other ∈ rule.hits content,
    Hit.MeetsLines content other hit → other = hit

/- What is replaced of an occurrence is in its lines. -/
def Enclosed
    (rule : Rule)
    (content : List Char)
    (hit : Hit) : Prop :=
  ∀ s ∈ rule.substitutions, ∀ other ∈ s.pattern.hits content,
    other.Overlaps hit → Hit.InLines content other hit

instance
    (rule : Rule)
    (content : List Char)
    (hit : Hit) :
    Decidable (rule.Rewrites content hit) := by
  unfold Rewrites
  infer_instance

instance
    (rule : Rule)
    (content : List Char)
    (hit : Hit) :
    Decidable (rule.Alone content hit) := by
  unfold Alone
  infer_instance

instance
    (rule : Rule)
    (content : List Char)
    (hit : Hit) :
    Decidable (rule.Enclosed content hit) := by
  unfold Enclosed
  infer_instance

instance
    (verdict : Except TemplateFault Bool)
    (fixable : Bool) :
    Decidable (verdict = .ok fixable) :=
  match verdict with
  | .ok given =>
      decidable_of_iff (given = fixable) (by simp)
  | .error _ => isFalse (by simp)

/-
  What the verdict on an occurrence says: something is replaced
  in its lines.  It is something of the occurrence, if there is
  no other one in the lines.  What is replaced of it in the
  text is seen, if it is in the lines.
-/
structure Judged
    (rule : Rule)
    (content : List Char)
    (hit : Hit)
    (fixable : Bool) : Prop where
  verdict : rule.isFixable content hit = .ok fixable
  by_lines : fixable = true ↔ rule.RewritesLines content hit
  rewrites : rule.Alone content hit →
    fixable = true → rule.Rewrites content hit
  sees : rule.Enclosed content hit →
    rule.Rewrites content hit → fixable = true

/-
  Some occurrence is called fixable although nothing of it is
  replaced, or not fixable although something of it is.
-/
def Misjudges
    (rule : Rule)
    (content : List Char)
    (fixable : Bool) : Prop :=
  rule.kind = .substitution ∧ rule.autoFixable = true ∧
    ∃ hit ∈ rule.hits content,
      rule.isFixable content hit = .ok fixable ∧
        (rule.Rewrites content hit ↔ fixable = false)

instance
    (rule : Rule)
    (content : List Char)
    (fixable : Bool) :
    Decidable (rule.Misjudges content fixable) := by
  unfold Misjudges
  infer_instance

/-
  Whether it can be seen that the occurrences of a rule are
  where something is replaced.
-/
def isLocated
    (rule : Rule) : Bool :=
  rule.pattern.pattern.isMoving &&
    rule.substitutions.all fun s =>
      s.pattern.pattern.isMoving &&
        (s.pattern.pattern.isEnclosed &&
          rule.pattern.pattern.covers s.pattern.pattern)

end Rule

end GradleMigration

------------------------------------------------------------
-- The Lines of an Occurrence
------------------------------------------------------------

namespace GradleMigration

/- The lines around a span, with their place in the text. -/
theorem Text.exists_lines
    {content : List Char}
    {start stop : Nat}
    (h : start ≤ stop)
    (hStop : stop ≤ content.length) :
    ∃ front behind,
      content = front ++ lineOf content start stop ++ behind ∧
        WholeLines front behind ∧
          front.length = lineStart content start ∧
            front.length + (lineOf content start stop).length =
              lineStop content stop := by
  have hFirst := lineStart_le content start
  have hLast : lineStop content stop ≤ content.length := by
    have hTake := (List.takeWhile_prefix
      (l := content.drop stop) (· != '\n')).length_le
    rw [List.length_drop] at hTake
    unfold lineStop
    omega
  have hOrder := lineStart_le_lineStop content h
  refine ⟨content.take (lineStart content start),
    content.drop (lineStop content stop),
    append_lineOf content h,
    ⟨take_lineStart_end content start,
      drop_lineStop_start content stop⟩, ?_, ?_⟩
  · rw [List.length_take]
    omega
  · unfold lineOf slice
    simp only [List.length_take, List.length_drop]
    omega

/- A place of some lines, in the text around them. -/
theorem Spot.within_at
    (front behind start rest : List Char) :
    (Spot.at start rest).Within front behind
      (.at (front ++ start) (rest ++ behind)) where
  before := by simp [Spot.at]
  after := rfl
  pos := by simp [Spot.at, Nat.add_comm]

namespace Rule

variable {rule : Rule} {content : List Char} {hit : Hit}

/- The verdict is whether something in the lines is replaced. -/
theorem exists_verdict
    (hKind : rule.kind = .substitution)
    (hAuto : rule.autoFixable = true)
    {marks : List Char}
    (hTrace : rule.leavesTrace marks = true)
    (content : List Char)
    (hit : Hit) :
    ∃ fixable, rule.isFixable content hit = .ok fixable ∧
      (fixable = true ↔ rule.RewritesLines content hit) := by
  rcases total_of_leavesTrace hTrace
      (Text.lineOf content hit.start hit.stop) with
    ⟨fixed, hFixed⟩
  refine ⟨fixed != Text.lineOf content hit.start hit.stop,
    ?_, ?_⟩
  · simp [isFixable, hAuto, hKind, hFixed]
  · rw [transform_eq_applyAll hKind] at hFixed
    rw [bne_iff_ne]
    constructor
    · exact Substitution.exists_hits_of_applyAll hFixed
    · rintro ⟨s, hS, hHits⟩
      exact applyAll_ne_of_leavesTrace hTrace hFixed hS hHits

/- The lines of an occurrence, with their place in the text. -/
theorem exists_lines_of_mem_hits
    (hHit : hit ∈ rule.hits content) :
    ∃ front behind,
      content = front ++
          Text.lineOf content hit.start hit.stop ++ behind ∧
        Text.WholeLines front behind ∧
          front.length = Text.lineStart content hit.start ∧
            front.length +
                (Text.lineOf content hit.start
                  hit.stop).length =
              Text.lineStop content hit.stop :=
  Text.exists_lines (Nat.le_add_right _ _)
    ((rule.pattern.placed_hits content).inside hit hHit).2

/-
  What is replaced in the lines of an occurrence belongs to an
  occurrence in these lines, so to this one if it is alone.
-/
theorem rewrites_of_alone
    (hLocated : rule.isLocated = true)
    (hHit : hit ∈ rule.hits content)
    (hAlone : rule.Alone content hit)
    (h : rule.RewritesLines content hit) :
    rule.Rewrites content hit := by
  rcases h with ⟨s, hS, hSome⟩
  simp only [isLocated, Bool.and_eq_true, List.all_eq_true]
    at hLocated
  rcases hLocated with ⟨hMoving, hAll⟩
  rcases hAll s hS with ⟨hMoves, _, hCovers⟩
  rcases exists_lines_of_mem_hits hHit with
    ⟨front, behind, hContent, hLines, hFirst, hLast⟩
  rcases List.exists_mem_of_ne_nil _ hSome with
    ⟨found, hFound⟩
  rcases Regex.exists_way_of_mem_hits hFound with
    ⟨start, rest, hSplit, t, hT, _⟩
  have hInLines : start.length <
      (Text.lineOf content hit.start hit.stop).length := by
    have hRest : rest ≠ [] := by
      intro hNil
      rw [Pattern.ways_of_after_eq_nil hMoves hNil] at hT
      cases hT
    have hPos := List.length_pos_iff.mpr hRest
    rw [hSplit, List.length_append]
    omega
  -- What has a way in the lines has one in the text.
  rw [hSplit] at hContent
  have hText :
      content = (front ++ start) ++ (rest ++ behind) := by
    rw [hContent]
    simp
  rcases Pattern.ways_within hLines
      (Pattern.isLineLocal_of_covers hCovers) _ _ t
      (Spot.within_at front behind start rest) hT with
    ⟨t', hT', _⟩
  rcases Pattern.exists_way_of_covers hCovers hT' with
    ⟨u, hU⟩
  rcases Regex.exists_hit_over hMoving hText hU with
    ⟨seen, hSeen, hSeenStart, hSeenStop⟩
  rcases Regex.exists_hit_over hMoves hText hT' with
    ⟨other, hOther, hStart, hStop⟩
  rw [List.length_append] at hSeenStart hSeenStop hStart hStop
  have hMeets : Hit.MeetsLines content seen hit := by
    unfold Hit.MeetsLines
    omega
  have hSame := hAlone seen hSeen hMeets
  subst hSame
  refine ⟨s, hS, other, hOther, ?_⟩
  unfold Hit.Overlaps
  omega

/- What is replaced in the text is seen if it is in the lines. -/
theorem rewritesLines_of_enclosed
    (hLocated : rule.isLocated = true)
    (hHit : hit ∈ rule.hits content)
    (hEnclosed : rule.Enclosed content hit)
    (h : rule.Rewrites content hit) :
    rule.RewritesLines content hit := by
  rcases h with ⟨s, hS, other, hOther, hOverlaps⟩
  simp only [isLocated, Bool.and_eq_true, List.all_eq_true]
    at hLocated
  rcases hLocated.2 s hS with ⟨_, hPattern, _⟩
  rcases hEnclosed s hS other hOther hOverlaps with
    ⟨hStart, hStop⟩
  rcases exists_lines_of_mem_hits hHit with
    ⟨front, behind, hContent, hLines, hFirst, hLast⟩
  rw [← hFirst] at hStart
  rw [← hLast] at hStop
  rw [hContent] at hOther
  exact ⟨s, hS, Regex.hits_ne_nil_of_inside hLines hPattern
    hOther hStart hStop⟩

end Rule

end GradleMigration

------------------------------------------------------------
-- The Built-In Rules
------------------------------------------------------------

namespace GradleMigration

namespace Registry

/- All patterns of the catalog are looked at here. -/
theorem isLocated_builtin :
    builtin.rules.all (fun rule =>
      rule.kind != .substitution || rule.isLocated) =
        true := by
  rw [builtin_eq_decoded]
  decide +kernel

/-
  The built-in rules that replace judge every occurrence by its
  lines, and rightly so where it is alone in them and what is
  replaced of it does not go beyond them.
-/
theorem substitutions_are_judged
    {rule : Rule}
    (hRule : rule ∈ builtin.rules)
    (hKind : rule.kind = .substitution)
    (hAuto : rule.autoFixable = true)
    {content : List Char}
    {hit : Hit}
    (hHit : hit ∈ rule.hits content) :
    ∃ fixable, rule.Judged content hit fixable := by
  have hLocated : rule.isLocated = true := by
    have hAll := List.all_eq_true.mp isLocated_builtin rule hRule
    simpa [hKind] using hAll
  rcases Rule.exists_verdict hKind hAuto
      (leavesTrace_of_mem_builtin hRule) content hit with
    ⟨fixable, hVerdict, hLines⟩
  exact ⟨fixable,
    { verdict := hVerdict
      by_lines := hLines
      rewrites := fun hAlone hFixable =>
        Rule.rewrites_of_alone hLocated hHit hAlone
          (hLines.mp hFixable)
      sees := fun hEnclosed hRewrites =>
        hLines.mpr (Rule.rewritesLines_of_enclosed hLocated
          hHit hEnclosed hRewrites) }⟩

/- Two assignments, one of which is replaced. -/
def propertiesScript : List Char :=
  "version = '1'\narchivesBaseName = 'x'\n".toList

theorem substitutions_are_judged_in_propertiesScript :
    ∃ rule ∈ builtin.rules,
      (rule.hits propertiesScript).length = 2 ∧
        ∀ hit ∈ rule.hits propertiesScript,
          rule.Alone propertiesScript hit ∧
            rule.Enclosed propertiesScript hit ∧
              (rule.isFixable propertiesScript hit = .ok true ↔
                rule.Rewrites propertiesScript hit) := by
  have hTested : Builtin.deprecatedProperties.isTested
      (fun rule =>
        rule.kind = .substitution ∧ rule.autoFixable = true ∧
          (rule.hits propertiesScript).length = 2 ∧
            ∀ hit ∈ rule.hits propertiesScript,
              rule.Alone propertiesScript hit ∧
                rule.Enclosed propertiesScript hit) =
      true := by
    rw [RuleEntry.isTested_eq_decoded]
    decide +kernel
  rcases RuleEntry.of_isTested hTested with
    ⟨rule, hBuild, hRule⟩
  rcases of_decide_eq_true hRule with
    ⟨hKind, hAuto, hLength, hAll⟩
  have hMem := mem_builtin_of_build (by simp [Builtin.entries])
    hBuild
  refine ⟨rule, hMem, hLength, ?_⟩
  intro hit hHit
  rcases hAll hit hHit with ⟨hAlone, hEnclosed⟩
  rcases substitutions_are_judged hMem hKind hAuto hHit with
    ⟨fixable, hJudged⟩
  refine ⟨hAlone, hEnclosed, ?_⟩
  rw [hJudged.verdict, Except.ok.injEq]
  exact ⟨hJudged.rewrites hAlone, hJudged.sees hEnclosed⟩

/-
  An assignment that is never replaced is called fixable
  because of its neighbour, and a call that goes on in the next
  line is not, although it is replaced.
-/
theorem occurrences_are_misjudged :
    (∃ rule ∈ builtin.rules,
      rule.id = "DEPRECATED_PROPERTIES" ∧
        rule.Misjudges
          "version = '1'; archivesBaseName = 'x'\n".toList
          true) ∧
      ∃ rule ∈ builtin.rules,
        rule.id = "DEPRECATED_METHODS" ∧
          rule.Misjudges "getArchivePath(\n)\n".toList
            false := by
  have hProperties : Builtin.deprecatedProperties.isTested
      (fun rule => rule.Misjudges
        "version = '1'; archivesBaseName = 'x'\n".toList
        true) = true := by
    rw [RuleEntry.isTested_eq_decoded]
    decide +kernel
  have hMethods : Builtin.deprecatedMethods.isTested
      (fun rule => rule.Misjudges
        "getArchivePath(\n)\n".toList false) = true := by
    rw [RuleEntry.isTested_eq_decoded]
    decide +kernel
  constructor
  · rcases RuleEntry.of_isTested hProperties with
      ⟨rule, hBuild, hRule⟩
    exact ⟨rule,
      mem_builtin_of_build (by simp [Builtin.entries]) hBuild,
      id_of_build hBuild, of_decide_eq_true hRule⟩
  · rcases RuleEntry.of_isTested hMethods with
      ⟨rule, hBuild, hRule⟩
    exact ⟨rule,
      mem_builtin_of_build (by simp [Builtin.entries]) hBuild,
      id_of_build hBuild, of_decide_eq_true hRule⟩

end Registry

end GradleMigration
