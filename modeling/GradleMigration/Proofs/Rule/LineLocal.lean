import GradleMigration.Proofs.Pattern.Contents
import GradleMigration.Proofs.Pattern.Succession
import GradleMigration.Proofs.Rule.Names
import GradleMigration.Proofs.Rule.Templates
import GradleMigration.Proofs.Rule.Values
import GradleMigration.Proofs.Scan.Origin

/-
  Rules that change a text line by line.

  Each line of the changed text is what the rule makes of the
  line with the same number alone.  So what is suggested for
  an occurrence, which is found out on its line only, is the
  line that the changed text has there.

  Main declarations:
    * `Form.forall_mem_rewriteAll`
    * `Form.splitOn_rewriteAll`
    * `Rule.ActsByLine`
    * `Builtin.lineEntries_act_by_line`
-/

------------------------------------------------------------
-- Lines of Rewritten Texts
------------------------------------------------------------

namespace GradleMigration

namespace Form

variable {forms : List Form}

/- Rewriting brings the characters of the templates only. -/
theorem forall_mem_rewriteAll
    {ok : Char → Prop}
    (hTemplates : ∀ form ∈ forms,
      ∀ part ∈ form.template, part.MadeOf ok)
    {text : List Char}
    (hText : ∀ c ∈ text, ok c) :
    ∀ c ∈ rewriteAll forms text, ok c := by
  induction forms generalizing text with
  | nil => exact hText
  | cons form rest ih =>
      rw [List.forall_mem_cons] at hTemplates
      exact ih hTemplates.2 (Pattern.forall_mem_rewriteFrom
        hTemplates.1 (List.forall_mem_nil _) hText)

/- The lines of a rewritten text are the rewritten lines. -/
theorem splitOn_rewriteAll
    (hLinewise : ∀ form ∈ forms, form.isLinewise = true)
    (hTemplates : ∀ form ∈ forms,
      ∀ part ∈ form.template, part.MadeOf (· ≠ '\n'))
    (text : List Char) :
    (rewriteAll forms text).splitOn '\n' =
      (text.splitOn '\n').map (rewriteAll forms) := by
  have hOneLine : ∀ line, '\n' ∉ line →
      '\n' ∉ rewriteAll forms line := by
    intro line hLine hFeed
    have hText : ∀ c ∈ line, c ≠ '\n' := by
      intro c hC hEq
      exact hLine (hEq ▸ hC)
    exact forall_mem_rewriteAll hTemplates hText '\n' hFeed rfl
  induction text using Text.linewise with
  | last line hLine =>
      rw [Text.splitOn_last hLine,
        Text.splitOn_last (hOneLine line hLine)]
      rfl
  | line line rest hLine ih =>
      rw [Text.splitOn_line hLine, rewriteAll_line hLinewise,
        Text.splitOn_line (hOneLine line hLine), ih]
      rfl

end Form

end GradleMigration

------------------------------------------------------------
-- Suggestions
------------------------------------------------------------

namespace GradleMigration

namespace Rule

/- A rule with substitutions suggests what it makes of a line. -/
theorem suggestFix_of_transform
    {rule : Rule}
    (hKind : rule.kind = .substitution)
    {line fixed : List Char}
    (h : rule.transform line = .ok fixed)
    (matched : List Char) :
    rule.suggestFix matched (some line) =
      .ok (if fixed = line then
        manualFix.toList
      else
        Text.trim fixed) := by
  unfold suggestFix suggestionFor
  simp [h, hKind]

/-
  A rule changes a text line by line.  For an occurrence
  inside of a line it has no suggestion, or suggests what the
  line becomes.
-/
structure ActsByLine
    (rule : Rule)
    (content text : List Char)
    (lines : List (List Char)) : Prop where
  transform : rule.transform content = .ok text
  each : List.Forall₂
    (fun line changed => rule.transform line = .ok changed)
    (content.splitOn '\n') lines
  joined : text = ['\n'].intercalate lines
  split : text.splitOn '\n' = lines
  count : (text.splitOn '\n').length =
    (content.splitOn '\n').length
  suggests :
    ∀ place, ∀ hit ∈ rule.hits content, '\n' ∉ hit.text →
      ∃ found number suggestion,
        rule.occurrence place content hit = .ok found ∧
          found.line = ((number + 1 : Nat) : Int) ∧
          found.suggestedFix = String.ofList suggestion ∧
          rule.suggestFix (Text.trim hit.text)
              (some (Text.lineOf content hit.start
                hit.stop)) = .ok suggestion ∧
          (suggestion ≠ manualFix.toList →
            lines[number]?.map Text.trim = some suggestion)

/- The line of a hit that does not cross lines. -/
theorem getElem?_splitOn_of_mem_hits
    {rule : Rule}
    {content : List Char}
    {hit : Hit}
    (hHit : hit ∈ rule.hits content)
    (hFeed : '\n' ∉ hit.text) :
    (content.splitOn '\n')[
        (content.take hit.start).count '\n']? =
      some (Text.lineOf content hit.start hit.stop) := by
  rcases (rule.pattern.placed_hits content).inside hit hHit with
    ⟨hSlice, hInside⟩
  have hSpan : hit.start ≤ hit.stop := Nat.le_add_right _ _
  rcases Text.exists_span hSpan hInside with
    ⟨front, behind, hContent, hStart, hStop⟩
  rw [← hSlice] at hContent hStop
  have hFront : content.take hit.start = front := by
    rw [hContent, List.take_left' hStart.symm]
  have hLine := Text.getElem?_splitOn_lineOf front hFeed behind
  rw [← hContent, ← hStop, ← hStart] at hLine
  rw [hFront]
  exact hLine

/- What is made and suggested where lines are rewritten. -/
theorem exists_actsByLine
    {entry : RuleEntry}
    {forms : List Form}
    (hForms : entry.hasForms forms = true)
    (hTemplates : ∀ form ∈ forms,
      ∀ part ∈ form.template, part.MadeOf (· ≠ '\n')) :
    ∃ rule, entry.build = .ok rule ∧
      ∀ content, ∃ text lines,
        rule.ActsByLine content text lines := by
  rcases entry.of_hasForms hForms with ⟨hLinewise, hRewrites⟩
  rcases exists_transform_of_rewritesBy hRewrites
      (fun form hForm =>
        Form.isMoving_of_isLinewise (hLinewise form hForm)) with
    ⟨rule, hBuild, hKind, _, hTransform⟩
  have hTotal : rule.Total := fun content =>
    ⟨_, hTransform content⟩
  refine ⟨rule, hBuild, fun content => ?_⟩
  have hSplit :=
    Form.splitOn_rewriteAll hLinewise hTemplates content
  refine ⟨Form.rewriteAll forms content,
    (content.splitOn '\n').map (Form.rewriteAll forms),
    { transform := hTransform content
      each := ?_
      joined := ?_
      split := hSplit
      count := ?_
      suggests := ?_ }⟩
  · rw [List.forall₂_map_right_iff, List.forall₂_same]
    intro line _
    exact hTransform line
  · rw [← hSplit, List.intercalate_splitOn]
  · rw [hSplit, List.length_map]
  · intro place hit hHit hFeed
    have hLine := getElem?_splitOn_of_mem_hits hHit hFeed
    rcases occurrence_of_total hTotal place content hit with
      ⟨found, hFound⟩
    rcases line_of_occurrence hFound with
      ⟨hNumber, suggestion, hSuggestion, hShown⟩
    refine ⟨found, (content.take hit.start).count '\n',
      suggestion, hFound, hNumber, hShown, hSuggestion, ?_⟩
    intro hNotManual
    rw [suggestFix_of_transform hKind (hTransform _)]
      at hSuggestion
    cases hSuggestion
    rw [List.getElem?_map, hLine]
    split at hNotManual
    · exact absurd rfl hNotManual
    · next hChanged => rw [if_neg hChanged]; rfl

end Rule

end GradleMigration

------------------------------------------------------------
-- The Built-In Rules
------------------------------------------------------------

namespace GradleMigration

namespace Builtin

/- The entries of the rules that change texts by lines. -/
def lineEntries : List RuleEntry :=
  [archiveName, gradleVersion, sourcesetOutput,
    deprecatedProperties]

/-
  These rules change a text line by line, so the number of
  lines stays as it is, and what they suggest for a line is
  what the line becomes.
-/
theorem lineEntries_act_by_line :
    ∀ entry ∈ lineEntries, ∃ rule,
      entry.build = .ok rule ∧ ∀ content, ∃ text lines,
        rule.ActsByLine content text lines := by
  intro entry hEntry
  simp only [lineEntries, List.mem_cons, List.not_mem_nil,
    or_false] at hEntry
  rcases hEntry with hArchive | hRelease | hOutput | hBase
  · subst hArchive
    exact Rule.exists_actsByLine hasForms_archiveName
      (by decide)
  · subst hRelease
    exact Rule.exists_actsByLine hasForms_gradleVersion
      (by decide)
  · subst hOutput
    exact Rule.exists_actsByLine hasForms_sourcesetOutput
      (by decide)
  · subst hBase
    exact Rule.exists_actsByLine hasForms_deprecatedProperties
      (by decide)

/- An assignment with a note, and one without a value. -/
def baseNameScript : List Char :=
  ("plugins \x7b id 'base' \x7d\n" ++
    "\tarchivesBaseName = 'a=b' // was 'a'\r\n" ++
    "archivesBaseName =\n").toList

theorem lineEntries_act_by_line_in_baseNameScript :
    ∃ rule, deprecatedProperties.build = .ok rule ∧
      ∃ text lines,
        rule.ActsByLine baseNameScript text lines ∧
          lines[1]? =
            some ("\tbase \x7b archivesName.set('a=b') \x7d" ++
              " // was 'a'\r").toList ∧
          ∃ hit ∈ rule.hits baseNameScript,
            '\n' ∉ hit.text ∧
              Text.lineNumber baseNameScript hit.start = 2 ∧
              rule.suggestFix (Text.trim hit.text)
                  (some (Text.lineOf baseNameScript hit.start
                    hit.stop)) =
                .ok ("base \x7b archivesName.set('a=b') \x7d" ++
                  " // was 'a'").toList := by
  rcases lineEntries_act_by_line deprecatedProperties
      (by simp [lineEntries]) with ⟨rule, hBuild, hAll⟩
  rcases hAll baseNameScript with ⟨text, lines, hLines⟩
  rcases Rule.exists_transform_of_hasForms
      hasForms_deprecatedProperties with
    ⟨other, hOther, hTransform⟩
  have hSame : rule = other :=
    Except.ok.inj (hBuild.symm.trans hOther)
  subst hSame
  have hText := Except.ok.inj
    (hLines.transform.symm.trans (hTransform _))
  have hScript : baseNameScript = Text.decoded _ :=
    Text.toList_eq_decoded _
  have hRule :
      (deprecatedProperties.build.toOption.map fun built =>
        ((built.hits baseNameScript)[0]?,
          (built.suggestFix "archivesBaseName =".toList
            (some (Text.lineOf baseNameScript 23
              41))).toOption)) =
        some
          (some ⟨23, "archivesBaseName =".toList,
            [(1, "archivesBaseName".toList)]⟩,
          some ("base \x7b archivesName.set('a=b') \x7d" ++
            " // was 'a'").toList) := by
    rw [RuleEntry.build_eq_decoded, hScript]
    decide +kernel
  rw [hBuild] at hRule
  rcases Prod.mk.inj (Option.some.inj hRule) with
    ⟨hHit, hSuggestion⟩
  refine ⟨rule, hBuild, text, lines, hLines, ?_, _,
    List.mem_of_getElem? hHit, by decide, by decide +kernel,
    ?_⟩
  · rw [← hLines.split, hText, hScript,
      Text.toList_eq_decoded]
    decide +kernel
  · cases hSuggest : rule.suggestFix
        "archivesBaseName =".toList
        (some (Text.lineOf baseNameScript 23 41)) with
    | error fault =>
        rw [hSuggest] at hSuggestion
        cases hSuggestion
    | ok suggestion =>
        rw [hSuggest] at hSuggestion
        cases hSuggestion
        exact hSuggest

end Builtin

end GradleMigration
