import GradleMigration.Proofs.Rule.LineLocal
import GradleMigration.Proofs.Script.LineEnds
import GradleMigration.Proofs.Script.Settling

/-
  Rules and the two styles of line ends.

  A rule keeps the style if it makes the same of a text whether
  its lines end with a line feed or with a CR LF pair.
  Constructs are found in either style, since both ends are
  blanks and in no word.  A form that stays in a line takes the
  same of it, since the carriage return behind the line is
  where the form ends as well.

  Main declarations:
    * `Piece.read_crLf` and `Construct.rewrite_crLf`
    * `Transport.ontoReturn`
    * `Form.StayInLine.rewriteAll_crLf`
    * `Rule.KeepsStyle`
    * `Builtin.transform_keeps_style`
-/

------------------------------------------------------------
-- Constructs
------------------------------------------------------------

namespace GradleMigration

open Text Script

/- A text starts with a word in either style. -/
theorem wordAt_crLf
    (text : List Char) :
    Anchor.wordAt false (crLf text) =
      Anchor.wordAt false text := by
  cases text with
  | nil => rfl
  | cons c rest =>
      by_cases hC : c = '\n'
      · subst hC
        exact isWord_lineEnd
      · rw [crLf_cons hC]
        rfl

/- What has been read of a text in the other style. -/
def Taken.crLf
    (taken : Taken) : Taken where
  passed := Text.crLf taken.passed
  captured := taken.captured.map fun entry =>
    (entry.1, Text.crLf entry.2)
  rest := Text.crLf taken.rest

/- What is kept of it. -/
theorem Taken.kept_crLf
    (taken : Taken) :
    taken.crLf.kept = Text.crLf taken.kept := by
  unfold kept crLf
  simp only
  induction taken.captured with
  | nil => rfl
  | cons entry later ih =>
      rw [List.map_cons, List.lookup_cons, List.lookup_cons]
      cases 1 == entry.1 with
      | true => rfl
      | false => exact ih

namespace Piece

/- A piece takes the same in either style. -/
theorem take_crLf
    {piece : Piece}
    (hProper : piece.isProper = true)
    (text : List Char) :
    piece.take (crLf text) = (piece.take text).map crLf := by
  cases piece with
  | sign c =>
      simp only [isProper, Bool.and_eq_true,
        Bool.not_eq_true'] at hProper
      have hReturn : c ≠ '\r' := by
        intro hEq
        rw [hEq] at hProper
        exact absurd hProper.2 (by decide)
      have hFeed : c ≠ '\n' := by
        intro hEq
        rw [hEq] at hProper
        exact absurd hProper.2 (by decide)
      simp only [take, head?_crLf hReturn hFeed]
      split
      · rw [Option.map_some, crLf_cons hFeed, crLf_nil]
      · rfl
  | gap kept needed =>
      simp only [take, (span_crLf isBlank_lineEnd text).1]
      have hEmpty : (crLf (text.takeWhile isBlank)).isEmpty =
          (text.takeWhile isBlank).isEmpty := by
        rw [Bool.eq_iff_iff, List.isEmpty_iff,
          List.isEmpty_iff, crLf_eq_nil_iff]
      rw [hEmpty]
      split
      · rfl
      · rfl
  | name =>
      simp only [take, (span_crLf isWord_lineEnd text).1,
        crLf_takeWhile_isWord]
      split
      · rfl
      · rw [Option.map_some, crLf_takeWhile_isWord]
  | word given =>
      simp only [take, (span_crLf isWord_lineEnd text).1,
        crLf_takeWhile_isWord]
      split
      · next hGiven =>
          rw [Option.map_some, ← hGiven,
            crLf_takeWhile_isWord]
      · rfl

theorem captured_crLf
    (piece : Piece)
    (part : List Char) :
    piece.captured (crLf part) =
      (piece.captured part).map fun entry =>
        (entry.1, crLf entry.2) := by
  unfold captured
  split
  · rfl
  · rfl

/- Pieces are read alike in either style. -/
theorem read_crLf
    {pieces : List Piece}
    (hLaid : isLaid pieces = true)
    (text : List Char) :
    read pieces (crLf text) =
      (read pieces text).map Taken.crLf := by
  induction pieces generalizing text with
  | nil => rfl
  | cons piece pieces ih =>
      simp only [isLaid, Bool.and_eq_true] at hLaid
      rw [read, read, take_crLf hLaid.1]
      cases hTake : piece.take text with
      | none => rfl
      | some part =>
          have hText := append_drop_of_take hTake
          have hRest : (crLf text).drop (crLf part).length =
              crLf (text.drop part.length) := by
            conv => lhs; rw [hText]
            rw [crLf_append, List.drop_left]
          simp only [Option.map_some, Option.bind_some, hRest,
            ih hLaid.2.2, Option.map_map]
          refine Option.map_congr fun taken _ => ?_
          simp only [Function.comp_apply, Taken.crLf,
            captured_crLf, crLf_append, List.map_append]

end Piece

namespace Construct

variable {p : Construct}

/- What comes in the place of a construct. -/
theorem put_crLf
    (hLead : '\n' ∉ p.lead)
    (hClose : '\n' ∉ p.close)
    (taken : Taken) :
    p.put taken.crLf = crLf (p.put taken) := by
  have hWord : '\n' ∉ p.word := by
    intro hFeed
    exact absurd (p.word_word '\n' hFeed) (by decide)
  unfold put
  rw [crLf_append, crLf_append, crLf_of_not_mem hLead,
    crLf_of_not_mem hClose, taken.kept_crLf]
  split
  · rw [crLf_append, crLf_of_not_mem hWord]
    rfl
  · split
    · rfl
    · rfl

theorem occurs_crLf
    (word behind : List Char) :
    p.occurs word (crLf behind) =
      (p.occurs word behind).map Taken.crLf := by
  unfold occurs
  rw [Piece.read_crLf p.tail_laid]
  split
  · rfl
  · rfl

/- Constructs are replaced alike in either style. -/
theorem rewrite_crLf
    (hLead : '\n' ∉ p.lead)
    (hClose : '\n' ∉ p.close)
    (text : List Char) :
    p.rewrite (crLf text) = crLf (p.rewrite text) := by
  induction text using Text.wordwise with
  | nil => simp [rewrite]
  | sign c rest hC ih =>
      unfold rewrite at ih ⊢
      rw [rewriteWords_sign hC]
      by_cases hFeed : c = '\n'
      · subst hFeed
        rw [crLf_feed, rewriteWords_sign (by decide),
          rewriteWords_sign (by decide), ih, crLf_feed]
      · rw [crLf_cons hFeed, rewriteWords_sign hC, ih,
          crLf_cons hFeed]
  | word word behind hRun ih =>
      have hWord : '\n' ∉ word := by
        intro hFeed
        exact absurd (hRun.isWord '\n' hFeed) (by decide)
      have hEnded : IsRun word (crLf behind) :=
        ⟨hRun.ne_nil, hRun.isWord,
          (wordAt_crLf behind).trans hRun.ended⟩
      rw [crLf_append, crLf_of_not_mem hWord]
      cases hOccurs : p.occurs word behind with
      | none =>
          have hNone : p.occurs word (crLf behind) = none := by
            rw [occurs_crLf, hOccurs]
            rfl
          have hBehind := ih 0
          rw [List.drop_zero] at hBehind
          rw [rewrite_of_occurs_none hRun hOccurs,
            rewrite_of_occurs_none hEnded hNone, crLf_append,
            crLf_of_not_mem hWord, hBehind]
      | some taken =>
          rcases exists_occurs hOccurs with
            ⟨front, hFront, hParts⟩
          subst hFront
          rw [List.mem_append, not_or] at hWord
          have hOther :
              p.Occurs front (crLf behind) taken.crLf := by
            refine ⟨hParts.strict, ?_⟩
            rw [Piece.read_crLf p.tail_laid, hParts.read]
            rfl
          have hRest : behind.drop taken.passed.length =
              taken.rest := by
            rw [Piece.append_of_read hParts.read,
              List.drop_left]
          have hBehind := ih taken.passed.length
          rw [hRest] at hBehind
          rw [rewrite_of_occurs hRun hParts,
            rewrite_of_occurs hEnded hOther, crLf_append,
            crLf_append, crLf_of_not_mem hWord.1,
            put_crLf hLead hClose, ← hBehind]
          rfl

end Construct

end GradleMigration

------------------------------------------------------------
-- Lines with a Carriage Return
------------------------------------------------------------

namespace GradleMigration

open Text

/- A line is carried into the one with a carriage return. -/
def Transport.ontoReturn : Transport where
  good s := ∀ c ∈ s.after, InLine c
  move := Spot.embed [] ['\r']
  capture := by
    intro s t text captured _ hT hText index
    rw [hText.embed.textTo_eq]
    exact ⟨hT, rfl⟩
  restore hS _ := ⟨hS, rfl⟩

/- An edge of a word is one with the return behind it. -/
theorem Anchor.boundary_return
    (ascii : Bool)
    (s : Spot) :
    (Anchor.boundary ascii false).holds
        (s.embed [] ['\r']).before
        (s.embed [] ['\r']).after =
      (Anchor.boundary ascii false).holds s.before s.after := by
  have hReturn : wordAt ascii ['\r'] = false := by
    cases ascii with
    | false => decide
    | true => decide
  have hNil : wordAt ascii [] = false := rfl
  cases hAfter : s.after with
  | cons c rest => simp [Spot.embed, hAfter, holds, wordAt]
  | nil =>
      cases hBefore : s.before with
      | nil =>
          simp [Spot.embed, hAfter, hBefore, holds, hReturn,
            hNil]
      | cons c rest =>
          simp [Spot.embed, hAfter, hBefore, holds, hReturn,
            hNil]

namespace Pattern

/-
  Characters but a carriage return, edges of words, and the
  end of a line that may have a carriage return.
-/
def isReturnPart : Pattern → Bool
| .one test => !test.accepts '\r'
| .anchor (.boundary _ negated) => !negated
| .ahead negated p => !negated && p = lineBreak
| _ => false

/- The end of a line is seen with or without the return. -/
theorem ways_lineBreak_end
    {s : Spot}
    (h : s.after = [] ∨ s.after = ['\r']) :
    (Pattern.ahead false lineBreak).ways s = [s] := by
  obtain ⟨before, after, pos, groups⟩ := s
  rcases h with hNil | hReturn
  · cases hNil
    simp [ways, lineBreak, letter, Repetition.requiredWays,
      Repetition.greedyWays, Anchor.holds]
  · cases hReturn
    simp [ways, lineBreak, letter, Repetition.requiredWays,
      Repetition.greedyWays, Repetition.mayGoOn,
      Repetition.useRoom, Anchor.holds, Spot.step,
      CharTest.accepts, SetItem.accepts, Folding.same]

/- In the middle of a line is no end of it. -/
theorem ways_lineBreak_cons
    {s : Spot}
    {c : Char}
    {rest : List Char}
    (hAfter : s.after = c :: rest)
    (hC : InLine c) :
    (Pattern.ahead false lineBreak).ways s = [] := by
  apply List.eq_nil_iff_forall_not_mem.mpr
  intro t hT
  rcases (of_mem_ahead_lineBreak hT).2 c (by rw [hAfter]; rfl)
    with hReturn | hFeed
  · exact hC.1 hReturn
  · exact hC.2 hFeed

/- The parts of such a pattern see no difference. -/
theorem carries_of_isReturnPart
    (p : Pattern)
    (h : p.isReturnPart = true) :
    Transport.ontoReturn.Carries p.ways := by
  intro s hGood
  constructor
  · change p.ways (s.embed [] ['\r']) =
      (p.ways s).map (Spot.embed [] ['\r'])
    cases p with
    | one test =>
        have hReturn : test.accepts '\r' = false := by
          simpa [isReturnPart] using h
        rw [ways, ways]
        cases hAfter : s.after with
        | nil => simp [Spot.embed, hAfter, hReturn]
        | cons c rest =>
            simp only [Spot.embed, hAfter, List.cons_append]
            split
            · simp [Spot.step, Spot.embed]
            · rfl
    | anchor a =>
        cases a with
        | boundary ascii negated =>
            have hPlain : negated = false := by
              simpa [isReturnPart] using h
            subst hPlain
            rw [ways, ways, Anchor.boundary_return]
            split
            · rfl
            · rfl
        | _ => cases h
    | ahead negated p =>
        simp only [isReturnPart, Bool.and_eq_true,
          Bool.not_eq_true', decide_eq_true_eq] at h
        rcases h with ⟨hNegated, hBreak⟩
        subst hNegated
        subst hBreak
        cases hAfter : s.after with
        | nil =>
            have hMoved : (s.embed [] ['\r']).after = ['\r'] := by
              simp [Spot.embed, hAfter]
            rw [ways_lineBreak_end (Or.inl hAfter),
              ways_lineBreak_end (Or.inr hMoved)]
            rfl
        | cons c rest =>
            have hMoved : (s.embed [] ['\r']).after =
                c :: (rest ++ ['\r']) := by
              simp [Spot.embed, hAfter]
            have hC : InLine c := by
              apply hGood
              rw [hAfter]
              exact List.mem_cons_self
            rw [ways_lineBreak_cons hAfter hC,
              ways_lineBreak_cons hMoved hC]
            rfl
    | _ => cases h
  · intro t hT
    rcases p.passing_of_mem_ways s t hT with
      ⟨text, captured, hText, _⟩
    intro c hC
    apply hGood
    rw [hText.after]
    exact List.mem_append_right _ hC

/-
  Such a pattern has the same ways in a line whether or not
  the line ends with a carriage return.
-/
theorem ways_return
    {p : Pattern}
    (h : p.isBuiltFrom isReturnPart = true)
    {line : List Char}
    (hLine : ∀ c ∈ line, InLine c)
    (before : List Char) :
    p.ways (spotAt before (line ++ ['\r'])) =
      (p.ways (spotAt before line)).map
        (Spot.embed [] ['\r']) := by
  have hSpot : spotAt before (line ++ ['\r']) =
      (spotAt before line).embed [] ['\r'] := by
    simp [spotAt, Spot.embed]
  rw [hSpot]
  exact (Transport.carries_ways carries_of_isReturnPart h
    (spotAt before line) hLine).1

end Pattern

namespace Form

/- Whether lines are replaced alike in either style. -/
def endsAlike
    (form : Form) : Bool :=
  form.isLinewise &&
    form.pattern.isBuiltFrom Pattern.isReturnPart

/- A carriage return behind a line stays behind it. -/
theorem rewrite_return
    {form : Form}
    (h : form.endsAlike = true)
    {line : List Char}
    (hLine : ∀ c ∈ line, InLine c) :
    form.rewrite (line ++ ['\r']) =
      form.rewrite line ++ ['\r'] := by
  rcases Bool.and_eq_true_iff.mp h with ⟨hLinewise, hBuilt⟩
  have hMoving := isMoving_of_isLinewise hLinewise
  have hWays : ∀ before part, part <:+ line →
      form.pattern.ways
          (Pattern.spotAt before (part ++ ['\r'])) =
        (form.pattern.ways (Pattern.spotAt before part)).map
          (Spot.embed [] ['\r']) := by
    intro before part hPart
    exact Pattern.ways_return hBuilt
      (fun c hC => hLine c (hPart.subset hC)) before
  unfold rewrite Pattern.rewrite
  rw [Pattern.rewriteFrom_append
      (placeless_expand form.template) hWays (Nat.zero_le _),
    Pattern.rewriteFrom_kept hMoving
      (hWays _ [] (List.nil_suffix)), Pattern.rewriteFrom]

/- Forms that put characters of lines in their place. -/
structure StayInLine
    (forms : List Form) : Prop where
  endsAlike : ∀ form ∈ forms, form.endsAlike = true
  templates : ∀ form ∈ forms,
    ∀ part ∈ form.template, part.MadeOf InLine

variable {forms : List Form}

/- Each line stays a line with its return behind it. -/
theorem StayInLine.rewriteAll_return
    (h : StayInLine forms)
    {line : List Char}
    (hLine : ∀ c ∈ line, InLine c) :
    rewriteAll forms (line ++ ['\r']) =
      rewriteAll forms line ++ ['\r'] := by
  rcases h with ⟨hAlike, hTemplates⟩
  induction forms generalizing line with
  | nil => rfl
  | cons form rest ih =>
      rw [List.forall_mem_cons] at hAlike hTemplates
      have hNext : ∀ c ∈ form.rewrite line, InLine c :=
        Pattern.forall_mem_rewriteFrom hTemplates.1
          (List.forall_mem_nil _) hLine
      rw [rewriteAll, rewrite_return hAlike.1 hLine,
        ih hNext hAlike.2 hTemplates.2]
      rfl

/- Lines are rewritten alike in either style. -/
theorem StayInLine.rewriteAll_crLf
    (h : StayInLine forms)
    {text : List Char}
    (hReturn : '\r' ∉ text) :
    rewriteAll forms (crLf text) =
      crLf (rewriteAll forms text) := by
  have hLinewise : ∀ form ∈ forms, form.isLinewise = true :=
    fun form hForm =>
      (Bool.and_eq_true_iff.mp (h.endsAlike form hForm)).1
  have hOneLine : ∀ line, (∀ c ∈ line, InLine c) →
      '\n' ∉ rewriteAll forms line := by
    intro line hLine hFeed
    exact (forall_mem_rewriteAll h.templates hLine '\n'
      hFeed).2 rfl
  induction text using Text.linewise with
  | last line hFeed =>
      have hLine := forall_inLine hReturn hFeed
      rw [crLf_of_not_mem hFeed,
        crLf_of_not_mem (hOneLine line hLine)]
  | line line rest hFeed ih =>
      rw [List.mem_append, List.mem_cons, not_or, not_or]
        at hReturn
      have hLine := forall_inLine hReturn.1 hFeed
      rw [crLf_line hFeed, rewriteAll_line hLinewise,
        rewriteAll_line hLinewise, h.rewriteAll_return hLine,
        crLf_line (hOneLine line hLine), ih hReturn.2.2]

end Form

end GradleMigration

------------------------------------------------------------
-- The Built-In Rules
------------------------------------------------------------

namespace GradleMigration

open Text Script

/-
  What a rule makes of a text with CR LF pairs is what it
  makes of the text, with CR LF pairs.
-/
def Rule.KeepsStyle
    (rule : Rule)
    (content : List Char) : Prop :=
  ∃ text, rule.transform content = .ok text ∧
    rule.transform (crLf content) = .ok (crLf text)

/- The rule for tasks, where no line feed is escaped. -/
theorem Rule.keepsStyle_of_taskLeftShift
    {rule : Rule}
    (hKind : rule.kind = .taskLeftShift)
    {content : List Char}
    (h : Unescaped content) :
    rule.KeepsStyle content := by
  refine ⟨_, transform_eq_migrateTasks hKind content, ?_⟩
  rw [transform_eq_migrateTasks hKind, migrateTasks_crLf h]

/- A rule without substitutions changes nothing. -/
theorem Rule.keepsStyle_of_build
    {entry : RuleEntry}
    {rule : Rule}
    (hKind : entry.kind = "substitution")
    (hNone : entry.substitutions = [])
    (hBuild : entry.build = .ok rule)
    (content : List Char) :
    rule.KeepsStyle content := by
  rcases Registry.parts_of_build hBuild with
    ⟨hName, hCompiled⟩
  rw [hKind] at hName
  rw [hNone] at hCompiled
  have hKept : ∀ text, rule.transform text = .ok text := by
    intro text
    rw [transform_eq_applyAll (Option.some.inj hName).symm,
      ← Except.ok.inj hCompiled]
    rfl
  exact ⟨content, hKept content, hKept _⟩

/- Rules that replace constructs. -/
theorem Construct.rewriteAll_crLf
    {constructs : List Construct}
    (h : ∀ p ∈ constructs, '\n' ∉ p.lead ∧ '\n' ∉ p.close)
    (text : List Char) :
    rewriteAll constructs (crLf text) =
      crLf (rewriteAll constructs text) := by
  induction constructs generalizing text with
  | nil => rfl
  | cons p ps ih =>
      rw [List.forall_mem_cons] at h
      rw [rewriteAll, rewrite_crLf h.1.1 h.1.2, ih h.2]
      rfl

theorem NameRule.keepsStyle
    (r : NameRule)
    (h : ∀ p ∈ r.constructs, '\n' ∉ p.lead ∧ '\n' ∉ p.close)
    {rule : Rule}
    (hBuild : r.entry.build = .ok rule)
    (content : List Char) :
    rule.KeepsStyle content := by
  rcases r.exists_transform with
    ⟨other, hOther, _, _, hTransform⟩
  have hSame : other = rule :=
    Except.ok.inj (hOther.symm.trans hBuild)
  subst hSame
  refine ⟨_, hTransform content, ?_⟩
  rw [hTransform, Construct.rewriteAll_crLf h]

/- Rules that replace what is in a line. -/
theorem Form.StayInLine.keepsStyle
    {forms : List Form}
    (h : StayInLine forms)
    {entry : RuleEntry}
    (hForms : entry.hasForms forms = true)
    {rule : Rule}
    (hBuild : entry.build = .ok rule)
    {content : List Char}
    (hReturn : '\r' ∉ content) :
    rule.KeepsStyle content := by
  rcases Rule.exists_transform_of_hasForms hForms with
    ⟨other, hOther, hTransform⟩
  have hSame : other = rule :=
    Except.ok.inj (hOther.symm.trans hBuild)
  subst hSame
  refine ⟨_, hTransform content, ?_⟩
  rw [hTransform, h.rewriteAll_crLf hReturn]

namespace Builtin

/- The forms for assignments and releases. -/
theorem stayInLine_archiveSettings :
    Form.StayInLine (archiveSettings.map (·.form)) where
  endsAlike := by decide
  templates := by decide

theorem stayInLine_baseNameSettings :
    Form.StayInLine (baseNameSettings.map (·.form)) where
  endsAlike := by decide
  templates := by decide

theorem stayInLine_release :
    Form.StayInLine [Release.form] where
  endsAlike := by decide
  templates := by decide

/- What replaces a name has no line feed. -/
theorem not_mem_of_nameRules :
    ∀ r ∈ nameRules, ∀ p ∈ r.constructs,
      '\n' ∉ p.lead ∧ '\n' ∉ p.close := by
  decide

/-
  What a rule of the catalog makes of a text does not depend
  on the style of its line ends; for tasks, if no line feed is
  escaped.
-/
theorem transform_keeps_style :
    ∀ rule ∈ Registry.builtin.rules, ∀ content,
      '\r' ∉ content →
      (rule.kind = .taskLeftShift → Unescaped content) →
        rule.KeepsStyle content := by
  intro rule hRule content hReturn hTask
  rcases Registry.exists_entry_of_mem
      (Registry.forall₂_of_ofEntries
        Registry.ofEntries_builtin) hRule with
    ⟨entry, hEntry, hBuild⟩
  have hName : ∀ r ∈ nameRules, r.entry.build = .ok rule →
      rule.KeepsStyle content :=
    fun r hR hOf =>
      r.keepsStyle (not_mem_of_nameRules r hR) hOf content
  simp only [entries, List.mem_cons, List.not_mem_nil,
    or_false] at hEntry
  rcases hEntry with hConfigurations | hApi | hArchive |
    hVersion | hTasks | hDynamic | hMethods | hDependency |
    hClasspath | hOutput | hTypes | hProperties
  · subst hConfigurations
    exact hName configurationRule (by simp [nameRules]) hBuild
  · subst hApi
    exact hName conventionRule (by simp [nameRules]) hBuild
  · subst hArchive
    exact stayInLine_archiveSettings.keepsStyle
      hasForms_archiveName hBuild hReturn
  · subst hVersion
    exact stayInLine_release.keepsStyle
      hasForms_gradleVersion hBuild hReturn
  · subst hTasks
    have hKind : rule.kind = .taskLeftShift :=
      Option.some.inj
        (Registry.parts_of_build hBuild).1.symm
    exact Rule.keepsStyle_of_taskLeftShift hKind (hTask hKind)
  · subst hDynamic
    exact Rule.keepsStyle_of_build rfl rfl hBuild content
  · subst hMethods
    exact hName methodRule (by simp [nameRules]) hBuild
  · subst hDependency
    exact hName dependencyRule (by simp [nameRules]) hBuild
  · subst hClasspath
    exact Rule.keepsStyle_of_build rfl rfl hBuild content
  · subst hOutput
    exact hName outputRule (by simp [nameRules]) hBuild
  · subst hTypes
    exact Rule.keepsStyle_of_build rfl rfl hBuild content
  · subst hProperties
    exact stayInLine_baseNameSettings.keepsStyle
      hasForms_deprecatedProperties hBuild hReturn

/-
  A header over two lines, and braces in a line comment, in a
  literal that is not closed in its line, in one with escapes
  and in a block comment.
-/
def bracesScript : List Char :=
  ("task\n  a << \x7b\n" ++
    "  // it's \x7d\n" ++
    "  println 'open \x7d\n" ++
    "  println \"\"\"\n\x7d\\\"\"\"\" /* \x7d\n" ++
    "*/\n" ++
    "\x7d\n").toList

theorem transform_keeps_style_of_bracesScript :
    ∃ rule ∈ Registry.builtin.rules,
      rule.kind = .taskLeftShift ∧
        '\r' ∉ bracesScript ∧
        Unescaped bracesScript ∧
        rule.transform bracesScript =
          .ok ("task a \x7b doLast \x7b\n" ++
            "  // it's \x7d\n" ++
            "  println 'open \x7d\n" ++
            "  println \"\"\"\n\x7d\\\"\"\"\" /* \x7d\n" ++
            "*/\n" ++
            "\x7d \x7d\n").toList ∧
        rule.KeepsStyle bracesScript := by
  rcases Rule.exists_taskLeftshift with ⟨rule, hBuild, hKind⟩
  have hRule := Registry.mem_builtin_of_build
    (show taskLeftshift ∈ entries by simp [entries]) hBuild
  have hScript : bracesScript = Text.decoded _ :=
    Text.toList_eq_decoded _
  have hReturn : '\r' ∉ bracesScript := by
    rw [hScript]
    decide +kernel
  have hUnescaped : Unescaped bracesScript := by
    rw [hScript]
    decide +kernel
  refine ⟨rule, hRule, hKind, hReturn, hUnescaped, ?_,
    transform_keeps_style rule hRule bracesScript hReturn
      fun _ => hUnescaped⟩
  rw [Rule.transform_eq_migrateTasks hKind, hScript,
    Text.toList_eq_decoded]
  apply congrArg
  decide +kernel

/- A literal that goes on in the next line. -/
def continuedScript : List Char :=
  ("task a << \x7b\n" ++
    "    println 'x\\\n" ++
    "\x7d'\n" ++
    "\x7d\n").toList

/-
  With CR LF pairs the backslash takes the carriage return
  only, the line feed ends the literal, and the brace behind
  it is taken for the end of the task.
-/
theorem transform_loses_style :
    ∃ rule ∈ Registry.builtin.rules,
      '\r' ∉ continuedScript ∧
        rule.transform continuedScript =
          .ok ("task a \x7b doLast \x7b\n" ++
            "    println 'x\\\n" ++
            "\x7d'\n" ++
            "\x7d \x7d\n").toList ∧
        rule.transform (crLf continuedScript) =
          .ok ("task a \x7b doLast \x7b\r\n" ++
            "    println 'x\\\r\n" ++
            "\x7d \x7d'\r\n" ++
            "\x7d\r\n").toList ∧
        ¬ rule.KeepsStyle continuedScript := by
  rcases Rule.exists_taskLeftshift with ⟨rule, hBuild, hKind⟩
  have hRule := Registry.mem_builtin_of_build
    (show taskLeftshift ∈ entries by simp [entries]) hBuild
  have hTransform := Rule.transform_eq_migrateTasks hKind
  have hScript : continuedScript = Text.decoded _ :=
    Text.toList_eq_decoded _
  refine ⟨rule, hRule, by rw [hScript]; decide +kernel,
    ?_, ?_, ?_⟩
  · rw [hTransform, hScript, Text.toList_eq_decoded]
    apply congrArg
    decide +kernel
  · rw [hTransform, hScript, Text.toList_eq_decoded]
    apply congrArg
    decide +kernel
  · rintro ⟨text, hText, hCrLf⟩
    rw [hTransform] at hText hCrLf
    cases hText
    have hNe : migrateTasks (crLf continuedScript) ≠
        crLf (migrateTasks continuedScript) := by
      rw [hScript]
      decide +kernel
    exact hNe (Except.ok.inj hCrLf)

end Builtin

end GradleMigration
