import GradleMigration.Proofs.Rule.Assignments
import GradleMigration.Proofs.Rule.Releases
import GradleMigration.Rule.Builtin

/-
  The built-in rules that rewrite values: archive properties,
  the base name of archives, and the release of the wrapper.

  They change a text once and for all if no line has two of
  the constructs that they look for.  A line with two is not
  done after one pass: the value, the note or the address that
  is kept holds the other one, and the next pass finds it.

  Main declarations:
    * `Builtin.valueRules`
    * `Rule.of_forms`
    * `Builtin.valueRules_settle`
    * `Builtin.valueRules_unsettled`
-/

------------------------------------------------------------
-- Rules that Rewrite Values
------------------------------------------------------------

namespace GradleMigration

/-
  An entry, the number of its constructs in a line, and the
  characters that its replacements wear off.
-/
structure ValueRule where
  entry : RuleEntry
  constructs : List Char → Nat
  mark : Char → Bool

namespace Builtin

/- The properties of archives and the calls that set them. -/
def archiveSettings : List Setting :=
  [{ name := "archiveName".toList
     call := "archiveFileName.set".toList
     closing := [] },
   { name := "archiveBaseName".toList
     call := "archiveBaseName.set".toList
     closing := [] },
   { name := "archiveVersion".toList
     call := "archiveVersion.set".toList
     closing := [] },
   { name := "archiveExtension".toList
     call := "archiveExtension.set".toList
     closing := [] }]

/- The base name of all archives of a project. -/
def baseNameSettings : List Setting :=
  [{ name := "archivesBaseName".toList
     call := "base \x7b archivesName.set".toList
     closing := " \x7d".toList }]

/- The rules that rewrite values. -/
def valueRules : List ValueRule :=
  [⟨archiveName, assignments archiveSettings false,
      (· == '=')⟩,
   ⟨deprecatedProperties, assignments baseNameSettings false,
      (· == '=')⟩,
   ⟨gradleVersion, releases, isOldMajor⟩]

/- The forms of their substitutions. -/
theorem hasForms_archiveName :
    archiveName.hasForms (archiveSettings.map (·.form)) =
      true := by
  rw [RuleEntry.hasForms_eq_decoded]
  decide +kernel

theorem hasForms_deprecatedProperties :
    deprecatedProperties.hasForms
      (baseNameSettings.map (·.form)) = true := by
  rw [RuleEntry.hasForms_eq_decoded]
  decide +kernel

theorem hasForms_gradleVersion :
    gradleVersion.hasForms [Release.form] = true := by
  rw [RuleEntry.hasForms_eq_decoded]
  decide +kernel

end Builtin

end GradleMigration

------------------------------------------------------------
-- When One Pass is Enough
------------------------------------------------------------

namespace GradleMigration

/-
  The rule of an entry changes a text once and for all where
  every line has at most one construct, and every text comes
  to rest after some passes, one for each marked character at
  most.
-/
def ValueRule.Settles
    (v : ValueRule) : Prop :=
  ∃ rule, v.entry.build = .ok rule ∧
    ∀ content,
      (∃ text, rule.transform content = .ok text ∧
        ((∀ line ∈ content.splitOn '\n',
            v.constructs line ≤ 1) →
          rule.transform text = .ok text)) ∧
        ∃ count ≤ content.countP v.mark, ∃ text,
          rule.passes count content = .ok text ∧
            rule.transform text = .ok text

/- A rule settles if its forms spend and wear off. -/
theorem ValueRule.Settles.of_forms
    {entry : RuleEntry}
    {forms : List Form}
    {tally : Tally}
    {mark : Char → Bool}
    (hForms : entry.hasForms forms = true)
    (hSpends : ∀ form ∈ forms, form.Spends tally)
    (hWears : ∀ form ∈ forms, form.Wears mark) :
    ValueRule.Settles ⟨entry, tally.count false, mark⟩ := by
  have hLinewise := (entry.of_hasForms hForms).1
  rcases Rule.exists_transform_of_hasForms hForms with
    ⟨rule, hBuild, hTransform⟩
  refine ⟨rule, hBuild, fun content =>
    ⟨⟨Form.rewriteAll forms content, hTransform content, ?_⟩,
      ?_⟩⟩
  · intro hOne
    rw [hTransform,
      Form.rewriteAll_settles hSpends hLinewise hOne]
  · apply Rule.exists_passes_settled
    intro text
    exact ⟨_, hTransform text,
      Form.rewriteAll_eq_or_countP_lt hWears hLinewise text⟩

/- Rules that replace assignments settle. -/
theorem ValueRule.Settles.of_settings
    {entry : RuleEntry}
    {settings : List Setting}
    (hForms : entry.hasForms (settings.map (·.form)) = true) :
    ValueRule.Settles
      ⟨entry, assignments settings false, (· == '=')⟩ := by
  have hSpends : ∀ form ∈ settings.map (·.form),
      form.Spends (Setting.tally settings) :=
    List.forall_mem_map.mpr fun _ hMem => Setting.spends hMem
  have hWears : ∀ form ∈ settings.map (·.form),
      form.Wears (· == '=') :=
    List.forall_mem_map.mpr fun _ _ => Setting.wears
  exact of_forms hForms hSpends hWears

/- Rules that replace releases settle. -/
theorem ValueRule.Settles.of_release
    {entry : RuleEntry}
    (hForms : entry.hasForms [Release.form] = true) :
    ValueRule.Settles ⟨entry, releases, isOldMajor⟩ := by
  have hSpends : ∀ form ∈ [Release.form],
      form.Spends Release.tally :=
    List.forall_mem_singleton.mpr Release.spends
  have hWears : ∀ form ∈ [Release.form],
      form.Wears isOldMajor :=
    List.forall_mem_singleton.mpr Release.wears
  exact of_forms hForms hSpends hWears

namespace Builtin

/- Rewriting values settles where no line has two of them. -/
theorem valueRules_settle :
    ∀ v ∈ valueRules, v.Settles := by
  intro v hV
  simp only [valueRules, List.mem_cons, List.not_mem_nil,
    or_false] at hV
  rcases hV with hArchive | hBase | hRelease
  · subst hArchive
    exact .of_settings hasForms_archiveName
  · subst hBase
    exact .of_settings hasForms_deprecatedProperties
  · subst hRelease
    exact .of_release hasForms_gradleVersion

/- Assignments with notes, other signs and other line ends. -/
def archiveScript : List Char :=
  ("jar \x7b\n" ++
    "  archiveName = 'a.jar' // was archiveBaseName\n" ++
    "\tarchiveVersion='1=2'\r\n" ++
    "  if (archiveName == x) archiveExtension = 'zip' \n" ++
    "\x7d\n").toList

theorem valueRules_settle_archiveScript :
    ∃ rule,
      archiveName.build = .ok rule ∧
        (∀ line ∈ archiveScript.splitOn '\n',
          assignments archiveSettings false line ≤ 1) ∧
        ∃ text, rule.transform archiveScript = .ok text ∧
          text =
            ("jar \x7b\n" ++
              "  archiveFileName.set('a.jar')" ++
              " // was archiveBaseName\n" ++
              "\tarchiveVersion.set('1=2')\r\n" ++
              "  if (archiveName == x)" ++
              " archiveExtension.set('zip')\n" ++
              "\x7d\n").toList ∧
          rule.transform text = .ok text := by
  have hScript : archiveScript = Text.decoded _ :=
    Text.toList_eq_decoded _
  have hOne : ∀ line ∈ archiveScript.splitOn '\n',
      assignments archiveSettings false line ≤ 1 := by
    rw [hScript]
    decide +kernel
  rcases valueRules_settle
      ⟨archiveName, assignments archiveSettings false,
        (· == '=')⟩
      List.mem_cons_self with ⟨rule, hBuild, hAll⟩
  rcases (hAll archiveScript).1 with ⟨text, hText, hAgain⟩
  refine ⟨rule, hBuild, hOne, text, hText, ?_, hAgain hOne⟩
  rcases Rule.exists_transform_of_hasForms
      hasForms_archiveName with ⟨other, hOther, hTransform⟩
  have hSame : rule = other :=
    Except.ok.inj (hBuild.symm.trans hOther)
  subst hSame
  rw [Except.ok.inj (hText.symm.trans (hTransform _)), hScript,
    Text.toList_eq_decoded]
  decide +kernel

end Builtin

end GradleMigration

------------------------------------------------------------
-- When it is Not
------------------------------------------------------------

namespace GradleMigration

/- A second pass changes the text of the first. -/
def RuleEntry.Unsettled
    (entry : RuleEntry)
    (text : List Char) : Prop :=
  ∃ rule, entry.build = .ok rule ∧
    ∃ once twice,
      rule.transform text = .ok once ∧
        rule.transform once = .ok twice ∧
        once ≠ twice

theorem RuleEntry.Unsettled.of_forms
    {entry : RuleEntry}
    {forms : List Form}
    (hForms : entry.hasForms forms = true)
    {text : List Char}
    (hNe : Form.rewriteAll forms text ≠
      Form.rewriteAll forms (Form.rewriteAll forms text)) :
    entry.Unsettled text := by
  rcases Rule.exists_transform_of_hasForms hForms with
    ⟨rule, hBuild, hTransform⟩
  exact ⟨rule, hBuild, _, _, hTransform text, hTransform _,
    hNe⟩

namespace Builtin

/-
  The first pass keeps an assignment in a note, and the first
  of two releases in an address.
-/
theorem valueRules_unsettled :
    archiveName.Unsettled
        ("archiveName = 'a.jar'" ++
          " // archiveName = 'b.jar'\n").toList ∧
      deprecatedProperties.Unsettled
        ("archivesBaseName = 'a'" ++
          " // archivesBaseName = 'b'\n").toList ∧
      gradleVersion.Unsettled
        ("distributionUrl=https://host/gradle-7.0-bin.zip" ++
          "?mirror=gradle-8.0-bin.zip\n").toList := by
  refine ⟨.of_forms hasForms_archiveName ?_,
    .of_forms hasForms_deprecatedProperties ?_,
    .of_forms hasForms_gradleVersion ?_⟩
  · decide +kernel
  · decide +kernel
  · decide +kernel

end Builtin

end GradleMigration
