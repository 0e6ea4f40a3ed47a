import GradleMigration.Proofs.Rule.FreeTexts
import GradleMigration.Proofs.Rule.Names
import GradleMigration.Proofs.Rule.Templates

/-
  Rules that replace names leave nothing behind.

  Each construct of such a rule clears the text of every other:
  most of them avoid each other, and the output of a source set
  is looked at for itself.  So all substitutions of a rule
  together leave a text in which none has a hit.

  Main declarations:
    * `Builtin.clears_sourceSetOutput`
    * `Builtin.clears_of_mem`
    * `Builtin.nameRules_leave_nothing`
-/

------------------------------------------------------------
-- The Output of a Source Set
------------------------------------------------------------

namespace GradleMigration

open Script

namespace Piece

/- A sign is read where it stands, and what follows is not. -/
theorem read_sign_eq_none
    {pieces : List Piece}
    {rest : List Char}
    (h : read pieces rest = none)
    (c : Char) :
    read (.sign c :: pieces) (c :: rest) = none := by
  simp [read, take, h]

/- A word is read, and what follows is not. -/
theorem read_run_eq_none
    {piece : Piece}
    (hName : opensName [piece] = true)
    {pieces : List Piece}
    {word behind : List Char}
    (hRun : Text.IsRun word behind)
    (h : read pieces behind = none) :
    read (piece :: pieces) (word ++ behind) = none := by
  have hWord := hRun.takeWhile_eq
  rw [read]
  cases piece with
  | sign c => cases hName
  | gap kept needed => cases hName
  | name =>
      simp [take, hWord, hRun.ne_nil, h]
  | word given =>
      by_cases hGiven : word = given
      · subst hGiven
        simp [take, hWord, h]
      · simp [take, hWord, hGiven]

/- Another word stands where a given one should. -/
theorem read_word_eq_none
    {given word behind : List Char}
    (hRun : Text.IsRun word behind)
    (h : word ≠ given)
    (pieces : List Piece) :
    read (.word given :: pieces) (word ++ behind) = none := by
  rw [read, take, hRun.takeWhile_eq, if_neg h]
  rfl

end Piece

namespace Builtin

/- What is read behind the word of an output directory. -/
theorem exists_setName
    {behind : List Char}
    {taken : Taken}
    (h : Piece.read sourceSetOutput.tail behind =
      some taken) :
    ∃ name, name ≠ [] ∧
      (∀ c ∈ name, Text.isWord c = true) ∧
        taken.passed =
          '.' :: (name ++ ".output.classesDir".toList) ∧
        Anchor.wordAt false taken.rest = false := by
  rcases Piece.of_read_cons h with
    ⟨first, _, hFirst, h, hTaken⟩
  rcases Piece.of_read_cons h with
    ⟨name, _, hName, h, hLater⟩
  rcases Piece.of_read_cons h with
    ⟨second, _, hSecond, h, hMore⟩
  rcases Piece.of_read_cons h with
    ⟨output, _, hOutput, h, hRest⟩
  rcases Piece.of_read_cons h with
    ⟨third, _, hThird, h, hEnd⟩
  rcases Piece.of_read_cons h with
    ⟨directory, last, hDirectory, h, hLast⟩
  cases h
  subst hTaken hLater hMore hRest hEnd hLast
  have hWord := Piece.of_take_name hName
  refine ⟨name, hWord.1, hWord.2, ?_,
    (Piece.of_take_word hDirectory).2⟩
  rw [Piece.of_take_sign hFirst, Piece.of_take_sign hSecond,
    Piece.of_take_sign hThird,
    (Piece.of_take_word hOutput).1,
    (Piece.of_take_word hDirectory).1]
  rfl

/- A word and a sign are a whole word. -/
theorem isRun_dot
    {word : List Char}
    (hNil : word ≠ [])
    (hWord : ∀ c ∈ word, Text.isWord c = true)
    (rest : List Char) :
    Text.IsRun word ('.' :: rest) where
  ne_nil := hNil
  isWord := hWord
  ended := (by decide : Text.isWord '.' = false)

/- An output directory in the plural, word by word. -/
def pluralOutput
    (front name rest : List Char) : List Char :=
  (front ++ "sourceSets".toList) ++ '.' ::
    (name ++ '.' :: ("output".toList ++ '.' ::
      ("classesDirs".toList ++ rest)))

/- This is what is put in. -/
theorem append_put_sourceSetOutput
    {taken : Taken}
    {name : List Char}
    (h : taken.passed =
      '.' :: (name ++ ".output.classesDir".toList))
    (front rest : List Char) :
    front ++ (sourceSetOutput.put taken ++ rest) =
      pluralOutput front name rest := by
  have hPut : sourceSetOutput.put taken =
      "sourceSets".toList ++
        ('.' :: (name ++ ".output.classesDir".toList) ++
          ['s']) := by
    unfold Construct.put
    rw [h]
    rfl
  have hPlural : ".output.classesDir".toList ++ ['s'] =
      '.' :: ("output".toList ++
        '.' :: "classesDirs".toList) := by
    decide
  unfold pluralOutput
  rw [hPut, List.cons_append, List.append_assoc name, hPlural]
  simp only [List.append_assoc, List.cons_append]

/- The words of an output directory in the plural. -/
structure PluralRuns
    (front name rest : List Char) : Prop where
  set : ∀ behind, Text.IsRun (front ++ "sourceSets".toList)
    ('.' :: behind)
  name : ∀ behind, Text.IsRun name ('.' :: behind)
  output : ∀ behind, Text.IsRun "output".toList
    ('.' :: behind)
  directory : Text.IsRun "classesDirs".toList rest

theorem pluralRuns
    {front behind name rest : List Char}
    (hRun : Text.IsRun (front ++ sourceSetOutput.word) behind)
    (hNil : name ≠ [])
    (hName : ∀ c ∈ name, Text.isWord c = true)
    (hRest : Anchor.wordAt false rest = false) :
    PluralRuns front name rest where
  set := isRun_dot hRun.ne_nil hRun.isWord
  name := isRun_dot hNil hName
  output := isRun_dot (by decide)
    (List.all_eq_true.mp (by decide))
  directory := ⟨by decide, List.all_eq_true.mp (by decide),
    hRest⟩

/- An output directory in the plural is not one to replace. -/
theorem PluralRuns.isFree
    {front name rest : List Char}
    (h : PluralRuns front name rest)
    (hRest : sourceSetOutput.IsFree false rest) :
    sourceSetOutput.IsFree false
      (pluralOutput front name rest) := by
  have hDot : Text.isWord '.' = false := by decide
  -- The word at the end is longer than the one that is read.
  have hSet : Piece.read sourceSetOutput.tail
      ('.' :: (name ++ '.' :: ("output".toList ++ '.' ::
        ("classesDirs".toList ++ rest)))) = none :=
    Piece.read_sign_eq_none (Piece.read_run_eq_none rfl
      (h.name _) (Piece.read_sign_eq_none
        (Piece.read_run_eq_none rfl (h.output _)
          (Piece.read_sign_eq_none
            (Piece.read_word_eq_none h.directory (by decide) _)
            _)) _)) _
  -- Behind the name there are too few words.
  have hName : Piece.read sourceSetOutput.tail
      ('.' :: ("output".toList ++ '.' ::
        ("classesDirs".toList ++ rest))) = none :=
    Piece.read_sign_eq_none (Piece.read_run_eq_none rfl
      (h.output _) (Piece.read_sign_eq_none
        (Piece.read_word_eq_none h.directory (by decide) _)
        _)) _
  have hOutput : sourceSetOutput.heads "output".toList =
      false := by
    decide
  have hDirectory : sourceSetOutput.heads
      "classesDirs".toList = false := by
    decide
  unfold pluralOutput
  rw [Construct.isFree_run (h.set _),
    Construct.isFree_sign hDot, Construct.isFree_run (h.name _),
    Construct.isFree_sign hDot,
    Construct.isFree_run (h.output _),
    Construct.isFree_sign hDot,
    Construct.isFree_run h.directory]
  unfold Construct.occurs
  rw [hSet, hName, hOutput, hDirectory, ite_self, ite_self]
  exact ⟨rfl, rfl, if_neg Bool.false_ne_true,
    if_neg Bool.false_ne_true, hRest⟩

/- Nor is it read in the middle of one. -/
theorem PluralRuns.read_eq_none
    {front name rest : List Char}
    (h : PluralRuns front name rest)
    {pieces : List Piece}
    (hTail : pieces <:+ sourceSetOutput.tail)
    (hName : Piece.opensName pieces = true) :
    Piece.read pieces (pluralOutput front name rest) =
      none := by
  have hNot : ∀ given ∈ ["output".toList,
      "classesDir".toList],
        front ++ "sourceSets".toList ≠ given := by
    intro given hGiven hEq
    have hSuffix : "sourceSets".toList <:+ given :=
      ⟨front, hEq⟩
    revert hSuffix
    have hNone : ∀ word ∈ ["output".toList,
        "classesDir".toList],
          ¬ "sourceSets".toList <:+ word := by
      decide
    exact hNone given hGiven
  unfold pluralOutput
  rw [← List.mem_tails] at hTail
  simp only [sourceSetOutput, List.tails, List.mem_cons,
    List.not_mem_nil, or_false] at hTail
  rcases hTail with hAll | hAt | hAfter | hWord | hDot | hLast |
    hNil
  · rw [hAll] at hName
    cases hName
  · rw [hAt]
    exact Piece.read_run_eq_none rfl (h.set _)
      (Piece.read_sign_eq_none
        (Piece.read_run_eq_none rfl (h.name _)
          (Piece.read_sign_eq_none
            (Piece.read_word_eq_none (h.output _) (by decide) _)
            _)) _)
  · rw [hAfter] at hName
    cases hName
  · rw [hWord]
    exact Piece.read_word_eq_none (h.set _)
      (hNot _ (by simp)) _
  · rw [hDot] at hName
    cases hName
  · rw [hLast]
    exact Piece.read_word_eq_none (h.set _)
      (hNot _ (by simp)) _
  · rw [hNil] at hName
    cases hName

/- Replacing an output directory leaves none. -/
theorem clears_sourceSetOutput :
    sourceSetOutput.Clears sourceSetOutput where
  opens := by
    intro taken text
    exact (by decide : Text.isWord 's' = true)
  free := by
    intro front behind rest taken hRun hParts hRest hFree
    rcases exists_setName hParts.read with
      ⟨name, hNil, hWord, hPassed, hEnded⟩
    rw [append_put_sourceSetOutput hPassed]
    exact (pluralRuns hRun hNil hWord
      (hRest.trans hEnded)).isFree hFree
  bars := by
    intro pieces hTail hName front behind rest taken hRun
      hParts hRest
    rcases exists_setName hParts.read with
      ⟨name, hNil, hWord, hPassed, hEnded⟩
    rw [append_put_sourceSetOutput hPassed]
    exact (pluralRuns hRun hNil hWord
      (hRest.trans hEnded)).read_eq_none hTail hName

end Builtin

end GradleMigration

------------------------------------------------------------
-- Strict Constructs of the Catalog
------------------------------------------------------------

namespace GradleMigration

open Script

/- Blanks follow a name. -/
theorem Renaming.sealed_beforeBlank
    (r : Renaming) :
    r.beforeBlank.Sealed := by
  intro behind rest taken hRead _
  right
  have hParts := of_read_beforeBlank hRead
  rw [hParts.2.2]
  exact Text.wordAt_signs hParts.1
    (fun c hC => Text.isWord_of_isBlank
      (List.all_eq_true.mp List.all_takeWhile c hC)) _

/- A parenthesis is put behind the gap. -/
theorem Renaming.sealed_beforeParen
    (r : Renaming) :
    r.beforeParen.Sealed := by
  intro behind rest taken hRead _
  right
  have hBlank := Construct.isBlank_of_kept hRead
  cases hKept : taken.kept with
  | nil => exact (by decide : Text.isWord '(' = false)
  | cons c more =>
      rw [hKept] at hBlank
      exact Text.isWord_of_isBlank
        (hBlank c List.mem_cons_self)

/- A call that ends with a sign. -/
theorem Renaming.sealed_calledBare
    {r : Renaming}
    (h : insideAfter false r.new = false) :
    r.calledBare.Sealed := by
  intro behind rest taken _ _
  exact Or.inl h

namespace Builtin

/- The plugin that is looked up ends with its name. -/
theorem sealed_conventionPlugin :
    conventionPlugin.Sealed := by
  intro behind rest taken hRead hRest
  right
  rcases Piece.of_read_cons hRead with
    ⟨_, _, _, hRead, hTaken⟩
  rcases Piece.of_read_cons hRead with
    ⟨_, _, _, hRead, hLater⟩
  rcases Piece.of_read_cons hRead with
    ⟨_, _, _, hRead, hMore⟩
  rcases Piece.of_read_cons hRead with
    ⟨plugin, last, hPlugin, hRead, hLast⟩
  cases hRead
  subst hTaken hLater hMore hLast
  exact hRest.trans (Piece.of_take_word hPlugin).2

/- The strict constructs are sealed. -/
theorem sealed_of_mem
    {r : NameRule}
    (hR : r ∈ [configurationRule, conventionRule, methodRule,
      dependencyRule])
    {p : Construct}
    (hP : p ∈ r.constructs) :
    p.Sealed := by
  simp only [List.mem_cons, List.not_mem_nil, or_false] at hR
  rcases hR with hBlank | hPlugin | hMethod | hParen
  · subst hBlank
    rcases List.mem_map.mp hP with ⟨name, _, hEq⟩
    subst hEq
    exact name.sealed_beforeBlank
  · subst hPlugin
    rw [List.mem_singleton.mp hP]
    exact sealed_conventionPlugin
  · subst hMethod
    rcases List.mem_map.mp hP with ⟨name, hName, hEq⟩
    subst hEq
    have hEnds : ∀ other ∈ getterNames,
        insideAfter false other.new = false := by
      decide
    exact Renaming.sealed_calledBare (hEnds name hName)
  · subst hParen
    rcases List.mem_map.mp hP with ⟨name, _, hEq⟩
    subst hEq
    exact name.sealed_beforeParen

/- The constructs of a rule clear each other. -/
theorem clears_of_mem
    {r : NameRule}
    (hR : r ∈ nameRules)
    {p q : Construct}
    (hP : p ∈ r.constructs)
    (hQ : q ∈ r.constructs) :
    p.Clears q := by
  have hRules : nameRules =
      [configurationRule, conventionRule, methodRule,
        dependencyRule] ++ [outputRule] :=
    rfl
  have hAvoids : ∀ rule ∈ [configurationRule, conventionRule,
      methodRule, dependencyRule],
        ∀ p ∈ rule.constructs, ∀ q ∈ rule.constructs,
          p.avoids q = true := by
    decide +kernel
  rw [hRules] at hR
  rcases List.mem_append.mp hR with hStrict | hOutput
  · exact Construct.clears_of_avoids (sealed_of_mem hStrict hP)
      (hAvoids r hStrict p hP q hQ)
  · rw [List.mem_singleton] at hOutput
    subst hOutput
    rw [List.mem_singleton.mp hP, List.mem_singleton.mp hQ]
    exact clears_sourceSetOutput

end Builtin

end GradleMigration

------------------------------------------------------------
-- Nothing is Left Behind
------------------------------------------------------------

namespace GradleMigration

/-
  All constructs together leave a text that is free of each of
  them.
-/
theorem Construct.isFree_rewriteAll
    {constructs : List Construct}
    {q : Construct}
    (hClears : ∀ p ∈ constructs, p.Clears q)
    {text : List Char}
    (h : q ∈ constructs ∨ q.IsFree false text) :
    q.IsFree false (rewriteAll constructs text) := by
  induction constructs generalizing text with
  | nil =>
      rcases h with hNone | hFree
      · cases hNone
      · exact hFree
  | cons p ps ih =>
      rw [List.forall_mem_cons] at hClears
      apply ih hClears.2
      rcases h with hMem | hFree
      · rcases List.mem_cons.mp hMem with hSame | hLater
        · exact Or.inr
            (hClears.1.isFree_rewrite (Or.inl hSame))
        · exact Or.inl hLater
      · exact Or.inr (hClears.1.isFree_rewrite (Or.inr hFree))

/- A text that no substitution hits is kept. -/
theorem Rule.transform_of_hits_eq_nil
    {rule : Rule}
    (hKind : rule.kind = .substitution)
    (hTotal : rule.Total)
    {text : List Char}
    (h : ∀ s ∈ rule.substitutions, s.pattern.hits text = []) :
    rule.transform text = .ok text := by
  rcases hTotal text with ⟨changed, hChanged⟩
  by_cases hSame : changed = text
  · rw [hChanged, hSame]
  · rw [transform_eq_applyAll hKind] at hChanged
    rcases Substitution.exists_hits_of_applyAll hChanged
        hSame with ⟨s, hS, hHits⟩
    exact absurd (h s hS) hHits

/- What a rule keeps has nothing that it could fix. -/
theorem Rule.isFixable_of_transform
    {rule : Rule}
    (hAgrees : rule.Agrees)
    (hTotal : rule.Total)
    {text : List Char}
    (h : rule.transform text = .ok text)
    (hit : Hit) :
    rule.isFixable text hit = .ok false := by
  rcases (answers_iff_total.mpr hTotal).isFixable text hit with
    ⟨fixable, hFixable⟩
  cases fixable with
  | false => exact hFixable
  | true =>
      rcases hAgrees text hit hFixable with
        ⟨changed, hChanged, hNe⟩
      rw [h] at hChanged
      cases hChanged
      exact absurd rfl hNe

namespace Form

/- A substitution with a form has its pattern. -/
theorem pattern_eq_of_form?
    {s : Substitution}
    {form : Form}
    (h : s.form? = some form) :
    s.pattern.pattern = form.pattern := by
  unfold Substitution.form? at h
  split at h
  · cases h
  · cases h
    rfl

/- The construct of a form. -/
theorem exists_construct
    {forms : List Form}
    {constructs : List Construct}
    (h : List.Forall₂ Form.Reads forms constructs)
    {form : Form}
    (hForm : form ∈ forms) :
    ∃ q ∈ constructs, form.Reads q := by
  induction h with
  | nil => cases hForm
  | cons hReads _ ih =>
      rcases List.mem_cons.mp hForm with hHere | hThere
      · subst hHere
        exact ⟨_, List.mem_cons_self, hReads⟩
      · rcases ih hThere with ⟨q, hQ, hLater⟩
        exact ⟨q, List.mem_cons_of_mem _ hQ, hLater⟩

end Form

/- A rule has no hit in a text that is free. -/
theorem NameRule.hits_eq_nil
    (r : NameRule)
    {substitutions : List Substitution}
    (hForms : substitutions.map (·.form?) = r.forms.map some)
    {text : List Char}
    (hFree : ∀ q ∈ r.constructs, q.IsFree false text) :
    ∀ s ∈ substitutions, s.pattern.hits text = [] := by
  intro s hS
  have hForm : s.form? ∈ r.forms.map some := by
    rw [← hForms]
    exact List.mem_map_of_mem hS
  rcases List.mem_map.mp hForm with ⟨form, hMem, hEq⟩
  rcases Form.exists_construct r.reads hMem with
    ⟨q, hQ, hReads⟩
  rw [Regex.hits_eq_nil_iff, Form.pattern_eq_of_form? hEq.symm]
  intro front rest hText
  exact (hFree q hQ).ways_eq_nil hReads hText

namespace Builtin

/- The entries of the rules that replace names. -/
def nameEntries : List RuleEntry :=
  [deprecatedConfigurations, deprecatedApi, deprecatedMethods,
    deprecatedDependencyConfig, sourcesetOutput]

theorem map_entry_nameRules :
    nameRules.map (·.entry) = nameEntries :=
  rfl

/-
  The rules that replace names leave nothing behind: no
  substitution has a hit in what they make of a text, so they
  keep it, and nothing that they find in it could be fixed.
-/
theorem nameRules_leave_nothing :
    ∀ entry ∈ nameEntries, ∃ rule,
      entry.build = .ok rule ∧ ∀ content, ∃ text,
        rule.transform content = .ok text ∧
          (∀ s ∈ rule.substitutions,
            s.pattern.hits text = []) ∧
          rule.transform text = .ok text ∧
          ∀ hit ∈ rule.hits text,
            rule.isFixable text hit = .ok false := by
  intro entry hEntry
  rw [← map_entry_nameRules] at hEntry
  rcases List.mem_map.mp hEntry with ⟨r, hR, hEq⟩
  subst hEq
  rcases r.exists_transform with
    ⟨rule, hBuild, hKind, hForms, hTransform⟩
  have hMem : rule ∈ Registry.builtin.rules := by
    apply Registry.mem_builtin_of_build _ hBuild
    have hNames : ∀ name ∈ nameRules.map (·.entry),
        name ∈ entries := by
      simp [nameRules, entries, configurationRule,
        conventionRule, methodRule, dependencyRule, outputRule]
    exact hNames r.entry hEntry
  have hTotal := Registry.total_of_mem_builtin hMem
  refine ⟨rule, hBuild, fun content => ?_⟩
  have hFree : ∀ q ∈ r.constructs, q.IsFree false
      (Construct.rewriteAll r.constructs content) := by
    intro q hQ
    exact Construct.isFree_rewriteAll
      (fun p hP => clears_of_mem hR hP hQ) (Or.inl hQ)
  have hHits := r.hits_eq_nil hForms hFree
  have hKept := Rule.transform_of_hits_eq_nil hKind hTotal hHits
  exact ⟨_, hTransform content, hHits, hKept, fun hit _ =>
    Rule.isFixable_of_transform
      (Registry.agrees_of_mem_builtin hMem) hTotal hKept hit⟩

/-
  Names behind each other, in longer words, in front of a
  parenthesis and at the end of a line.
-/
def callScript : List Char :=
  ("compile compile\ttestCompile  runtime(x)\n" ++
    "precompile compiled compile\n").toList

theorem nameRules_leave_nothing_in_callScript :
    ∃ rule, deprecatedConfigurations.build = .ok rule ∧
      ∃ text, rule.transform callScript = .ok text ∧
        text =
          ("implementation implementation\t" ++
            "testImplementation  runtime(x)\n" ++
            "precompile compiled implementation\n").toList ∧
        (∀ s ∈ rule.substitutions,
          s.pattern.hits text = []) ∧
        rule.transform text = .ok text ∧
        ∀ hit ∈ rule.hits text,
          rule.isFixable text hit = .ok false := by
  rcases nameRules_leave_nothing deprecatedConfigurations
      List.mem_cons_self with ⟨rule, hBuild, hAll⟩
  rcases hAll callScript with ⟨text, hText, hLeft⟩
  refine ⟨rule, hBuild, text, hText, ?_, hLeft⟩
  rcases configurationRule.exists_transform with
    ⟨other, hOther, _, _, hTransform⟩
  have hSame : rule = other :=
    Except.ok.inj (hBuild.symm.trans hOther)
  subst hSame
  rw [Except.ok.inj (hText.symm.trans (hTransform _))]
  decide +kernel

end Builtin

end GradleMigration
