import GradleMigration.Proofs.Rule.Catalog
import GradleMigration.Proofs.Rule.Constructs
import Mathlib.Data.List.Forall2

/-
  The rules of the catalog that replace names, and the
  constructs that they look for.

  Main declarations:
    * `Renaming`
    * `Builtin.configurationNames`
    * `Builtin.sourceSetOutput`
    * `NameRule` and `Builtin.nameRules`
    * `NameRule.exists_transform`
-/

------------------------------------------------------------
-- Constructs of the Catalog
------------------------------------------------------------

namespace GradleMigration

/- A name and the one that it is replaced by. -/
structure Renaming where
  old : List Char
  new : List Char
  old_ne_nil : old ≠ [] := by decide
  old_word : ∀ c ∈ old, Text.isWord c = true := by
    exact List.all_eq_true.mp (by decide)

namespace Renaming

/- A name in front of blanks. -/
def beforeBlank
    (r : Renaming) : Construct where
  word := r.old
  tail := [.gap true true]
  lead := r.new
  close := []
  word_ne_nil := r.old_ne_nil
  word_word := r.old_word

/- A name in front of a parenthesis. -/
def beforeParen
    (r : Renaming) : Construct where
  word := r.old
  tail := [.gap true false, .sign '(']
  lead := r.new
  close := ['(']
  word_ne_nil := r.old_ne_nil
  word_word := r.old_word

/- A method that is called with nothing. -/
def calledBare
    (r : Renaming) : Construct where
  word := r.old
  tail :=
    [.gap false false, .sign '(', .gap false false, .sign ')']
  lead := r.new
  close := []
  word_ne_nil := r.old_ne_nil
  word_word := r.old_word

variable {r : Renaming}
variable {behind : List Char}
variable {taken : Taken}

/- What is read of blanks behind a name. -/
theorem of_read_beforeBlank
    (h : Piece.read r.beforeBlank.tail behind = some taken) :
    behind.takeWhile Text.isBlank ≠ [] ∧
      taken.passed = behind.takeWhile Text.isBlank ∧
        taken.kept = behind.takeWhile Text.isBlank := by
  rcases Piece.of_read_cons h with
    ⟨part, last, hPart, hLast, hTaken⟩
  cases hLast
  subst hTaken
  simp only [Piece.take, Bool.true_and] at hPart
  split at hPart
  · cases hPart
  · next hNil =>
      cases hPart
      exact ⟨fun hEmpty => hNil (List.isEmpty_iff.mpr hEmpty),
        List.append_nil _, rfl⟩

/- What is read of a gap and a parenthesis behind a name. -/
theorem of_read_beforeParen
    (h : Piece.read r.beforeParen.tail behind = some taken) :
    taken.passed =
        behind.takeWhile Text.isBlank ++ ['('] ∧
      taken.kept = behind.takeWhile Text.isBlank := by
  rcases Piece.of_read_cons h with
    ⟨part, later, hPart, hLater, hTaken⟩
  rcases Piece.of_read_cons hLater with
    ⟨sign, last, hSign, hLast, hMore⟩
  cases hLast
  subst hTaken hMore
  cases hPart
  rw [Piece.of_take_sign hSign]
  exact ⟨rfl, rfl⟩

end Renaming

namespace Builtin

/- The configurations and what has come in their place. -/
def configurationNames : List Renaming :=
  [{ old := "compile".toList
     new := "implementation".toList },
   { old := "runtime".toList
     new := "runtimeOnly".toList },
   { old := "testCompile".toList
     new := "testImplementation".toList },
   { old := "testRuntime".toList
     new := "testRuntimeOnly".toList }]

/- The getters and the calls that have come in their place. -/
def getterNames : List Renaming :=
  [{ old := "getArchivePath".toList
     new := "archiveFile.get()".toList },
   { old := "getClassesDir".toList
     new := "classesDirectory.get()".toList },
   { old := "getDestinationDir".toList
     new := "destinationDirectory.get()".toList }]

/- A look-up through the convention object. -/
def conventionPlugin : Construct where
  word := "convention".toList
  tail :=
    [.gap false false, .sign '.', .gap false false,
      .word "getPlugin".toList]
  lead := "extensions.getByType".toList
  close := []

/- The output directory of a source set. -/
def sourceSetOutput : Construct where
  loose := true
  word := "sourceSets".toList
  tail :=
    [.sign '.', .name, .sign '.', .word "output".toList,
      .sign '.', .word "classesDir".toList]
  lead := []
  close := ['s']

/- The form that puts it in the plural. -/
def sourceSetForm : Form where
  pattern :=
    .seq
      (.group 1 (.sequence
        ("sourceSets.".toList.map .letter ++
          .stretch .word true ::
            ".output.classesDir".toList.map .letter)))
      .edge
  template := [.group 1, .literal ['s']]

end Builtin

end GradleMigration

------------------------------------------------------------
-- The Output of a Source Set
------------------------------------------------------------

namespace GradleMigration

namespace Pattern

/-
  An edge behind a word may be left out where what follows
  cannot go on with the word.
-/
theorem ways_edge_after_letters
    {word : List Char}
    (hNil : word ≠ [])
    (hWord : ∀ c ∈ word, Text.isWord c = true)
    {ps : List Pattern}
    (hNext : ∀ t : Spot, Anchor.wordAt false t.after = true →
      (sequence ps).ways t = [])
    (s : Spot) :
    (sequence (word.map letter ++ edge :: ps)).ways s =
      (sequence (word.map letter ++ ps)).ways s := by
  rw [ways_sequence_append, ways_sequence_append, ways_letters]
  split
  · have hBefore : Anchor.wordAt false
        (s.past word (s.after.drop word.length) []).before =
          true :=
      Piece.wordAt_reverse_append hNil hWord s.before
    rw [List.flatMap_singleton, List.flatMap_singleton,
      ways_sequence_cons, ways_edge, hBefore]
    split
    · next hOn => exact (hNext _ hOn.symm).symm
    · exact List.flatMap_singleton _ _
  · rfl

/- A group is remembered where an edge has been passed. -/
theorem ways_group_edge
    (index : Nat)
    (p : Pattern)
    (s : Spot) :
    (Pattern.seq (.group index p) edge).ways s =
      ((Pattern.seq p edge).ways s).map fun t =>
        t.capture index (s.textTo t) := by
  rw [ways, ways, ways, List.flatMap_map, List.map_flatMap]
  refine List.flatMap_congr fun t _ => ?_
  by_cases hSame : Anchor.wordAt false t.before =
      Anchor.wordAt false t.after
  · have hNone : edge.ways (t.capture index (s.textTo t)) =
        [] := by
      rw [ways_edge]
      exact if_pos hSame
    simp only [hNone, ways_edge, if_pos hSame, List.map_nil]
  · have hStay : edge.ways (t.capture index (s.textTo t)) =
        [t.capture index (s.textTo t)] := by
      rw [ways_edge]
      exact if_neg hSame
    simp only [hStay, ways_edge, if_neg hSame, List.map_cons,
      List.map_nil]

end Pattern

namespace Builtin

open Pattern

/- The parts of the form read the pieces of the construct. -/
theorem ways_sourceSet
    (s : Spot) :
    (Pattern.seq
        (.sequence
          ("sourceSets.".toList.map .letter ++
            .stretch .word true ::
              ".output.classesDir".toList.map .letter))
        .edge).ways s =
      (Pattern.sequence (sourceSetOutput.word.map .letter ++
        sourceSetOutput.tail.flatMap Piece.patterns)).ways s := by
  let front : List Pattern :=
    "sourceSets.".toList.map .letter ++
      [.stretch .word true, .letter '.']
  let rest : List Pattern :=
    ".classesDir".toList.map .letter ++ [.edge]
  have hForm :
      ("sourceSets.".toList.map .letter ++
        .stretch .word true ::
          ".output.classesDir".toList.map .letter) ++ [.edge] =
        front ++ ("output".toList.map .letter ++ rest) := by
    decide +kernel
  have hPieces :
      sourceSetOutput.word.map .letter ++
          sourceSetOutput.tail.flatMap Piece.patterns =
        front ++
          ("output".toList.map .letter ++ .edge :: rest) := by
    decide +kernel
  have hNext : ∀ t : Spot,
      Anchor.wordAt false t.after = true →
        (Pattern.sequence rest).ways t = [] := by
    intro t hOn
    have hDot : rest = .letter '.' ::
        ("classesDir".toList.map .letter ++ [.edge]) := by
      decide +kernel
    rw [hDot, ways_sequence_cons, ways_letter, if_neg]
    · rfl
    · intro hHead
      rcases List.head?_eq_some_iff.mp hHead with
        ⟨more, hAfter⟩
      rw [hAfter] at hOn
      have hSign : Text.isWord '.' = false := by decide
      have hWord : Text.isWord '.' = true := hOn
      rw [hSign] at hWord
      cases hWord
  have hEdge :
      (Pattern.sequence ("output".toList.map .letter ++
        .edge :: rest)).ways =
        (Pattern.sequence ("output".toList.map .letter ++
          rest)).ways :=
    funext (ways_edge_after_letters (by decide)
      (List.all_eq_true.mp (by decide)) hNext)
  rw [hPieces, ways_sequence_append, hEdge,
    ← ways_sequence_append, ← hForm, ways_sequence_append]
  rfl

/- The preferred way of the form. -/
theorem head?_ways_sourceSetForm
    (s : Spot) :
    (sourceSetForm.pattern.ways s).head? =
      (sourceSetOutput.starts s.after).map fun taken =>
        (s.past (sourceSetOutput.word ++ taken.passed)
          taken.rest taken.captured).capture 1
            (sourceSetOutput.word ++ taken.passed) := by
  have hBody := sourceSetOutput.head?_ways_body s
  unfold sourceSetForm
  rw [ways_group_edge, ways_sourceSet, List.head?_map, hBody,
    Option.map_map]
  refine Option.map_congr fun taken hTaken => ?_
  have hPasses : s.Passes
      (s.past (sourceSetOutput.word ++ taken.passed)
        taken.rest taken.captured)
      (sourceSetOutput.word ++ taken.passed)
      taken.captured :=
    ⟨sourceSetOutput.append_of_starts hTaken, rfl, rfl, rfl⟩
  rw [Function.comp_apply, hPasses.textTo_eq]

theorem reads_sourceSetForm :
    sourceSetForm.Reads sourceSetOutput where
  moving := by decide +kernel
  ways_eq_nil := by
    intro before text hNone
    have hStarts : sourceSetOutput.starts text = none := hNone
    have hHead := head?_ways_sourceSetForm (spotAt before text)
    unfold spotAt at hHead ⊢
    rw [hStarts] at hHead
    exact List.head?_eq_none_iff.mp hHead
  head? := by
    intro before text taken hTaken
    have hStarts : sourceSetOutput.starts text = some taken :=
      hTaken
    have hHead := head?_ways_sourceSetForm (spotAt before text)
    unfold spotAt at hHead
    rw [hStarts] at hHead
    refine ⟨_, hHead, rfl, rfl, ?_⟩
    simp [expand, Hit.group, Hit.between, Spot.capture,
      sourceSetForm, Construct.put, sourceSetOutput]

end Builtin

end GradleMigration

------------------------------------------------------------
-- Rules that Replace Names
------------------------------------------------------------

namespace GradleMigration

/- Replace some constructs, one after another. -/
def Construct.rewriteAll :
    List Construct → List Char → List Char
| [], text => text
| p :: ps, text => rewriteAll ps (p.rewrite text)

/- A rule that replaces constructs. -/
structure NameRule where
  entry : RuleEntry
  forms : List Form
  constructs : List Construct
  builds : entry.rewritesBy forms = true
  reads : List.Forall₂ Form.Reads forms constructs

/- Forms for constructs move on. -/
theorem Form.moving_of_reads
    {forms : List Form}
    {constructs : List Construct}
    (h : List.Forall₂ Form.Reads forms constructs) :
    ∀ form ∈ forms, form.pattern.isMoving = true := by
  induction h with
  | nil => exact List.forall_mem_nil _
  | cons hForm _ ih =>
      exact List.forall_mem_cons.mpr ⟨hForm.moving, ih⟩

/- Forms for some constructs rewrite texts as they should. -/
theorem Form.rewriteAll_of_reads
    {forms : List Form}
    {constructs : List Construct}
    (h : List.Forall₂ Form.Reads forms constructs)
    (text : List Char) :
    Form.rewriteAll forms text =
      Construct.rewriteAll constructs text := by
  induction h generalizing text with
  | nil => rfl
  | cons hForm _ ih =>
      rw [Form.rewriteAll, hForm.rewrite_eq, ih]
      rfl

/- Constructs that are not loose are read by their forms. -/
theorem Construct.reads_forms
    {constructs : List Construct}
    (h : ∀ p ∈ constructs, p.loose = false) :
    List.Forall₂ Form.Reads (constructs.map (·.form))
      constructs := by
  induction constructs with
  | nil => exact .nil
  | cons p ps ih =>
      rw [List.forall_mem_cons] at h
      exact .cons (reads_form h.1) (ih h.2)

/- The rule of an entry replaces its constructs. -/
theorem NameRule.exists_transform
    (r : NameRule) :
    ∃ rule, r.entry.build = .ok rule ∧
      rule.kind = .substitution ∧
        rule.substitutions.map (·.form?) =
          r.forms.map some ∧
          ∀ content, rule.transform content =
            .ok (Construct.rewriteAll r.constructs
              content) := by
  rcases Rule.exists_transform_of_rewritesBy r.builds
      (Form.moving_of_reads r.reads) with
    ⟨rule, hBuild, hKind, hForms, hTransform⟩
  refine ⟨rule, hBuild, hKind, hForms, ?_⟩
  intro content
  rw [hTransform, Form.rewriteAll_of_reads r.reads]

namespace Builtin

/- Configurations in front of blanks. -/
def configurationRule : NameRule where
  entry := deprecatedConfigurations
  forms := (configurationNames.map (·.beforeBlank)).map (·.form)
  constructs := configurationNames.map (·.beforeBlank)
  builds := by
    rw [RuleEntry.rewritesBy_eq_decoded]
    decide +kernel
  reads := Construct.reads_forms (by decide)

/- Configurations in front of parentheses. -/
def dependencyRule : NameRule where
  entry := deprecatedDependencyConfig
  forms := (configurationNames.map (·.beforeParen)).map (·.form)
  constructs := configurationNames.map (·.beforeParen)
  builds := by
    rw [RuleEntry.rewritesBy_eq_decoded]
    decide +kernel
  reads := Construct.reads_forms (by decide)

/- Getters. -/
def methodRule : NameRule where
  entry := deprecatedMethods
  forms := (getterNames.map (·.calledBare)).map (·.form)
  constructs := getterNames.map (·.calledBare)
  builds := by
    rw [RuleEntry.rewritesBy_eq_decoded]
    decide +kernel
  reads := Construct.reads_forms (by decide)

/- Look-ups through the convention object. -/
def conventionRule : NameRule where
  entry := deprecatedApi
  forms := [conventionPlugin.form]
  constructs := [conventionPlugin]
  builds := by
    rw [RuleEntry.rewritesBy_eq_decoded]
    decide +kernel
  reads := .cons (Construct.reads_form rfl) .nil

theorem hasForms_sourcesetOutput :
    sourcesetOutput.hasForms [sourceSetForm] = true := by
  rw [RuleEntry.hasForms_eq_decoded]
  decide +kernel

/- Output directories. -/
def outputRule : NameRule where
  entry := sourcesetOutput
  forms := [sourceSetForm]
  constructs := [sourceSetOutput]
  builds :=
    (RuleEntry.of_hasForms hasForms_sourcesetOutput).2
  reads := .cons reads_sourceSetForm .nil

/- The rules that replace names. -/
def nameRules : List NameRule :=
  [configurationRule, conventionRule, methodRule,
    dependencyRule, outputRule]

end Builtin

end GradleMigration
