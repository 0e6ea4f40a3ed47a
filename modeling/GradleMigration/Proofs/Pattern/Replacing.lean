import GradleMigration.Proofs.Pattern.Hits
import Mathlib.Algebra.GroupWithZero.Nat

/-
  Replacements after which a text cannot be what it was, read
  off a pattern and a template.

  Either the template holds some character more often than the
  pattern can match it outside of its groups, or it goes on
  behind a group with a character that the pattern does not
  accept there.

  Main declarations:
    * `Pattern.spill`
    * `Pattern.keeps_of_mem_ways`
    * `Regex.outweighs`
    * `Regex.count_replaceHits`
    * `Regex.diverges`
    * `Regex.replaceHits_ne_of_diverges`
-/

------------------------------------------------------------
-- Spill
------------------------------------------------------------

namespace GradleMigration

namespace Pattern

/-
  The most occurrences of a character outside of the groups
  of a match, if there is a limit to them that can be read
  off the pattern.
-/
def spill
    (x : Char) : Pattern → Option Nat
| .empty => some 0
| .one test => some (if test.accepts x then 1 else 0)
| .anchor _ => some 0
| .seq p q =>
    match p.spill x, q.spill x with
    | some m, some n => some (m + n)
    | _, _ => none
| .alt p q =>
    match p.spill x, q.spill x with
    | some m, some n => some (max m n)
    | _, _ => none
| .group _ p => if p.groupIndices = [] then some 0 else none
| .loop bounds greed p =>
    if bounds = ⟨0, some 1⟩ ∧ greed = .greedy then
      p.spill x
    else if p.groupIndices = [] ∧ p.spill x = some 0 then
      some 0
    else
      none
| .ahead _ p => if p.groupIndices = [] then some 0 else none
| _ => none

end Pattern

/-
  On the way from a spot to another, the groups captured are
  some of those given, and a character occurs at most `limit`
  times outside of them.
-/
structure Spot.Keeps
    (x : Char)
    (limit : Nat)
    (indices : List Nat)
    (s t : Spot)
    (text : List Char)
    (captured : List (Nat × List Char)) : Prop
    extends s.Passes t text captured where
  indices : List.Sublist (captured.map (·.1)) indices
  count :
    text.count x ≤
      limit + (captured.map fun (_, what) => what.count x).sum

namespace Spot

variable {x : Char} {s t u : Spot}

/- Staying in place keeps everything. -/
theorem Keeps.refl
    (limit : Nat)
    (indices : List Nat)
    (s : Spot) :
    s.Keeps x limit indices s [] [] where
  toPasses := .refl s
  indices := List.nil_sublist _
  count := Nat.zero_le _

/- What two stretches keep, the second one captures last. -/
theorem Keeps.trans
    {m n : Nat}
    {first second : List Nat}
    {text more : List Char}
    {captured later : List (Nat × List Char)}
    (hFirst : s.Keeps x m first t text captured)
    (hSecond : t.Keeps x n second u more later) :
    s.Keeps x (m + n) (second ++ first) u (text ++ more)
      (later ++ captured) where
  toPasses := hFirst.toPasses.trans hSecond.toPasses
  indices := by
    rw [List.map_append]
    exact hSecond.indices.append hFirst.indices
  count := by
    have hText := hFirst.count
    have hMore := hSecond.count
    rw [List.count_append, List.map_append, List.sum_append]
    omega

/- A greater limit and more groups are kept as well. -/
theorem Keeps.mono
    {m n : Nat}
    {few many : List Nat}
    {text : List Char}
    {captured : List (Nat × List Char)}
    (h : s.Keeps x m few t text captured)
    (hLimit : m ≤ n)
    (hIndices : few.Sublist many) :
    s.Keeps x n many t text captured where
  toPasses := h.toPasses
  indices := h.indices.trans hIndices
  count := by
    have hCount := h.count
    omega

/- Without groups nothing is captured. -/
theorem Keeps.captured_eq_nil
    {n : Nat}
    {text : List Char}
    {captured : List (Nat × List Char)}
    (h : s.Keeps x n [] t text captured) :
    captured = [] :=
  List.map_eq_nil_iff.mp (List.sublist_nil.mp h.indices)

/- Passing over characters other than the given one chains. -/
theorem chains_keeps_zero
    (x : Char) :
    Repetition.Chains fun s t =>
      ∃ text, Keeps x 0 [] s t text [] where
  refl s := ⟨_, .refl 0 [] s⟩
  trans h k := by
    rcases h with ⟨first, hFirst⟩
    rcases k with ⟨second, hSecond⟩
    exact ⟨_, hFirst.trans hSecond⟩

end Spot

namespace Pattern

/- A pattern without groups captures nothing. -/
theorem passes_of_groupIndices_eq_nil
    {p : Pattern}
    (hFlat : p.groupIndices = [])
    {s t : Spot}
    (h : t ∈ p.ways s) :
    ∃ text, s.Passes t text [] := by
  rcases p.passing_of_mem_ways s t h with
    ⟨text, captured, hText, hCaptured⟩
  rw [hFlat] at hCaptured
  cases List.map_eq_nil_iff.mp
    (List.subset_nil.mp hCaptured)
  exact ⟨text, hText⟩

/- Every way of a pattern keeps to its spill. -/
theorem keeps_of_mem_ways
    {x : Char}
    {p : Pattern}
    {n : Nat}
    (hSpill : p.spill x = some n) :
    Repetition.Leads
      (fun s t => ∃ text captured,
        s.Keeps x n p.groupIndices t text captured)
      p.ways := by
  induction p generalizing n with
  | empty =>
      intro s t hT
      cases List.mem_singleton.mp hT
      exact ⟨_, _, .refl _ _ s⟩
  | one test =>
      intro s t hT
      rcases passes_of_mem_one hT with ⟨c, hAccepts, hPasses⟩
      cases hSpill
      refine ⟨[c], [],
        { toPasses := hPasses
          indices := List.nil_sublist _
          count := ?_ }⟩
      by_cases hX : c = x
      · subst hX
        simp [hAccepts]
      · simp [hX]
  | anchor a =>
      intro s t hT
      cases (of_mem_anchor hT).1
      exact ⟨_, _, .refl _ _ s⟩
  | seq p q ihP ihQ =>
      rw [spill] at hSpill
      split at hSpill
      · next m k hP hQ =>
          cases hSpill
          intro s t hT
          rcases List.mem_flatMap.mp hT with ⟨u, hU, hT⟩
          rcases ihP hP s u hU with ⟨first, captured, hFirst⟩
          rcases ihQ hQ u t hT with ⟨second, later, hSecond⟩
          exact ⟨_, _, hFirst.trans hSecond⟩
      · cases hSpill
  | alt p q ihP ihQ =>
      rw [spill] at hSpill
      split at hSpill
      · next m k hP hQ =>
          cases hSpill
          intro s t hT
          rcases List.mem_append.mp hT with hFirst | hSecond
          · rcases ihP hP s t hFirst with ⟨text, captured, h⟩
            exact ⟨text, captured, h.mono (Nat.le_max_left m k)
              (List.sublist_append_left _ _)⟩
          · rcases ihQ hQ s t hSecond with ⟨text, captured, h⟩
            exact ⟨text, captured, h.mono (Nat.le_max_right m k)
              (List.sublist_append_right _ _)⟩
      · cases hSpill
  | group index p ih =>
      rw [spill] at hSpill
      split at hSpill
      · next hFlat =>
          cases hSpill
          intro s t hT
          rcases List.mem_map.mp hT with ⟨u, hU, hEq⟩
          rcases passes_of_groupIndices_eq_nil hFlat hU with
            ⟨text, hText⟩
          subst hEq
          refine ⟨_, _,
            { toPasses := hText.capture index _
              indices := by simp [groupIndices]
              count := ?_ }⟩
          simp [hText.textTo_eq]
      · cases hSpill
  | loop bounds greed p ih =>
      rw [spill] at hSpill
      split at hSpill
      · next hOptional =>
          rcases hOptional with ⟨hBounds, hGreed⟩
          subst hBounds
          subst hGreed
          intro s t hT
          rcases mem_ways_optional hT with hStay | hOnce
          · subst hStay
            exact ⟨_, _, .refl _ _ t⟩
          · exact ih hSpill s t hOnce
      · split at hSpill
        · next hBare =>
            rcases hBare with ⟨hFlat, hZero⟩
            cases hSpill
            have hRound :
                Repetition.Leads
                  (fun s t => ∃ text, s.Keeps x 0 [] t text [])
                  p.ways := by
              intro s t hT
              rcases ih hZero s t hT with
                ⟨text, captured, hText⟩
              rw [hFlat] at hText
              cases hText.captured_eq_nil
              exact ⟨text, hText⟩
            intro s t hT
            rcases leads_loop (Spot.chains_keeps_zero x) hRound
                bounds greed s t hT with
              ⟨text, hText⟩
            exact ⟨text, [], hText.mono (Nat.le_refl 0)
              (List.nil_sublist _)⟩
        · cases hSpill
  | ahead negated p ih =>
      rw [spill] at hSpill
      split at hSpill
      · next hFlat =>
          cases hSpill
          intro s t hT
          cases negated with
          | true =>
              cases (of_mem_ahead_not hT).1
              exact ⟨_, _, .refl _ _ s⟩
          | false =>
              rcases of_mem_ahead hT with ⟨u, hU, hEq⟩
              subst hEq
              rcases passes_of_groupIndices_eq_nil hFlat hU with
                ⟨text, hText⟩
              exact ⟨[], [],
                { toPasses := ⟨rfl, rfl, rfl, hText.groups⟩
                  indices := List.nil_sublist _
                  count := Nat.zero_le _ }⟩
      · cases hSpill
  | atomic p ih => cases hSpill
  | behind negated width p ih => cases hSpill
  | backref index folding => cases hSpill
  | ifGroup index present absent ihP ihA => cases hSpill

end Pattern

end GradleMigration

------------------------------------------------------------
-- Replacements that Outweigh
------------------------------------------------------------

namespace GradleMigration

/- How often a character stands in a piece of a template. -/
def TemplatePart.literalCount
    (x : Char) : TemplatePart → Nat
| .literal text => text.count x
| .group _ => 0

@[simp]
theorem TemplatePart.literalCount_literal
    (x : Char)
    (text : List Char) :
    (literal text).literalCount x = text.count x := rfl

@[simp]
theorem TemplatePart.literalCount_group
    (x : Char)
    (index : Nat) :
    (group index).literalCount x = 0 := rfl

/-
  Whether a template repeats every group of a pattern and
  holds a character more often than the pattern spills it.
-/
def Regex.outweighs
    (regex : Regex)
    (x : Char)
    (parts : List TemplatePart) : Bool :=
  match regex.pattern.spill x with
  | none => false
  | some limit =>
      decide regex.pattern.groupIndices.Nodup &&
        regex.pattern.groupIndices.all (fun index =>
          index != 0 && parts.contains (.group index)) &&
        decide (limit < (parts.map (·.literalCount x)).sum)

/-
  A replacement holds a character as often as its literals
  and the groups it refers to do together.
-/
theorem count_expand
    (x : Char)
    (hit : Hit)
    {parts : List TemplatePart}
    {indices : List Nat}
    (hNodup : indices.Nodup)
    (hParts : ∀ index ∈ indices,
      TemplatePart.group index ∈ parts) :
    (parts.map (·.literalCount x)).sum +
        (indices.map fun index =>
          (hit.group index).count x).sum ≤
      (expand parts hit).count x := by
  induction parts generalizing indices with
  | nil =>
      cases indices with
      | nil => exact Nat.zero_le _
      | cons index rest =>
          cases hParts index List.mem_cons_self
  | cons part parts ih =>
      unfold expand at ih ⊢
      rw [List.flatMap_cons, List.count_append,
        List.map_cons, List.sum_cons]
      cases part with
      | literal text =>
          have hRest := ih hNodup fun index hIndex => by
            simpa using hParts index hIndex
          simp only [TemplatePart.literalCount_literal]
          omega
      | group index =>
          -- The first reference pays for this group.
          have hRest := ih (hNodup.erase index)
            fun other hOther => by
              have hMem := hParts other
                (List.mem_of_mem_erase hOther)
              have hNe : other ≠ index := by
                intro hEq
                subst hEq
                exact hNodup.not_mem_erase hOther
              simpa [hNe] using hMem
          simp only [TemplatePart.literalCount_group]
          by_cases hMem : index ∈ indices
          · have hSum :=
              ((List.perm_cons_erase hMem).map fun index =>
                (hit.group index).count x).sum_nat
            rw [List.map_cons, List.sum_cons] at hSum
            omega
          · rw [List.erase_of_not_mem hMem] at hRest
            omega

/- In a table without repetitions every entry is found. -/
theorem lookup_of_mem_nodup
    {captured : List (Nat × List Char)}
    (hNodup : (captured.map (·.1)).Nodup)
    {index : Nat}
    {what : List Char}
    (h : (index, what) ∈ captured) :
    captured.lookup index = some what := by
  induction captured with
  | nil => cases h
  | cons entry rest ih =>
      rcases entry with ⟨first, text⟩
      rw [List.map_cons, List.nodup_cons] at hNodup
      rcases List.mem_cons.mp h with hHere | hLater
      · cases hHere
        simp
      · have hNe : index ≠ first := by
          intro hEq
          subst hEq
          exact hNodup.1 (List.mem_map.mpr ⟨_, hLater, rfl⟩)
        rw [List.lookup_cons, beq_false_of_ne hNe]
        exact ih hNodup.2 hLater

namespace Regex

variable {regex : Regex} {x : Char} {parts : List TemplatePart}

/-
  A replacement that outweighs a pattern holds the character
  more often than the hit it stands for.
-/
theorem count_lt_of_outweighs
    (hOutweighs : regex.outweighs x parts = true)
    {hit : Hit}
    (hHit : hit.OfWay regex.pattern) :
    hit.text.count x < (expand parts hit).count x := by
  unfold outweighs at hOutweighs
  split at hOutweighs
  · cases hOutweighs
  · next limit hSpill =>
      simp only [Bool.and_eq_true, decide_eq_true_eq,
        List.all_eq_true, bne_iff_ne, ne_eq,
        List.contains_iff_mem] at hOutweighs
      rcases hOutweighs with ⟨⟨hNodup, hAll⟩, hLess⟩
      rcases hHit with ⟨s, t, hT, hGroups, hEq⟩
      rcases Pattern.keeps_of_mem_ways hSpill s t hT with
        ⟨text, captured, hKeeps⟩
      have hText : hit.text = text := by
        rw [hEq, Hit.between, hKeeps.textTo_eq]
      have hCaptured : hit.groups = captured := by
        rw [hEq, Hit.between, hKeeps.groups, hGroups,
          List.append_nil]
      have hDistinct : (captured.map (·.1)).Nodup :=
        hNodup.sublist hKeeps.indices
      have hIndices :
          ∀ index ∈ captured.map (·.1),
            index ≠ 0 ∧ TemplatePart.group index ∈ parts :=
        fun index hIndex =>
          hAll index (hKeeps.indices.subset hIndex)
      have hSums :
          (captured.map fun (_, what) => what.count x) =
            (captured.map (·.1)).map fun index =>
              (hit.group index).count x := by
        rw [List.map_map]
        apply List.map_congr_left
        rintro ⟨index, what⟩ hEntry
        have hIndex :=
          (hIndices index (List.mem_map_of_mem hEntry)).1
        simp only [Function.comp, Hit.group, if_neg hIndex,
          hCaptured, lookup_of_mem_nodup hDistinct hEntry,
          Option.getD_some]
      have hExpand := count_expand x hit hDistinct
        fun index hIndex => (hIndices index hIndex).2
      have hCount := hKeeps.count
      rw [hSums] at hCount
      rw [hText]
      omega

/-
  Where every replacement holds a character more often, each
  hit adds to its count in the text.
-/
theorem count_replaceHits
    {replace : Hit → List Char}
    {text : List Char}
    (h : ∀ hit ∈ regex.hits text,
      hit.text.count x < (replace hit).count x) :
    text.count x + (regex.hits text).length ≤
      (regex.replaceHits replace text).count x := by
  have hText := regex.rejoin_segments text
  unfold hits at h ⊢
  unfold replaceHits
  generalize regex.pattern.segments text = segments at *
  rcases segments with ⟨found, tail⟩
  subst hText
  simp only [rejoin] at h ⊢
  induction found with
  | nil => exact Nat.le_refl _
  | cons entry rest ih =>
      rcases entry with ⟨gap, hit⟩
      have hHere := h hit (by simp)
      have hRest := ih fun other hOther =>
        h other (List.mem_cons_of_mem _ hOther)
      simp only [List.flatMap_cons, List.append_assoc,
        List.count_append, List.map_cons,
        List.length_cons] at hRest ⊢
      omega

end Regex

end GradleMigration

------------------------------------------------------------
-- Replacements that Diverge
------------------------------------------------------------

namespace GradleMigration

/- Two texts that differ at a place that both of them have. -/
def Diverge
    (first second : List Char) : Prop :=
  ∃ common a b u v,
    first = common ++ a :: u ∧
      second = common ++ b :: v ∧ a ≠ b

/- Nothing behind them makes diverging texts the same. -/
theorem Diverge.append_ne
    {first second : List Char}
    (h : Diverge first second)
    (tail rest : List Char) :
    first ++ tail ≠ second ++ rest := by
  rcases h with ⟨common, a, b, u, v, hFirst, hSecond, hNe⟩
  subst hFirst
  subst hSecond
  intro hEq
  rw [List.append_assoc, List.append_assoc,
    List.append_cancel_left_eq] at hEq
  injection hEq with hHead _
  exact hNe hHead

/-
  Whether a template repeats the group that a pattern starts
  with, and then has a character that cannot stand there.
-/
def Regex.diverges
    (regex : Regex)
    (parts : List TemplatePart) : Bool :=
  match regex.pattern, parts with
  | .seq (.group index _) (.seq (.one test) rest),
    .group same :: .literal (c :: _) :: _ =>
      index != 0 && same == index &&
        !rest.groupIndices.contains index &&
        !test.accepts c
  | _, _ => false

namespace Regex

variable {regex : Regex} {parts : List TemplatePart}

/- A diverging replacement differs from every hit. -/
theorem diverge_of_diverges
    (hDiverges : regex.diverges parts = true)
    {hit : Hit}
    (hHit : hit.OfWay regex.pattern) :
    Diverge (expand parts hit) hit.text := by
  unfold diverges at hDiverges
  split at hDiverges
  · next index body test rest same c literal parts hPattern =>
      simp only [Bool.and_eq_true, bne_iff_ne, ne_eq,
        beq_iff_eq, Bool.not_eq_true', List.contains_eq_mem,
        decide_eq_false_iff_not] at hDiverges
      rcases hDiverges with
        ⟨⟨⟨hIndex, hSame⟩, hFresh⟩, hRefused⟩
      subst hSame
      rcases hHit with ⟨s, t, hT, hGroups, hEq⟩
      rw [hPattern] at hT
      rcases List.mem_flatMap.mp hT with ⟨u, hU, hTail⟩
      rcases List.mem_flatMap.mp hTail with ⟨v, hV, hRest⟩
      rcases List.mem_map.mp hU with ⟨w, hW, hCapture⟩
      rcases body.passing_of_mem_ways s w hW with
        ⟨front, captured, hFront, _⟩
      subst hCapture
      rcases Pattern.passes_of_mem_one hV with
        ⟨d, hAccepts, hStep⟩
      rcases rest.passing_of_mem_ways _ t hRest with
        ⟨back, later, hBack, hLater⟩
      have hWay :=
        ((hFront.capture same (s.textTo w)).trans hStep).trans
          hBack
      have hText : hit.text = front ++ d :: back := by
        rw [hEq, Hit.between, hWay.textTo_eq]
        simp
      -- No later group hides the first one.
      have hGroup : hit.group same = front := by
        have hNone : later.lookup same = none := by
          apply List.lookup_eq_none_iff.mpr
          intro entry hEntry
          apply bne_iff_ne.mpr
          intro hIs
          subst hIs
          exact hFresh (hLater
            (List.mem_map_of_mem hEntry))
        unfold Hit.group
        rw [if_neg hIndex, hEq, Hit.between,
          hWay.groups, hFront.textTo_eq]
        simp [List.lookup_append, hNone]
      refine ⟨front, c, d, literal ++ expand parts hit,
        back, ?_, hText, ?_⟩
      · rw [← hGroup]
        simp [expand]
      · intro hIs
        subst hIs
        rw [hRefused] at hAccepts
        cases hAccepts
  · cases hDiverges

/- With a diverging replacement every hit changes the text. -/
theorem replaceHits_ne_of_diverges
    (hDiverges : regex.diverges parts = true)
    {text : List Char}
    (h : regex.hits text ≠ []) :
    regex.replaceHits (expand parts) text ≠ text := by
  have hText := regex.rejoin_segments text
  have hWay : ∀ hit ∈ regex.hits text,
      hit.OfWay regex.pattern := fun _ => ofWay_of_mem_hits
  unfold hits at h hWay
  unfold replaceHits
  generalize regex.pattern.segments text = segments at *
  rcases segments with ⟨found, tail⟩
  subst hText
  cases found with
  | nil => exact absurd rfl h
  | cons entry rest =>
      rcases entry with ⟨gap, hit⟩
      have hDiverge :=
        diverge_of_diverges hDiverges (hWay hit (by simp))
      simp only [rejoin, List.flatMap_cons, List.append_assoc]
      intro hEq
      exact hDiverge.append_ne _ _
        (List.append_cancel_left hEq)

end Regex

end GradleMigration
