import GradleMigration.Proofs.Pattern.Hits
import GradleMigration.Text.Lines

/-
  The hits of a pattern come one after the other.

  Each is found by a search that starts behind the one before
  it, until a search finds nothing: the bound on their number
  never cuts them short.  They do not overlap, and no two of
  them are at the same place.

  Main declarations:
    * `Pattern.found_of_searchFrom`
    * `Pattern.Finds`
    * `Pattern.finds_segmentsFrom`
    * `Hit.Precedes`
    * `Pattern.Finds.placed`
    * `Regex.finds_hits`
    * `Regex.placed_hits`
-/

------------------------------------------------------------
-- One Search
------------------------------------------------------------

namespace GradleMigration

namespace Pattern

/-
  Where a search has ended: behind a gap and a hit, and later
  than it started if it had to move on.
-/
structure Found
    (moving : Bool)
    (before : List Char)
    (pos : Nat)
    (after gap : List Char)
    (hit : Hit)
    (t : Spot) : Prop where
  start : hit.start = pos + gap.length
  stop : t.pos = hit.stop
  split : after = gap ++ (hit.text ++ t.after)
  behind : t.before = hit.text.reverse ++ (gap.reverse ++ before)
  moves : moving = true → pos < hit.stop

/- A run that has to move on does not end where it starts. -/
theorem pos_ne_of_runAt
    {p : Pattern}
    {s t : Spot}
    (h : p.runAt true s = some t) :
    t.pos ≠ s.pos := by
  unfold runAt at h
  rw [run_eq_findSome?_ways] at h
  rcases List.exists_of_findSome?_eq_some h with ⟨u, _, hEq⟩
  split at hEq
  · cases hEq
  · next hMoved =>
      cases hEq
      simpa using hMoved

/- A search without a gap ends where a run from here does. -/
theorem runAt_of_searchFrom
    {p : Pattern}
    {moving : Bool}
    {before after : List Char}
    {pos : Nat}
    {hit : Hit}
    {t : Spot}
    (h : p.searchFrom moving before pos after =
      some ([], hit, t)) :
    p.runAt moving ⟨before, after, pos, []⟩ = some t := by
  rcases searchFrom_cases h with
    ⟨_, hRun, _⟩ | ⟨_, _, _, _, hGap, _⟩
  · exact hRun
  · cases hGap

/- What a search that finds something has done. -/
theorem found_of_searchFrom
    {p : Pattern}
    {moving : Bool}
    {before after gap : List Char}
    {pos : Nat}
    {hit : Hit}
    {t : Spot}
    (h : p.searchFrom moving before pos after =
      some (gap, hit, t)) :
    Found moving before pos after gap hit t := by
  rcases of_searchFrom h with ⟨rest, hRest, hWay, hHit⟩
  rcases p.passing_of_mem_ways _ _ hWay with
    ⟨text, captured, hPasses, _⟩
  have hText : hit.text = text := by
    rw [hHit]
    exact hPasses.textTo_eq
  have hStart : hit.start = pos + gap.length := by
    rw [hHit]
    rfl
  have hStop : t.pos = hit.stop := by
    rw [hPasses.pos, Hit.stop, hStart, hText]
  refine
    { start := hStart
      stop := hStop
      split := ?_
      behind := ?_
      moves := ?_ }
  · rw [hRest, hText, ← hPasses.after]
  · rw [hText, hPasses.before]
  · intro hMoving
    subst hMoving
    cases gap with
    | nil =>
        have hNe := pos_ne_of_runAt (runAt_of_searchFrom h)
        have hLe : hit.start ≤ hit.stop :=
          Nat.le_add_right _ _
        simp only at hNe
        rw [List.length_nil, Nat.add_zero] at hStart
        omega
    | cons c gap =>
        have hLe : hit.start ≤ hit.stop :=
          Nat.le_add_right _ _
        rw [List.length_cons] at hStart
        omega

end Pattern

end GradleMigration

------------------------------------------------------------
-- One Search after Another
------------------------------------------------------------

namespace GradleMigration

namespace Pattern

/-
  The hits from a place on: what one search after another
  finds.  Behind an empty hit the next one has to move on.
-/
inductive Finds
    (p : Pattern) :
    Bool → List Char → Nat → List Char → List Hit → Prop
| none
    {moving : Bool}
    {before after : List Char}
    {pos : Nat}
    (h : p.searchFrom moving before pos after = none) :
    Finds p moving before pos after []
| some
    {moving : Bool}
    {before after gap : List Char}
    {pos : Nat}
    {hit : Hit}
    {t : Spot}
    {later : List Hit}
    (h : p.searchFrom moving before pos after =
      some (gap, hit, t))
    (hLater : Finds p (t.pos == hit.start) t.before t.pos
      t.after later) :
    Finds p moving before pos after (hit :: later)

/-
  Every search leaves less text, or the same text from which
  the next hit has to move on: so many units of fuel are
  enough.
-/
theorem finds_segmentsFrom
    (p : Pattern)
    {fuel : Nat}
    {moving : Bool}
    (before : List Char)
    (pos : Nat)
    {after : List Char}
    (h : 2 * after.length + (if moving then 0 else 1) < fuel) :
    p.Finds moving before pos after
      ((p.segmentsFrom fuel moving before pos after).hits.map
        (·.2)) := by
  induction fuel generalizing moving before pos after with
  | zero => cases h
  | succ fuel ih =>
      unfold segmentsFrom
      split
      · next hNone => exact .none hNone
      · next gap hit t hSome =>
          refine .some hSome (ih _ _ ?_)
          have hFound := found_of_searchFrom hSome
          have hLength := congrArg List.length hFound.split
          simp only [List.length_append] at hLength
          have hStart := hFound.start
          have hStop := hFound.stop
          have hMoves := hFound.moves
          unfold Hit.stop at hStop hMoves
          by_cases hEmpty : t.pos = hit.start
          · rw [beq_iff_eq.mpr hEmpty, if_pos rfl]
            cases moving with
            | false =>
                simp only [Bool.false_eq_true, if_false] at h
                omega
            | true =>
                have hPos := hMoves rfl
                simp only [if_true] at h
                omega
          · rw [beq_false_of_ne hEmpty]
            simp only [Bool.false_eq_true, if_false]
            split at h <;> omega

end Pattern

/-
  A hit comes before another one: it ends where that starts or
  earlier, and is not at the same place.
-/
structure Hit.Precedes
    (a b : Hit) : Prop where
  apart : a.stop ≤ b.start
  earlier : a.start < b.stop

namespace Pattern

/- Hits lie in the text and in order. -/
structure Placed
    (content : List Char)
    (hits : List Hit) : Prop where
  inside : ∀ hit ∈ hits,
    hit.text = Text.slice content hit.start hit.stop ∧
      hit.stop ≤ content.length
  ordered : hits.Pairwise Hit.Precedes

/- The hits from a place on lie behind it. -/
theorem Finds.behind
    {p : Pattern}
    {moving : Bool}
    {before after : List Char}
    {pos : Nat}
    {hits : List Hit}
    (h : p.Finds moving before pos after hits) :
    ∀ hit ∈ hits, pos ≤ hit.start ∧
      (moving = true → pos < hit.stop) := by
  induction h with
  | none h => simp
  | @some moving before after gap pos hit t later h _ ih =>
      have hFound := found_of_searchFrom h
      have hStart := hFound.start
      have hStop := hFound.stop
      have hLe : hit.start ≤ hit.stop := Nat.le_add_right _ _
      intro other hOther
      rcases List.mem_cons.mp hOther with hHere | hLater
      · subst hHere
        exact ⟨by omega, hFound.moves⟩
      · have hBehind := (ih other hLater).1
        have hOwn : other.start ≤ other.stop :=
          Nat.le_add_right _ _
        refine ⟨by omega, ?_⟩
        intro hMoving
        have hMoves := hFound.moves hMoving
        omega

/- The text of a hit is what stands at its place. -/
theorem slice_of_split
    (before gap text after : List Char)
    {content : List Char}
    (h : content = before ++ (gap ++ (text ++ after))) :
    Text.slice content (before.length + gap.length)
      (before.length + gap.length + text.length) = text := by
  unfold Text.slice
  rw [h, Nat.add_sub_cancel_left, ← List.append_assoc,
    ← List.length_append, List.drop_left, List.take_left]

/- The hits of a text lie in it, one after the other. -/
theorem Finds.placed
    {p : Pattern}
    {moving : Bool}
    {before after : List Char}
    {pos : Nat}
    {hits : List Hit}
    (h : p.Finds moving before pos after hits)
    (hPos : pos = before.length)
    {content : List Char}
    (hContent : content = before.reverse ++ after) :
    Placed content hits := by
  induction h with
  | none h => exact ⟨by simp, .nil⟩
  | @some moving before after gap pos hit t later h hLater ih =>
      have hFound := found_of_searchFrom h
      have hStart := hFound.start
      have hStop := hFound.stop
      have hWhole : content =
          before.reverse ++ (gap ++ (hit.text ++ t.after)) := by
        rw [hContent, hFound.split]
      have hRest := ih
        (by
          rw [hStop, Hit.stop, hStart, hPos, hFound.behind]
          simp only [List.length_append, List.length_reverse]
          omega)
        (by
          rw [hWhole, hFound.behind]
          simp)
      refine ⟨?_, ?_⟩
      · refine List.forall_mem_cons.mpr ⟨⟨?_, ?_⟩, hRest.inside⟩
        · have hText := slice_of_split _ _ _ _ hWhole
          rw [List.length_reverse, ← hPos, ← hStart] at hText
          exact hText.symm
        · rw [hWhole, Hit.stop, hStart, hPos]
          simp only [List.length_append, List.length_reverse]
          omega
      · refine List.pairwise_cons.mpr ⟨?_, hRest.ordered⟩
        intro other hOther
        have hBehind := hLater.behind other hOther
        have hOwn : other.start ≤ other.stop :=
          Nat.le_add_right _ _
        refine ⟨by omega, ?_⟩
        by_cases hEmpty : t.pos = hit.start
        · have hMoved :=
            hBehind.2 (beq_iff_eq.mpr hEmpty)
          omega
        · have hLe : hit.start ≤ hit.stop :=
            Nat.le_add_right _ _
          omega

end Pattern

namespace Regex

/- The hits of a pattern are all that searches find. -/
theorem finds_hits
    (regex : Regex)
    (text : List Char) :
    regex.pattern.Finds false [] 0 text (regex.hits text) := by
  apply Pattern.finds_segmentsFrom
  simp only [Bool.false_eq_true, if_false]
  omega

/- The hits of a pattern lie in the text, in order. -/
theorem placed_hits
    (regex : Regex)
    (text : List Char) :
    Pattern.Placed text (regex.hits text) :=
  (regex.finds_hits text).placed rfl rfl

end Regex

end GradleMigration
