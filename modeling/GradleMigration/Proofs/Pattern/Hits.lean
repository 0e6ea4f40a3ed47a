import GradleMigration.Pattern.Template
import GradleMigration.Proofs.Pattern.Ways

/-
  The hits of a pattern in a text: each is a way of the
  pattern, and together with the text between them they are
  the whole text.

  Main declarations:
    * `Spot.at`
    * `Hit.OfWay`
    * `Pattern.of_searchFrom`
    * `Pattern.searchFrom_eq_none_iff`
    * `Pattern.rejoin_segmentsFrom`
    * `Regex.ofWay_of_mem_hits`
    * `Regex.hits_eq_nil_iff`
    * `Regex.replaceHits_of_hits_eq_nil`
-/

------------------------------------------------------------
-- Searching
------------------------------------------------------------

namespace GradleMigration

/- The place in a text behind a part of it. -/
def Spot.at
    (front rest : List Char) : Spot :=
  ⟨front.reverse, rest, front.length, []⟩

/- A hit that a way of a pattern from some place makes. -/
def Hit.OfWay
    (p : Pattern)
    (hit : Hit) : Prop :=
  ∃ s, ∃ t ∈ p.ways s,
    s.groups = [] ∧ hit = .between s t

namespace Pattern

/- A run at a place ends in one of the ways from there. -/
theorem mem_ways_of_runAt
    {p : Pattern}
    {moving : Bool}
    {s t : Spot}
    (h : p.runAt moving s = some t) :
    t ∈ p.ways s := by
  unfold runAt at h
  rw [run_eq_findSome?_ways] at h
  rcases List.exists_of_findSome?_eq_some h with
    ⟨u, hU, hEq⟩
  split at hEq
  · cases hEq
  · cases hEq
    exact hU

/- A run that need not move fails where there is no way. -/
theorem runAt_false_eq_none_iff
    {p : Pattern}
    {s : Spot} :
    p.runAt false s = none ↔ p.ways s = [] := by
  unfold runAt
  rw [run_eq_findSome?_ways]
  simp [List.findSome?_eq_none_iff, List.eq_nil_iff_forall_not_mem]

/- A search finds something here, or behind a character. -/
theorem searchFrom_cases
    {p : Pattern}
    {moving : Bool}
    {before after gap : List Char}
    {pos : Nat}
    {hit : Hit}
    {t : Spot}
    (h : p.searchFrom moving before pos after =
      some (gap, hit, t)) :
    (gap = [] ∧
      p.runAt moving ⟨before, after, pos, []⟩ = some t ∧
        hit = .between ⟨before, after, pos, []⟩ t) ∨
      ∃ c rest later, after = c :: rest ∧ gap = c :: later ∧
        p.runAt moving ⟨before, after, pos, []⟩ = none ∧
          p.searchFrom false (c :: before) (pos + 1) rest =
            some (later, hit, t) := by
  cases after with
  | nil =>
      unfold searchFrom at h
      simp only at h
      split at h
      · next u hU =>
          cases h
          exact Or.inl ⟨rfl, hU, rfl⟩
      · cases h
  | cons c rest =>
      unfold searchFrom at h
      simp only at h
      split at h
      · next u hU =>
          cases h
          exact Or.inl ⟨rfl, hU, rfl⟩
      · next hNone =>
          split at h
          · cases h
          · next later other u hLater =>
              cases h
              exact Or.inr
                ⟨c, rest, later, rfl, rfl, hNone, hLater⟩

/-
  What a search finds: a way of the pattern that starts
  behind the characters passed over.
-/
theorem of_searchFrom
    {p : Pattern}
    {moving : Bool}
    {before after gap : List Char}
    {pos : Nat}
    {hit : Hit}
    {t : Spot}
    (h : p.searchFrom moving before pos after =
      some (gap, hit, t)) :
    ∃ rest, after = gap ++ rest ∧
      t ∈ p.ways
        ⟨gap.reverse ++ before, rest, pos + gap.length, []⟩ ∧
      hit = .between
        ⟨gap.reverse ++ before, rest, pos + gap.length, []⟩
        t := by
  induction gap generalizing moving before pos after with
  | nil =>
      rcases searchFrom_cases h with
        ⟨_, hRun, hHit⟩ | ⟨_, _, _, _, hGap, _⟩
      · exact ⟨after, rfl, mem_ways_of_runAt hRun, hHit⟩
      · cases hGap
  | cons d gap ih =>
      rcases searchFrom_cases h with
        ⟨hGap, _⟩ | ⟨c, rest, later, hAfter, hGap, _, hLater⟩
      · cases hGap
      · cases hGap
        subst hAfter
        rcases ih hLater with ⟨tail, hTail, hWay, hHit⟩
        refine ⟨tail, by rw [hTail]; rfl, ?_, ?_⟩
        · simpa [Nat.add_assoc, Nat.add_comm 1] using hWay
        · simpa [Nat.add_assoc, Nat.add_comm 1] using hHit

/- A search fails where no place behind has a way. -/
theorem searchFrom_eq_none_iff
    {p : Pattern}
    {before after : List Char}
    {pos : Nat} :
    p.searchFrom false before pos after = none ↔
      ∀ gap rest, after = gap ++ rest →
        p.ways ⟨gap.reverse ++ before, rest,
          pos + gap.length, []⟩ = [] := by
  induction after generalizing before pos with
  | nil =>
      unfold searchFrom
      simp only
      constructor
      · intro h gap rest hSplit
        obtain ⟨rfl, rfl⟩ := List.append_eq_nil_iff.mp hSplit.symm
        apply runAt_false_eq_none_iff.mp
        split at h
        · cases h
        · next hNone => exact hNone
      · intro h
        have hHere := runAt_false_eq_none_iff.mpr (h [] [] rfl)
        simp only [List.reverse_nil, List.nil_append,
          List.length_nil, Nat.add_zero] at hHere
        rw [hHere]
  | cons c rest ih =>
      unfold searchFrom
      simp only
      constructor
      · intro h gap tail hSplit
        split at h
        · cases h
        · next hNone =>
            split at h
            · next hLater =>
                cases gap with
                | nil =>
                    cases hSplit
                    exact runAt_false_eq_none_iff.mp hNone
                | cons d gap =>
                    cases hSplit
                    have hWays := ih.mp hLater gap tail rfl
                    simpa [Nat.add_assoc, Nat.add_comm 1]
                      using hWays
            · cases h
      · intro h
        have hHere := runAt_false_eq_none_iff.mpr
          (h [] (c :: rest) rfl)
        simp only [List.reverse_nil, List.nil_append,
          List.length_nil, Nat.add_zero] at hHere
        have hLater :
            p.searchFrom false (c :: before) (pos + 1) rest =
              none := by
          apply ih.mpr
          intro gap tail hSplit
          have hWays := h (c :: gap) tail (by rw [hSplit]; rfl)
          simpa [Nat.add_assoc, Nat.add_comm 1] using hWays
        rw [hHere, hLater]

end Pattern

end GradleMigration

------------------------------------------------------------
-- Segments
------------------------------------------------------------

namespace GradleMigration

namespace Pattern

/- The text of a hit is what its way passes over. -/
theorem text_between
    {p : Pattern}
    {s t : Spot}
    (h : t ∈ p.ways s) :
    s.after = (Hit.between s t).text ++ t.after := by
  rcases p.passing_of_mem_ways s t h with
    ⟨text, captured, hText, _⟩
  rw [hText.after, Hit.between, hText.textTo_eq]

/- Putting the hits of a text back gives the text. -/
theorem rejoin_segmentsFrom
    (p : Pattern)
    (fuel : Nat)
    (moving : Bool)
    (before : List Char)
    (pos : Nat)
    (after : List Char) :
    Regex.rejoin Hit.text
      (p.segmentsFrom fuel moving before pos after) = after := by
  induction fuel generalizing moving before pos after with
  | zero => rfl
  | succ fuel ih =>
      unfold segmentsFrom
      split
      · rfl
      · next gap hit t hSearch =>
          rcases of_searchFrom hSearch with
            ⟨rest, hRest, hWay, hHit⟩
          have hText := text_between hWay
          have hTail := ih (t.pos == hit.start)
            t.before t.pos t.after
          simp only [Regex.rejoin, List.flatMap_cons,
            List.append_assoc] at hTail ⊢
          rw [hTail, hRest, hHit]
          exact congrArg (gap ++ ·) hText.symm

/- Every hit of a text is a way of the pattern. -/
theorem ofWay_of_mem_segmentsFrom
    {p : Pattern}
    {fuel : Nat}
    {moving : Bool}
    {before after gap : List Char}
    {pos : Nat}
    {hit : Hit}
    (h : (gap, hit) ∈
      (p.segmentsFrom fuel moving before pos after).hits) :
    hit.OfWay p := by
  induction fuel generalizing moving before pos after with
  | zero => cases h
  | succ fuel ih =>
      unfold segmentsFrom at h
      split at h
      · cases h
      · next firstGap first t hSearch =>
          rcases List.mem_cons.mp h with hHere | hLater
          · cases hHere
            rcases of_searchFrom hSearch with
              ⟨rest, _, hWay, hHit⟩
            exact ⟨_, t, hWay, rfl, hHit⟩
          · exact ih hLater

end Pattern

namespace Regex

/- Every hit of a pattern is one of its ways. -/
theorem ofWay_of_mem_hits
    {regex : Regex}
    {text : List Char}
    {hit : Hit}
    (h : hit ∈ regex.hits text) :
    hit.OfWay regex.pattern := by
  rcases List.mem_map.mp h with ⟨⟨gap, found⟩, hMem, hEq⟩
  subst hEq
  exact Pattern.ofWay_of_mem_segmentsFrom hMem

/- Putting the hits of a text back gives the text. -/
theorem rejoin_segments
    (regex : Regex)
    (text : List Char) :
    rejoin Hit.text (regex.pattern.segments text) = text :=
  Pattern.rejoin_segmentsFrom _ _ _ _ _ _

/-
  A pattern has no hit in a text exactly when it has no way
  from any place of the text.
-/
theorem hits_eq_nil_iff
    {regex : Regex}
    {text : List Char} :
    regex.hits text = [] ↔
      ∀ front rest, text = front ++ rest →
        regex.pattern.ways (.at front rest) = [] := by
  have hSearch :
      regex.hits text = [] ↔
        regex.pattern.searchFrom false [] 0 text = none := by
    unfold hits Pattern.segments Pattern.segmentsFrom
    split
    · next hNone => simp [hNone]
    · next hSome => simp [hSome]
  rw [hSearch, Pattern.searchFrom_eq_none_iff]
  simp only [List.append_nil, Nat.zero_add, Spot.at]

/- Without a hit nothing is replaced. -/
theorem replaceHits_of_hits_eq_nil
    {regex : Regex}
    {text : List Char}
    (h : regex.hits text = [])
    (replace : Hit → List Char) :
    regex.replaceHits replace text = text := by
  have hHits : (regex.pattern.segments text).hits = [] :=
    List.map_eq_nil_iff.mp h
  have hText := regex.rejoin_segments text
  unfold replaceHits
  simp only [rejoin, hHits, List.flatMap_nil,
    List.nil_append] at hText ⊢
  exact hText

end Regex

end GradleMigration
