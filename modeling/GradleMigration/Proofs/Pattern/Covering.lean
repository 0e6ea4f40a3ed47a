import GradleMigration.Proofs.Pattern.Taking

/-
  Patterns that match wherever another one does.

  Both are taken apart into alternatives, each a list of
  patterns one after another.  One covers the other if each
  alternative of the other starts with one of its own.

  Main declarations:
    * `Spot.SamePlace`
    * `Pattern.branches` and `Pattern.chain`
    * `Pattern.exists_branch` and `Pattern.of_branch`
    * `Pattern.covers`
    * `Pattern.exists_way_of_covers`
-/

------------------------------------------------------------
-- The Same Place
------------------------------------------------------------

namespace GradleMigration

/- The same place of a text, whatever has been captured. -/
structure Spot.SamePlace
    (s t : Spot) : Prop where
  before : t.before = s.before
  after : t.after = s.after
  pos : t.pos = s.pos

namespace Spot

theorem SamePlace.refl
    (s : Spot) :
    s.SamePlace s where
  before := rfl
  after := rfl
  pos := rfl

theorem SamePlace.trans
    {s t u : Spot}
    (h : s.SamePlace t)
    (k : t.SamePlace u) :
    s.SamePlace u where
  before := k.before.trans h.before
  after := k.after.trans h.after
  pos := k.pos.trans h.pos

end Spot

namespace Pattern

/- Ways do not depend on what has been captured. -/
theorem exists_samePlace
    {p : Pattern}
    (hLocal : p.isLineLocal = true)
    {s s' t : Spot}
    (hPlace : s.SamePlace s')
    (hT : t ∈ p.ways s) :
    ∃ t' ∈ p.ways s', t.SamePlace t' := by
  have hLines : Text.WholeLines [] [] :=
    ⟨Or.inl rfl, Or.inl rfl⟩
  have hWithin : s.Within [] [] s' :=
    { before := by simp [hPlace.before]
      after := by simp [hPlace.after]
      pos := hPlace.pos }
  rcases ways_within hLines hLocal s s' t hWithin hT with
    ⟨t', hT', hSame⟩
  exact ⟨t', hT',
    { before := by simpa using hSame.before
      after := by simpa using hSame.after
      pos := hSame.pos }⟩

/- Ways from one spot with the same text ahead end together. -/
theorem samePlace_of_after
    {p q : Pattern}
    {s t u : Spot}
    (hT : t ∈ p.ways s)
    (hU : u ∈ q.ways s)
    (hAfter : u.after = t.after) :
    t.SamePlace u := by
  rcases p.passing_of_mem_ways s t hT with ⟨x, _, hX, _⟩
  rcases q.passing_of_mem_ways s u hU with ⟨y, _, hY, _⟩
  have hSame : y = x := by
    have hBoth := hX.after
    rw [hY.after, hAfter] at hBoth
    exact List.append_cancel_right hBoth
  subst hSame
  exact
    { before := hY.before.trans hX.before.symm
      after := hAfter
      pos := hY.pos.trans hX.pos.symm }

end Pattern

end GradleMigration

------------------------------------------------------------
-- Alternatives
------------------------------------------------------------

namespace GradleMigration

namespace Pattern

/- The alternatives of a pattern, without its groups. -/
def branches : Pattern → List (List Pattern)
| .empty => [[]]
| .seq p q =>
    (branches p).flatMap fun first =>
      (branches q).map (first ++ ·)
| .alt p q => branches p ++ branches q
| .group _ p => branches p
| p => [[p]]

/- The ways through patterns one after another. -/
def chain : List Pattern → Spot → List Spot
| [], s => [s]
| p :: ps, s => (p.ways s).flatMap (chain ps)

theorem chain_append
    (ps qs : List Pattern)
    (s : Spot) :
    chain (ps ++ qs) s = (chain ps s).flatMap (chain qs) := by
  induction ps generalizing s with
  | nil => simp [chain]
  | cons p ps ih =>
      rw [List.cons_append, chain, chain, List.flatMap_assoc]
      exact congrArg (p.ways s).flatMap (funext ih)

theorem mem_chain_singleton
    {p : Pattern}
    {s t : Spot} :
    t ∈ chain [p] s ↔ t ∈ p.ways s := by
  simp [chain]

/- Every way is one of an alternative. -/
theorem exists_branch
    {p : Pattern}
    (hLocal : p.isLineLocal = true)
    {s t : Spot}
    (hT : t ∈ p.ways s) :
    ∃ b ∈ p.branches, ∃ t' ∈ chain b s, t.SamePlace t' := by
  induction p generalizing s t with
  | empty => exact ⟨[], by simp [branches], t, hT, .refl t⟩
  | seq p q ihP ihQ =>
      rcases Bool.and_eq_true_iff.mp hLocal with ⟨hP, hQ⟩
      rcases List.mem_flatMap.mp hT with ⟨u, hU, hT⟩
      rcases ihP hP hU with ⟨first, hFirst, v, hV, hPlace⟩
      rcases exists_samePlace hQ hPlace hT with
        ⟨t₁, hT₁, hSame⟩
      rcases ihQ hQ hT₁ with
        ⟨second, hSecond, t₂, hT₂, hAgain⟩
      refine ⟨first ++ second, ?_, t₂, ?_, hSame.trans hAgain⟩
      · exact List.mem_flatMap.mpr
          ⟨first, hFirst, List.mem_map_of_mem hSecond⟩
      · rw [chain_append]
        exact List.mem_flatMap.mpr ⟨v, hV, hT₂⟩
  | alt p q ihP ihQ =>
      rcases Bool.and_eq_true_iff.mp hLocal with ⟨hP, hQ⟩
      rcases List.mem_append.mp hT with hFirst | hSecond
      · rcases ihP hP hFirst with ⟨b, hB, hRest⟩
        exact ⟨b, List.mem_append_left _ hB, hRest⟩
      · rcases ihQ hQ hSecond with ⟨b, hB, hRest⟩
        exact ⟨b, List.mem_append_right _ hB, hRest⟩
  | group index p ih =>
      rcases List.mem_map.mp hT with ⟨u, hU, hEq⟩
      subst hEq
      rcases ih hLocal hU with ⟨b, hB, t', hT', hPlace⟩
      exact ⟨b, hB, t', hT',
        ⟨hPlace.before, hPlace.after, hPlace.pos⟩⟩
  | _ =>
      exact ⟨_, List.mem_singleton.mpr rfl, t,
        mem_chain_singleton.mpr hT, .refl t⟩

/- Every way of an alternative is one of the pattern. -/
theorem of_branch
    {p : Pattern}
    (hLocal : p.isLineLocal = true)
    {b : List Pattern}
    (hB : b ∈ p.branches)
    {s t : Spot}
    (hT : t ∈ chain b s) :
    ∃ t' ∈ p.ways s, t.SamePlace t' := by
  induction p generalizing b s t with
  | empty =>
      cases List.mem_singleton.mp hB
      exact ⟨t, hT, .refl t⟩
  | seq p q ihP ihQ =>
      rcases Bool.and_eq_true_iff.mp hLocal with ⟨hP, hQ⟩
      rcases List.mem_flatMap.mp hB with ⟨first, hFirst, hB⟩
      rcases List.mem_map.mp hB with ⟨second, hSecond, hEq⟩
      subst hEq
      rw [chain_append] at hT
      rcases List.mem_flatMap.mp hT with ⟨u, hU, hT⟩
      rcases ihP hP hFirst hU with ⟨v, hV, hPlace⟩
      rcases ihQ hQ hSecond hT with ⟨t₁, hT₁, hSame⟩
      rcases exists_samePlace hQ hPlace hT₁ with
        ⟨t₂, hT₂, hAgain⟩
      exact ⟨t₂, List.mem_flatMap.mpr ⟨v, hV, hT₂⟩,
        hSame.trans hAgain⟩
  | alt p q ihP ihQ =>
      rcases Bool.and_eq_true_iff.mp hLocal with ⟨hP, hQ⟩
      rcases List.mem_append.mp hB with hFirst | hSecond
      · rcases ihP hP hFirst hT with ⟨t', hT', hPlace⟩
        exact ⟨t', List.mem_append_left _ hT', hPlace⟩
      · rcases ihQ hQ hSecond hT with ⟨t', hT', hPlace⟩
        exact ⟨t', List.mem_append_right _ hT', hPlace⟩
  | group index p ih =>
      rcases ih hLocal hB hT with ⟨t', hT', hPlace⟩
      exact ⟨_, List.mem_map.mpr ⟨t', hT', rfl⟩,
        ⟨hPlace.before, hPlace.after, hPlace.pos⟩⟩
  | _ =>
      cases List.mem_singleton.mp hB
      exact ⟨t, mem_chain_singleton.mp hT, .refl t⟩

end Pattern

end GradleMigration

------------------------------------------------------------
-- Covering
------------------------------------------------------------

namespace GradleMigration

/-
  Whether it can be seen that a test accepts only what another
  one accepts: it leaves out more, or lists the characters.
-/
def CharTest.implies
    (a b : CharTest) : Bool :=
  if a = b then
    true
  else if a.negated then
    b.negated && a.folding = b.folding &&
      b.items.all (a.items.contains ·)
  else
    a.folding = .exact && a.items.all fun item =>
      match item with
      | .char c => b.accepts c
      | _ => false

theorem CharTest.accepts_of_implies
    {a b : CharTest}
    (h : a.implies b = true)
    {c : Char}
    (hC : a.accepts c = true) :
    b.accepts c = true := by
  unfold implies at h
  split at h
  · next hEq => exact hEq ▸ hC
  · split at h
    · next hNegated =>
        simp only [Bool.and_eq_true, decide_eq_true_eq,
          List.all_eq_true, List.contains_iff_mem] at h
        rcases h with ⟨⟨hOther, hFolding⟩, hItems⟩
        -- What the second leaves out, the first leaves out.
        have hNone : a.items.any (·.accepts a.folding c) =
            false := by
          simpa [accepts, hNegated] using hC
        have hRest : b.items.any (·.accepts b.folding c) =
            false := by
          rw [List.any_eq_false] at hNone ⊢
          intro item hItem
          rw [← hFolding]
          exact hNone item (hItems item hItem)
        simp [accepts, hOther, hRest]
    · next hNegated =>
        rw [Bool.and_eq_true, List.all_eq_true,
          decide_eq_true_eq] at h
        rcases h with ⟨hFolding, hItems⟩
        have hSome : a.items.any (·.accepts a.folding c) =
            true := by
          simpa [accepts, hNegated] using hC
        rcases List.any_eq_true.mp hSome with
          ⟨item, hItem, hAccepts⟩
        have hB := hItems item hItem
        split at hB
        · next d =>
            rw [hFolding] at hAccepts
            have hEq : c = d := by
              simpa [SetItem.accepts, Folding.same]
                using hAccepts
            rw [hEq]
            exact hB
        · cases hB

namespace Pattern

/-
  Whether a pattern is another one, or a stretch of characters
  that the other one accepts as well.
-/
def isWithin : Pattern → Pattern → Bool
| .loop ⟨0, none⟩ .greedy (.one a),
    .loop ⟨0, none⟩ .greedy (.one b) => a.implies b
| p, q => p = q

theorem exists_way_of_isWithin
    {p q : Pattern}
    (h : p.isWithin q = true)
    {s t : Spot}
    (hT : t ∈ p.ways s) :
    ∃ t' ∈ q.ways s, t.SamePlace t' := by
  unfold isWithin at h
  split at h
  · next a b =>
      rcases passes_of_mem_repeated hT with
        ⟨text, hText, hPasses⟩
      have hTakes :
          (Pattern.loop ⟨0, none⟩ .greedy (.one b)).Takes
            text := by
        apply takes_repeated
        · intro c hC
          exact CharTest.accepts_of_implies h
            (List.all_eq_true.mp hText c hC)
        · exact Nat.zero_le _
      rcases hTakes s t.after hPasses.after with
        ⟨u, hU, hAfter⟩
      exact ⟨u, hU, samePlace_of_after hT hU hAfter⟩
  · have hEq : p = q := of_decide_eq_true h
    subst hEq
    exact ⟨t, hT, .refl t⟩

/- Whether patterns open with given ones, each within its own. -/
def opensWith : List Pattern → List Pattern → Bool
| [], _ => true
| d :: ds, p :: ps =>
    d.isLineLocal && p.isWithin d && opensWith ds ps
| _ :: _, [] => false

theorem exists_way_of_opensWith
    {ds ps : List Pattern}
    (h : opensWith ds ps = true)
    {s s' t : Spot}
    (hPlace : s.SamePlace s')
    (hT : t ∈ chain ps s) :
    ∃ u, u ∈ chain ds s' := by
  induction ds generalizing ps s s' with
  | nil => exact ⟨s', List.mem_singleton.mpr rfl⟩
  | cons d ds ih =>
      cases ps with
      | nil => cases h
      | cons p ps =>
          simp only [opensWith, Bool.and_eq_true] at h
          rcases h with ⟨⟨hLocal, hWithin⟩, hRest⟩
          rcases List.mem_flatMap.mp hT with ⟨u, hU, hT⟩
          rcases exists_way_of_isWithin hWithin hU with
            ⟨u₁, hU₁, hSame⟩
          rcases exists_samePlace hLocal hPlace hU₁ with
            ⟨u₂, hU₂, hAgain⟩
          rcases ih hRest (hSame.trans hAgain) hT with
            ⟨v, hV⟩
          exact ⟨v, List.mem_flatMap.mpr ⟨u₂, hU₂, hV⟩⟩

/- Whether it can be seen that a pattern covers another one. -/
def covers
    (d p : Pattern) : Bool :=
  d.isLineLocal && p.isLineLocal &&
    p.branches.all fun ps => d.branches.any fun ds =>
      opensWith ds ps

theorem isLineLocal_of_covers
    {d p : Pattern}
    (h : d.covers p = true) :
    p.isLineLocal = true := by
  simp only [covers, Bool.and_eq_true] at h
  exact h.1.2

/- A pattern that covers another one matches where that does. -/
theorem exists_way_of_covers
    {d p : Pattern}
    (h : d.covers p = true)
    {s t : Spot}
    (hT : t ∈ p.ways s) :
    ∃ u, u ∈ d.ways s := by
  simp only [covers, Bool.and_eq_true, List.all_eq_true,
    List.any_eq_true] at h
  rcases h with ⟨⟨hD, hP⟩, hBranches⟩
  rcases exists_branch hP hT with ⟨ps, hPs, t', hT', _⟩
  rcases hBranches ps hPs with ⟨ds, hDs, hOpens⟩
  rcases exists_way_of_opensWith hOpens (.refl s) hT' with
    ⟨u, hU⟩
  rcases of_branch hD hDs hU with ⟨v, hV, _⟩
  exact ⟨v, hV⟩

end Pattern

end GradleMigration
