import GradleMigration.Proofs.Pattern.Succession

/-
  Replacing the hits of a pattern in one walk over the text.

  A pattern that has to move on has no empty hits.  Its hits
  are then replaced from left to right: where it has a way,
  the preferred one is replaced and passed over, and elsewhere
  a character is kept.

  Main declarations:
    * `Pattern.isMoving`
    * `Pattern.pos_lt_of_mem_ways`
    * `Pattern.rewriteFrom`
    * `Pattern.rewriteFrom_of_head?`
    * `Pattern.rewriteFrom_of_ways_eq_nil`
    * `Pattern.rewriteFrom_cases`
    * `Regex.replaceHits_eq_rewrite`
-/

------------------------------------------------------------
-- Patterns That Move On
------------------------------------------------------------

namespace GradleMigration

namespace Pattern

/- Whether a pattern takes a character in any case. -/
def isMoving : Pattern → Bool
| .one _ => true
| .seq p q => p.isMoving || q.isMoving
| .alt p q => p.isMoving && q.isMoving
| .group _ p => p.isMoving
| .loop bounds .greedy p => 0 < bounds.least && p.isMoving
| .loop bounds .lazy p => 0 < bounds.least && p.isMoving
| _ => false

/- No way leads back. -/
theorem pos_le_of_mem_ways
    {p : Pattern} :
    Repetition.Leads (fun s t => s.pos ≤ t.pos) p.ways := by
  intro s t hT
  rcases p.passing_of_mem_ways s t hT with
    ⟨text, captured, hText, _⟩
  rw [hText.pos]
  exact Nat.le_add_right _ _

theorem chains_pos_le :
    Repetition.Chains fun s t => s.pos ≤ t.pos where
  refl _ := Nat.le_refl _
  trans h k := Nat.le_trans h k

/- A round that is required moves on if its body does. -/
theorem pos_lt_of_requiredWays
    {ways : Spot → List Spot}
    (hLe : Repetition.Leads (fun s t => s.pos ≤ t.pos) ways)
    (hLt : ∀ s, ∀ t ∈ ways s, s.pos < t.pos)
    {n : Nat}
    (hPos : 0 < n)
    {s t : Spot}
    (h : t ∈ Repetition.requiredWays ways n s) :
    s.pos < t.pos := by
  cases n with
  | zero => cases hPos
  | succ n =>
      rcases List.mem_flatMap.mp h with ⟨u, hU, hT⟩
      have hFirst := hLt s u hU
      have hRest := Repetition.leads_requiredWays chains_pos_le
        hLe n u t hT
      exact Nat.lt_of_lt_of_le hFirst hRest

/- Every way of such a pattern moves on. -/
theorem pos_lt_of_mem_ways
    {p : Pattern}
    (h : p.isMoving = true)
    {s t : Spot}
    (hT : t ∈ p.ways s) :
    s.pos < t.pos := by
  induction p generalizing s t with
  | one test =>
      rcases of_mem_one hT with ⟨c, rest, _, _, hEq⟩
      subst hEq
      exact Nat.lt_succ_self _
  | seq p q ihP ihQ =>
      rcases List.mem_flatMap.mp hT with ⟨u, hU, hT⟩
      rcases Bool.or_eq_true_iff.mp h with hP | hQ
      · exact Nat.lt_of_lt_of_le (ihP hP hU)
          (pos_le_of_mem_ways u t hT)
      · exact Nat.lt_of_le_of_lt (pos_le_of_mem_ways s u hU)
          (ihQ hQ hT)
  | alt p q ihP ihQ =>
      rcases Bool.and_eq_true_iff.mp h with ⟨hP, hQ⟩
      rcases List.mem_append.mp hT with hFirst | hSecond
      · exact ihP hP hFirst
      · exact ihQ hQ hSecond
  | group index p ih =>
      rcases List.mem_map.mp hT with ⟨u, hU, hEq⟩
      subst hEq
      change s.pos < u.pos
      exact ih h hU
  | loop bounds greed p ih =>
      have hGreedy
          (hLoop : (0 < bounds.least && p.isMoving) = true)
          (hT : t ∈ (Pattern.loop bounds .greedy p).ways s) :
          s.pos < t.pos := by
        rcases Bool.and_eq_true_iff.mp hLoop with ⟨hLeast, hP⟩
        rcases List.mem_flatMap.mp hT with ⟨u, hU, hT⟩
        have hRounds := pos_lt_of_requiredWays
          pos_le_of_mem_ways (fun _ _ => ih hP)
          (of_decide_eq_true hLeast) hU
        exact Nat.lt_of_lt_of_le hRounds
          (Repetition.leads_greedyWays chains_pos_le
            pos_le_of_mem_ways _ _ _ u t hT)
      cases greed with
      | greedy => exact hGreedy h hT
      | lazy => exact hGreedy h (mem_ways_lazy.mp hT)
      | possessive => cases h
  | _ => cases h

/- There is no way on at the end of a text. -/
theorem ways_of_after_eq_nil
    {p : Pattern}
    (h : p.isMoving = true)
    {s : Spot}
    (hAfter : s.after = []) :
    p.ways s = [] := by
  apply List.eq_nil_iff_forall_not_mem.mpr
  intro t hT
  have hMoves := pos_lt_of_mem_ways h hT
  rcases p.passing_of_mem_ways s t hT with
    ⟨text, captured, hText, _⟩
  have hNil := hText.after
  rw [hAfter] at hNil
  rw [hText.pos, (List.append_eq_nil_iff.mp hNil.symm).1]
    at hMoves
  exact Nat.lt_irrefl _ hMoves

end Pattern

end GradleMigration

------------------------------------------------------------
-- Walks
------------------------------------------------------------

namespace GradleMigration

namespace Pattern

/- The place behind the characters `before`, nearest first. -/
def spotAt
    (before after : List Char) : Spot :=
  ⟨before, after, before.length, []⟩

/-
  Replace hits from a place on.  The first `skip` characters
  belong to a hit that has been replaced.
-/
def rewriteFrom
    (p : Pattern)
    (replace : Hit → List Char) :
    (skip : Nat) →
    (before : List Char) →
    List Char → List Char
| _, _, [] => []
| skip + 1, before, c :: rest =>
    rewriteFrom p replace skip (c :: before) rest
| 0, before, c :: rest =>
    match (p.ways (spotAt before (c :: rest))).head? with
    | none => c :: rewriteFrom p replace 0 (c :: before) rest
    | some t =>
        replace (.between (spotAt before (c :: rest)) t) ++
          rewriteFrom p replace (t.pos - before.length - 1)
            (c :: before) rest

/- Replace all hits in a text. -/
def rewrite
    (p : Pattern)
    (replace : Hit → List Char)
    (text : List Char) : List Char :=
  p.rewriteFrom replace 0 [] text

variable {p : Pattern} {replace : Hit → List Char}

/- The rest of a hit is skipped. -/
theorem rewriteFrom_skip
    (passed before rest : List Char) :
    p.rewriteFrom replace passed.length before
        (passed ++ rest) =
      p.rewriteFrom replace 0 (passed.reverse ++ before)
        rest := by
  induction passed generalizing before with
  | nil => rfl
  | cons c more ih =>
      rw [List.length_cons, List.cons_append, rewriteFrom, ih,
        List.reverse_cons, List.append_assoc]
      rfl

/- The walk goes on where a way has ended. -/
theorem rewriteFrom_behind
    (hMoving : p.isMoving = true)
    {c : Char}
    {before rest : List Char}
    {t : Spot}
    (hT : t ∈ p.ways (spotAt before (c :: rest))) :
    p.rewriteFrom replace (t.pos - before.length - 1)
        (c :: before) rest =
      p.rewriteFrom replace 0 t.before t.after := by
  have hMoves := pos_lt_of_mem_ways hMoving hT
  rcases p.passing_of_mem_ways _ _ hT with
    ⟨text, captured, hText, _⟩
  have hAfter : c :: rest = text ++ t.after := hText.after
  have hPos : t.pos = before.length + text.length := hText.pos
  have hBefore : t.before = text.reverse ++ before :=
    hText.before
  cases text with
  | nil => exact absurd hMoves (by simp [hPos, spotAt])
  | cons d passed =>
      rw [List.cons_append, List.cons.injEq] at hAfter
      rcases hAfter with ⟨hD, hRest⟩
      subst hD
      have hSkip :
          t.pos - before.length - 1 = passed.length := by
        rw [hPos, List.length_cons]
        omega
      rw [hSkip, hRest, rewriteFrom_skip, hBefore,
        List.reverse_cons, List.append_assoc]
      rfl

/- The walk replaces a hit and goes on behind it. -/
theorem rewriteFrom_of_head?
    (hMoving : p.isMoving = true)
    {before text : List Char}
    {t : Spot}
    (h : (p.ways (spotAt before text)).head? = some t) :
    p.rewriteFrom replace 0 before text =
      replace (.between (spotAt before text) t) ++
        p.rewriteFrom replace 0 t.before t.after := by
  cases text with
  | nil =>
      rw [ways_of_after_eq_nil hMoving rfl] at h
      cases h
  | cons c rest =>
      rw [rewriteFrom]
      simp only [h]
      rw [rewriteFrom_behind hMoving (List.mem_of_head? h)]

/- The walk keeps the characters from which it has no way. -/
theorem rewriteFrom_of_ways_eq_nil
    {before kept rest : List Char}
    (h : ∀ passed left, kept = passed ++ left → left ≠ [] →
      p.ways (spotAt (passed.reverse ++ before)
        (left ++ rest)) = []) :
    p.rewriteFrom replace 0 before (kept ++ rest) =
      kept ++
        p.rewriteFrom replace 0 (kept.reverse ++ before)
          rest := by
  induction kept generalizing before with
  | nil => rfl
  | cons c more ih =>
      have hHere := h [] (c :: more) rfl (List.cons_ne_nil _ _)
      rw [List.reverse_nil, List.nil_append, List.cons_append]
        at hHere
      rw [List.cons_append, rewriteFrom]
      simp only [hHere, List.head?_nil]
      rw [ih]
      · simp
      · intro passed left hMore hLeft
        have hThere := h (c :: passed) left
          (congrArg (c :: ·) hMore) hLeft
        rw [List.reverse_cons, List.append_assoc] at hThere
        exact hThere

/- A run that need not move takes the preferred way. -/
theorem runAt_false_eq_head?
    (p : Pattern)
    (s : Spot) :
    p.runAt false s = (p.ways s).head? := by
  unfold runAt
  rw [run_eq_findSome?_ways, ← findSome?_some_eq_head?]
  simp

/- Where no place has a way, the text is kept. -/
theorem rewriteFrom_of_searchFrom_eq_none
    {before after : List Char}
    (h : p.searchFrom false before before.length after =
      none) :
    p.rewriteFrom replace 0 before after = after := by
  induction after generalizing before with
  | nil => rfl
  | cons c rest ih =>
      unfold searchFrom at h
      simp only at h
      split at h
      · cases h
      · next hNone =>
          split at h
          · next hLater =>
              rw [runAt_false_eq_head?] at hNone
              rw [rewriteFrom]
              simp only [spotAt, hNone]
              rw [ih hLater]
          · cases h

/-
  Where a search finds a hit, it is replaced, and the walk
  goes on behind it.
-/
theorem rewriteFrom_of_searchFrom
    (hMoving : p.isMoving = true)
    {before after gap : List Char}
    {hit : Hit}
    {t : Spot}
    (h : p.searchFrom false before before.length after =
      some (gap, hit, t)) :
    p.rewriteFrom replace 0 before after =
      gap ++ (replace hit ++
        p.rewriteFrom replace 0 t.before t.after) := by
  induction after generalizing before gap with
  | nil =>
      rcases searchFrom_cases h with
        ⟨_, hRun, _⟩ | ⟨_, _, _, hNil, _⟩
      · have hNone : p.ways ⟨before, [], before.length, []⟩ =
            [] :=
          ways_of_after_eq_nil hMoving rfl
        rw [runAt_false_eq_head?, hNone] at hRun
        cases hRun
      · cases hNil
  | cons c rest ih =>
      rcases searchFrom_cases h with
        ⟨hGap, hRun, hHit⟩ |
          ⟨d, others, later, hAfter, hGap, hNone, hLater⟩
      · rw [runAt_false_eq_head?] at hRun
        rw [hGap, hHit, rewriteFrom]
        simp only [spotAt, hRun, List.nil_append]
        rw [rewriteFrom_behind hMoving
          (List.mem_of_head? hRun)]
      · cases hAfter
        rw [runAt_false_eq_head?] at hNone
        rw [hGap, rewriteFrom]
        simp only [spotAt, hNone]
        rw [ih hLater]
        rfl

/-
  A walk keeps what is ahead, or replaces a hit behind a gap
  and goes on there.
-/
theorem rewriteFrom_cases
    (hMoving : p.isMoving = true)
    (replace : Hit → List Char)
    (front after : List Char) :
    p.rewriteFrom replace 0 front.reverse after = after ∨
      ∃ gap rest t, after = gap ++ rest ∧
        t ∈ p.ways (spotAt (front ++ gap).reverse rest) ∧
        t.after.length < after.length ∧
        p.rewriteFrom replace 0 front.reverse after =
          gap ++ (replace
              (.between (spotAt (front ++ gap).reverse rest) t) ++
            p.rewriteFrom replace 0 t.before t.after) := by
  cases hSearch : p.searchFrom false front.reverse
      front.reverse.length after with
  | none =>
      exact Or.inl (rewriteFrom_of_searchFrom_eq_none hSearch)
  | some found =>
      rcases found with ⟨gap, hit, t⟩
      rcases of_searchFrom hSearch with
        ⟨rest, hAfter, hWay, hHit⟩
      have hPlace :
          (⟨gap.reverse ++ front.reverse, rest,
              front.reverse.length + gap.length, []⟩ : Spot) =
            spotAt (front ++ gap).reverse rest := by
        simp [spotAt, Nat.add_comm]
      rw [hPlace] at hWay hHit
      have hShort : t.after.length < after.length := by
        have hMoves := pos_lt_of_mem_ways hMoving hWay
        rcases p.passing_of_mem_ways _ _ hWay with
          ⟨text, captured, hText, _⟩
        have hPos := hText.pos
        have hRest : rest = text ++ t.after := hText.after
        rw [hAfter, hRest, List.length_append,
          List.length_append]
        omega
      exact Or.inr ⟨gap, rest, t, hAfter, hWay, hShort,
        hHit ▸ rewriteFrom_of_searchFrom hMoving hSearch⟩

/- Cutting a text at its hits and replacing them is a walk. -/
theorem rejoin_segmentsFrom_eq
    (hMoving : p.isMoving = true)
    {fuel : Nat}
    {before after : List Char}
    (hFuel : after.length < fuel) :
    Regex.rejoin replace
        (p.segmentsFrom fuel false before before.length
          after) =
      p.rewriteFrom replace 0 before after := by
  induction fuel generalizing before after with
  | zero => cases hFuel
  | succ fuel ih =>
      unfold segmentsFrom
      split
      · next hNone =>
          exact (rewriteFrom_of_searchFrom_eq_none hNone).symm
      · next gap hit t hSome =>
          rcases of_searchFrom hSome with ⟨rest, _, hWay, hHit⟩
          have hFound := found_of_searchFrom hSome
          have hMoves := pos_lt_of_mem_ways hMoving hWay
          have hStart : hit.start < t.pos := by
            rw [hFound.start]
            exact hMoves
          have hLength := congrArg List.length hFound.split
          have hPos : t.pos = t.before.length := by
            rw [hFound.stop, Hit.stop, hFound.start,
              hFound.behind]
            simp only [List.length_append, List.length_reverse]
            omega
          have hShort : t.after.length < fuel := by
            have hStop := hFound.stop
            unfold Hit.stop at hStop
            simp only [List.length_append] at hLength
            omega
          have hLater :
              Regex.rejoin replace
                  (p.segmentsFrom fuel (t.pos == hit.start)
                    t.before t.pos t.after) =
                p.rewriteFrom replace 0 t.before t.after := by
            rw [beq_false_of_ne (Nat.ne_of_gt hStart), hPos]
            exact ih hShort
          rw [rewriteFrom_of_searchFrom hMoving hSome,
            ← hLater]
          simp only [Regex.rejoin, List.flatMap_cons,
            List.append_assoc]

end Pattern

/- Replacing the hits of a pattern that moves on is a walk. -/
theorem Regex.replaceHits_eq_rewrite
    {regex : Regex}
    (hMoving : regex.pattern.isMoving = true)
    (replace : Hit → List Char)
    (text : List Char) :
    regex.replaceHits replace text =
      regex.pattern.rewrite replace text := by
  unfold replaceHits Pattern.segments
  exact Pattern.rejoin_segmentsFrom_eq hMoving (by omega)

end GradleMigration
