import GradleMigration.Proofs.Pattern.LineByLine
import GradleMigration.Proofs.Pattern.Taking

/-
  Ways of a text that stay inside of some whole lines.

  A pattern that may go on into the next line has more ways in
  a text than in some of its lines.  Those that end in these
  lines are the ways there, if the pattern does not look
  beyond the line that it stands in.

  Main declarations:
    * `Pattern.isEnclosed`
    * `Spot.Inside`
    * `Pattern.exists_of_inside`
    * `Regex.hits_ne_nil_of_inside`
-/

------------------------------------------------------------
-- Places inside of Lines
------------------------------------------------------------

namespace GradleMigration

/- A place of a text that has all of `behind` ahead of it. -/
def Spot.Inside
    (behind : List Char)
    (s : Spot) : Prop :=
  behind.length ≤ s.after.length

namespace Spot

variable {front behind : List Char} {s t : Spot}

/- What leads to such a place comes from such a place. -/
theorem Inside.of_mem_ways
    {p : Pattern}
    (h : t.Inside behind)
    (hT : t ∈ p.ways s) :
    s.Inside behind := by
  rcases p.passing_of_mem_ways s t hT with ⟨text, _, hText, _⟩
  unfold Inside at h ⊢
  rw [hText.after, List.length_append]
  omega

end Spot

namespace Pattern

/-
  Patterns that may pass over lines, but look ahead in the
  line that they stand in only.
-/
def isEnclosed : Pattern → Bool
| .empty => true
| .one _ => true
| .anchor a => a.isLineBound
| .seq p q => p.isEnclosed && q.isEnclosed
| .alt p q => p.isEnclosed && q.isEnclosed
| .group _ p => p.isEnclosed
| .loop _ greed p =>
    greed != .possessive && p.isMoving && p.isEnclosed
| .ahead _ p => p.isLineBound
| _ => false

end Pattern

end GradleMigration

------------------------------------------------------------
-- Ways inside of Lines
------------------------------------------------------------

namespace GradleMigration

namespace Repetition

variable {front behind : List Char}
variable {ways : Spot → List Spot}

/- Ways of a text that end inside are ways of the lines. -/
def Enclosed
    (front behind : List Char)
    (ways : Spot → List Spot) : Prop :=
  ∀ s t', t' ∈ ways (s.embed front behind) →
    t'.Inside behind → ∃ t ∈ ways s, t' = t.embed front behind

/- What leads inside comes from inside. -/
def Returns
    (behind : List Char)
    (s t : Spot) : Prop :=
  t.Inside behind → s.Inside behind

theorem chains_returns
    (behind : List Char) :
    Chains (Returns behind) where
  refl _ := id
  trans h k := fun hInside => h (k hInside)

/- What is enclosed after what is enclosed. -/
theorem Enclosed.flatMap
    {next : Spot → List Spot}
    (h : Enclosed front behind ways)
    (hNext : Enclosed front behind next)
    (hReturns : Leads (Returns behind) next) :
    Enclosed front behind fun s => (ways s).flatMap next := by
  intro s t' hT hInside
  rcases List.mem_flatMap.mp hT with ⟨u', hU', hT⟩
  rcases h s u' hU' (hReturns u' t' hT hInside) with
    ⟨u, hU, hEq⟩
  subst hEq
  rcases hNext u t' hT hInside with ⟨t, hT, hEq⟩
  exact ⟨t, List.mem_flatMap.mpr ⟨u, hU, hT⟩, hEq⟩

theorem enclosed_requiredWays
    (h : Enclosed front behind ways)
    (hReturns : Leads (Returns behind) ways)
    (n : Nat) :
    Enclosed front behind (requiredWays ways n) := by
  induction n with
  | zero =>
      intro s t' hT _
      cases List.mem_singleton.mp hT
      exact ⟨s, List.mem_singleton.mpr rfl, rfl⟩
  | succ n ih =>
      exact h.flatMap ih
        (leads_requiredWays (chains_returns behind) hReturns n)

/- Any number of rounds that end inside are in the lines. -/
theorem exists_reaches
    (h : Enclosed front behind ways)
    (hReturns : Leads (Returns behind) ways)
    {room : Option Nat}
    {s t' : Spot}
    (hReaches : Reaches ways room (s.embed front behind) t')
    (hInside : t'.Inside behind) :
    ∃ t, Reaches ways room s t ∧ t' = t.embed front behind := by
  rcases hReaches with ⟨n, hRoom, hT⟩
  rcases enclosed_requiredWays h hReturns n s t' hT hInside with
    ⟨t, hT, hEq⟩
  exact ⟨t, ⟨n, hRoom, hT⟩, hEq⟩

theorem enclosed_greedyWays
    (h : Enclosed front behind ways)
    (hReturns : Leads (Returns behind) ways)
    (hConsumes : Consumes ways)
    (room : Option Nat) :
    Enclosed front behind fun s =>
      greedyWays ways s.after room none s := by
  intro s t' hT hInside
  rw [mem_greedyWays_iff hConsumes (Nat.le_refl _)
    (by simp)] at hT
  rcases exists_reaches h hReturns hT hInside with
    ⟨t, hReaches, hEq⟩
  refine ⟨t, ?_, hEq⟩
  rw [mem_greedyWays_iff hConsumes (Nat.le_refl _) (by simp)]
  exact hReaches

end Repetition

namespace Pattern

variable {front behind : List Char}

/- A character that ends inside is one of the lines. -/
theorem enclosed_one
    (test : CharTest) :
    Repetition.Enclosed front behind (Pattern.one test).ways := by
  intro s t' hT hInside
  cases hAfter : s.after with
  | nil =>
      -- A character would be taken from behind the lines.
      rcases passes_of_mem_one hT with ⟨c, _, hPasses⟩
      have hLength := congrArg List.length hPasses.after
      simp only [Spot.embed, hAfter, List.length_append,
        List.length_nil, List.length_singleton] at hLength
      unfold Spot.Inside at hInside
      omega
  | cons c rest =>
      simp only [ways, Spot.embed, hAfter,
        List.cons_append] at hT ⊢
      split at hT
      · next hAccepts =>
          refine ⟨s.step c rest, ?_, ?_⟩
          · simp [hAccepts]
          · rw [List.mem_singleton.mp hT]
            simp only [Spot.step, List.cons_append,
              Nat.add_right_comm]
      · cases hT

/- Looking ahead in a line sees the same in the text. -/
theorem enclosed_ahead
    (hLines : Text.WholeLines front behind)
    {p : Pattern}
    (hBound : p.isLineBound = true)
    (negated : Bool) :
    Repetition.Enclosed front behind
      (Pattern.ahead negated p).ways := by
  intro s t' hT _
  rw [ways, ways_embed hLines hBound s, List.head?_map] at hT
  rw [ways]
  cases hHead : (p.ways s).head? with
  | none =>
      rw [hHead] at hT
      cases negated with
      | true =>
          exact ⟨s, List.mem_singleton.mpr rfl,
            List.mem_singleton.mp hT⟩
      | false => cases hT
  | some u =>
      rw [hHead] at hT
      cases negated with
      | true => cases hT
      | false =>
          exact ⟨_, List.mem_singleton.mpr rfl,
            List.mem_singleton.mp hT⟩

/-
  Ways of an enclosed pattern that end inside of some lines are
  ways of these lines.
-/
theorem exists_of_inside
    (hLines : Text.WholeLines front behind)
    {p : Pattern}
    (hEnclosed : p.isEnclosed = true) :
    Repetition.Enclosed front behind p.ways := by
  have hReturns (q : Pattern) :
      Repetition.Leads (Repetition.Returns behind) q.ways :=
    fun s t hT hInside => hInside.of_mem_ways hT
  induction p with
  | empty =>
      intro s t' hT _
      exact ⟨s, List.mem_singleton.mpr rfl,
        List.mem_singleton.mp hT⟩
  | one test => exact enclosed_one test
  | anchor a =>
      intro s t' hT _
      rw [ways, a.holds_embed hLines hEnclosed] at hT
      rw [ways]
      split at hT
      · next hHolds =>
          rw [if_pos hHolds]
          exact ⟨s, List.mem_singleton.mpr rfl,
            List.mem_singleton.mp hT⟩
      · cases hT
  | seq p q ihP ihQ =>
      rcases Bool.and_eq_true_iff.mp hEnclosed with ⟨hP, hQ⟩
      exact (ihP hP).flatMap (ihQ hQ) (hReturns q)
  | alt p q ihP ihQ =>
      rcases Bool.and_eq_true_iff.mp hEnclosed with ⟨hP, hQ⟩
      intro s t' hT hInside
      rcases List.mem_append.mp hT with hFirst | hSecond
      · rcases ihP hP s t' hFirst hInside with ⟨t, hT, hEq⟩
        exact ⟨t, List.mem_append_left _ hT, hEq⟩
      · rcases ihQ hQ s t' hSecond hInside with ⟨t, hT, hEq⟩
        exact ⟨t, List.mem_append_right _ hT, hEq⟩
  | group index p ih =>
      intro s t' hT hInside
      rcases List.mem_map.mp hT with ⟨u', hU', hEq⟩
      subst hEq
      rcases ih hEnclosed s u' hU' hInside with ⟨u, hU, hEq⟩
      subst hEq
      refine ⟨_, List.mem_map.mpr ⟨u, hU, rfl⟩, ?_⟩
      rcases p.passing_of_mem_ways s u hU with
        ⟨text, _, hText, _⟩
      rw [hText.embed.textTo_eq, hText.textTo_eq]
      rfl
  | loop bounds greed p ih =>
      simp only [isEnclosed, Bool.and_eq_true] at hEnclosed
      rcases hEnclosed with ⟨⟨hGreed, hMoving⟩, hP⟩
      have hConsumes := consumes_of_isMoving hMoving
      have hRequired := Repetition.enclosed_requiredWays
        (ih hP) (hReturns p) bounds.least
      have hChains := Repetition.chains_returns behind
      have hGreedy : Repetition.Enclosed front behind
          (Pattern.loop bounds .greedy p).ways :=
        hRequired.flatMap
          (Repetition.enclosed_greedyWays (ih hP)
            (hReturns p) hConsumes _)
          (fun s => Repetition.leads_greedyWays hChains
            (hReturns p) _ _ _ s)
      cases greed with
      | greedy => exact hGreedy
      | lazy =>
          intro s t' hT hInside
          rcases hGreedy s t' (mem_ways_lazy.mp hT)
              hInside with
            ⟨t, hT, hEq⟩
          exact ⟨t, mem_ways_lazy.mpr hT, hEq⟩
      | possessive => cases hGreed
  | ahead negated p ih =>
      exact enclosed_ahead hLines hEnclosed negated
  | atomic p ih => cases hEnclosed
  | behind negated width p ih => cases hEnclosed
  | backref index folding => cases hEnclosed
  | ifGroup index present absent ihP ihA => cases hEnclosed

end Pattern

/-
  An enclosed pattern that has a hit inside of some whole lines
  of a text has a hit in these lines.
-/
theorem Regex.hits_ne_nil_of_inside
    {front lines behind : List Char}
    (hLines : Text.WholeLines front behind)
    {regex : Regex}
    (hEnclosed : regex.pattern.isEnclosed = true)
    {hit : Hit}
    (hHit : hit ∈ regex.hits (front ++ lines ++ behind))
    (hStart : front.length ≤ hit.start)
    (hStop : hit.stop ≤ front.length + lines.length) :
    regex.hits lines ≠ [] := by
  rcases exists_way_of_mem_hits hHit with
    ⟨before, after, hText, t, hT, hEq⟩
  rcases regex.pattern.passing_of_mem_ways _ _ hT with
    ⟨text, _, hPasses, _⟩
  have hPlace : hit.start = before.length := by
    rw [hEq]
    rfl
  have hLength : hit.stop = before.length + text.length := by
    rw [Hit.stop, hPlace, hEq, Hit.between, hPasses.textTo_eq]
  have hAfter : after = text ++ t.after := hPasses.after
  -- The hit starts in the lines, and they end behind it.
  rw [List.append_assoc] at hText
  rcases Text.exists_between hText.symm (by omega) with
    ⟨start, hBefore, hRest⟩
  have hInside : t.Inside behind := by
    have hCount := congrArg List.length hRest
    rw [hBefore] at hLength
    rw [hAfter] at hCount
    simp only [List.length_append] at hCount hLength
    unfold Spot.Inside
    omega
  have hBefore' : start.length ≤ lines.length := by
    rw [hBefore, List.length_append] at hLength
    omega
  rcases Text.exists_between hRest hBefore' with
    ⟨rest, hSplit, hEnd⟩
  have hSpot : Spot.at before after =
      (Spot.at start rest).embed front behind := by
    simp [Spot.at, Spot.embed, hBefore, hEnd, Nat.add_comm]
  rw [hSpot] at hT
  rcases Pattern.exists_of_inside hLines hEnclosed _ t hT hInside
    with ⟨u, hU, _⟩
  intro hNone
  rw [hits_eq_nil_iff] at hNone
  rw [hNone start rest hSplit] at hU
  cases hU

end GradleMigration
