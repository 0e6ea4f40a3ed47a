import GradleMigration.Proofs.Pattern.Rewriting
import GradleMigration.Proofs.Pattern.Spelling
import GradleMigration.Proofs.Pattern.Succession
import GradleMigration.Proofs.Pattern.Transport
import GradleMigration.Proofs.Pattern.WholeLines

/-
  Texts that a pattern can pass over, wherever they are next.

  What a pattern passes over is put together from what its
  parts pass over.  Of a repetition some way stops at every
  round, so what follows need not be looked at.

  Main declarations:
    * `Repetition.Reaches`
    * `Repetition.mem_greedyWays_iff`
    * `Pattern.Takes`
    * `Pattern.takes_repeated`
    * `Pattern.Takes.optional`
    * `Regex.exists_way_of_mem_hits`
    * `Regex.exists_hit_over`
    * `Regex.hits_eq_singleton`
    * `Pattern.exists_rewrite`
-/

------------------------------------------------------------
-- Counting Rounds
------------------------------------------------------------

namespace GradleMigration

namespace Repetition

variable {ways : Spot → List Spot} {s t : Spot}

/- Some number of rounds leads from one place to another. -/
def Reaches
    (ways : Spot → List Spot)
    (room : Option Nat)
    (s t : Spot) : Prop :=
  ∃ n, (∀ most ∈ room, n ≤ most) ∧ t ∈ requiredWays ways n s

/- There is no round, or a first one with room for it. -/
theorem reaches_iff
    {room : Option Nat} :
    Reaches ways room s t ↔
      t = s ∨ (room != some 0) = true ∧
        ∃ u ∈ ways s, Reaches ways (useRoom room) u t := by
  constructor
  · rintro ⟨n, hRoom, hT⟩
    cases n with
    | zero => exact Or.inl (List.mem_singleton.mp hT)
    | succ n =>
        rcases List.mem_flatMap.mp hT with ⟨u, hU, hT⟩
        refine Or.inr ⟨?_, u, hU, n, ?_, hT⟩
        · rw [bne_iff_ne]
          intro hNone
          have hLeast := hRoom 0 hNone
          omega
        · intro most hMost
          rcases Option.map_eq_some_iff.mp hMost with
            ⟨all, hAll, hLess⟩
          have hLeast := hRoom all hAll
          omega
  · rintro (hStay | ⟨hMay, u, hU, n, hRoom, hT⟩)
    · exact ⟨0, fun _ _ => Nat.zero_le _,
        List.mem_singleton.mpr hStay⟩
    · refine ⟨n + 1, ?_, List.mem_flatMap.mpr ⟨u, hU, hT⟩⟩
      intro most hMost
      have hLeast := hRoom (most - 1)
        (Option.map_eq_some_iff.mpr ⟨most, hMost, rfl⟩)
      have hSome : most ≠ 0 := by
        rintro rfl
        exact bne_iff_ne.mp hMay hMost
      omega

/- At the end there is nothing but to stay. -/
theorem reaches_iff_of_stuck
    {room : Option Nat}
    (h : ways s = []) :
    Reaches ways room s t ↔ t = s := by
  rw [reaches_iff, h]
  simp

/- A round leaves less than there is fuel for. -/
theorem Consumes.round
    (h : Consumes ways)
    {c : Char}
    {fuel : List Char}
    (hFuel : s.after.length ≤ (c :: fuel).length)
    (hT : t ∈ ways s) :
    t.after.length ≤ fuel.length ∧
      ∀ pos ∈ some s.pos, pos < t.pos := by
  have hLess := h.after s t hT
  rw [List.length_cons] at hFuel
  refine ⟨by omega, ?_⟩
  rintro pos ⟨⟩
  exact h.pos s t hT

/-
  The ways of a repetition are those of any number of rounds,
  if each of them takes a character: neither does the fuel run
  out, nor is a round refused for standing still.
-/
theorem mem_greedyWays_iff
    (hConsumes : Consumes ways)
    {fuel : List Char}
    {room last : Option Nat}
    (hFuel : s.after.length ≤ fuel.length)
    (hLast : ∀ pos ∈ last, pos < s.pos) :
    t ∈ greedyWays ways fuel room last s ↔
      Reaches ways room s t := by
  induction fuel generalizing room last s with
  | nil =>
      have hNone := hConsumes.stuck hFuel
      rw [greedyWays_of_stuck hNone, List.mem_singleton,
        reaches_iff_of_stuck hNone]
  | cons c fuel ih =>
      have hRound : ∀ u ∈ ways s,
          (t ∈ greedyWays ways fuel (useRoom room)
              (some s.pos) u ↔
            Reaches ways (useRoom room) u t) := by
        intro u hU
        rcases hConsumes.round hFuel hU with ⟨hRest, hPos⟩
        exact ih hRest hPos
      rw [greedyWays, mayGoOn_of_lt hLast, reaches_iff]
      split
      · next hMay =>
          rw [List.mem_append, List.mem_flatMap,
            List.mem_singleton, or_comm]
          simp only [hMay, true_and]
          exact or_congr_right
            (exists_congr fun u => and_congr_right (hRound u))
      · next hMay => simp [hMay]

end Repetition

end GradleMigration

------------------------------------------------------------
-- Taking a Text
------------------------------------------------------------

namespace GradleMigration

namespace Pattern

/- Where a text is next, some way ends right behind it. -/
def Takes
    (p : Pattern)
    (text : List Char) : Prop :=
  ∀ s rest, s.after = text ++ rest →
    ∃ t ∈ p.ways s, t.after = rest

variable {p q : Pattern} {text more : List Char}

theorem takes_one
    {test : CharTest}
    {c : Char}
    (h : test.accepts c = true) :
    (Pattern.one test).Takes [c] := by
  intro s rest hAfter
  rw [List.singleton_append] at hAfter
  refine ⟨s.step c rest, ?_, rfl⟩
  rw [ways, hAfter]
  simp [h]

theorem takes_letter
    (c : Char) :
    (letter c).Takes [c] :=
  takes_one (accepts_letter.mpr rfl)

theorem Takes.seq
    (hP : p.Takes text)
    (hQ : q.Takes more) :
    (p.seq q).Takes (text ++ more) := by
  intro s rest hAfter
  rw [List.append_assoc] at hAfter
  rcases hP s _ hAfter with ⟨t, hT, hMore⟩
  rcases hQ t _ hMore with ⟨u, hU, hRest⟩
  exact ⟨u, List.mem_flatMap.mpr ⟨t, hT, hU⟩, hRest⟩

theorem Takes.spelled
    (h : p.Takes more)
    (text : List Char) :
    (spelled text p).Takes (text ++ more) := by
  induction text with
  | nil => exact h
  | cons c rest ih => exact (takes_letter c).seq ih

theorem Takes.alt_left
    (h : p.Takes text) :
    (p.alt q).Takes text := by
  intro s rest hAfter
  rcases h s rest hAfter with ⟨t, hT, hRest⟩
  exact ⟨t, List.mem_append_left _ hT, hRest⟩

theorem Takes.alt_right
    (h : q.Takes text) :
    (p.alt q).Takes text := by
  intro s rest hAfter
  rcases h s rest hAfter with ⟨t, hT, hRest⟩
  exact ⟨t, List.mem_append_right _ hT, hRest⟩

theorem Takes.group
    (h : p.Takes text)
    (index : Nat) :
    (Pattern.group index p).Takes text := by
  intro s rest hAfter
  rcases h s rest hAfter with ⟨t, hT, hRest⟩
  exact ⟨_, List.mem_map.mpr ⟨t, hT, rfl⟩, hRest⟩

/- Where nothing is taken, what follows takes all. -/
theorem Takes.optional
    (h : text = [] ∨ p.Takes text) :
    (Pattern.loop ⟨0, some 1⟩ .greedy p).Takes text := by
  intro s rest hAfter
  have hWays :
      (Pattern.loop ⟨0, some 1⟩ .greedy p).ways s =
        Repetition.greedyWays p.ways s.after (some 1) none
          s := by
    simp [ways, Repetition.requiredWays]
  rw [hWays]
  rcases h with hNil | hTakes
  · subst hNil
    exact ⟨s, Repetition.self_mem_greedyWays _ _ _ _, hAfter⟩
  · rcases hTakes s rest hAfter with ⟨t, hT, hRest⟩
    refine ⟨t, ?_, hRest⟩
    have hMay : Repetition.mayGoOn (some 1) none s = true := rfl
    cases s.after with
    | nil =>
        rw [Repetition.greedyWays, if_pos hMay]
        exact List.mem_append_left _ hT
    | cons c others =>
        rw [Repetition.greedyWays, if_pos hMay]
        exact List.mem_append_left _ (List.mem_flatMap.mpr
          ⟨t, hT, Repetition.self_mem_greedyWays _ _ _ _⟩)

/- Required rounds take one character each. -/
theorem exists_requiredWays
    {test : CharTest}
    (hText : ∀ c ∈ text, test.accepts c = true)
    {s : Spot}
    {rest : List Char}
    (hAfter : s.after = text ++ rest) :
    ∃ t ∈ Repetition.requiredWays (Pattern.one test).ways
        text.length s,
      t.after = rest := by
  induction text generalizing s with
  | nil => exact ⟨s, List.mem_singleton.mpr rfl, hAfter⟩
  | cons c others ih =>
      rcases takes_one (hText c List.mem_cons_self) s
          (others ++ rest) hAfter with ⟨t, hT, hOthers⟩
      rcases ih (fun d hD => hText d (List.mem_cons_of_mem _ hD))
          hOthers with ⟨u, hU, hRest⟩
      exact ⟨u, List.mem_flatMap.mpr ⟨t, hT, hU⟩, hRest⟩

/- As many characters of a kind as are called for. -/
theorem takes_repeated
    {test : CharTest}
    (hText : ∀ c ∈ text, test.accepts c = true)
    {least : Nat}
    (hLeast : least ≤ text.length) :
    (Pattern.loop ⟨least, none⟩ .greedy (.one test)).Takes
      text := by
  intro s rest hAfter
  have hFirst : ∀ c ∈ text.take least, test.accepts c = true :=
    fun c hC => hText c (List.mem_of_mem_take hC)
  have hLater : ∀ c ∈ text.drop least, test.accepts c = true :=
    fun c hC => hText c (List.mem_of_mem_drop hC)
  rw [← List.take_append_drop least text,
    List.append_assoc] at hAfter
  rcases exists_requiredWays hFirst hAfter with ⟨t, hT, hMore⟩
  rcases exists_requiredWays hLater hMore with ⟨u, hU, hRest⟩
  rw [List.length_take, Nat.min_eq_left hLeast] at hT
  refine ⟨u, List.mem_flatMap.mpr ⟨t, hT, ?_⟩, hRest⟩
  exact (Repetition.mem_greedyWays_iff
    (consumes_of_isMoving rfl) (Nat.le_refl _) (by simp)).mpr
      ⟨_, by simp, hU⟩

end Pattern

end GradleMigration

------------------------------------------------------------
-- Where Hits Are
------------------------------------------------------------

namespace GradleMigration

/- Of two cuts of a text, the later one goes on from the other. -/
theorem Text.exists_between
    {first second front rest : List Char}
    (h : front ++ rest = first ++ second)
    (hLength : first.length ≤ front.length) :
    ∃ between, front = first ++ between ∧
      second = between ++ rest := by
  have hFirst : first <+: front ++ rest := ⟨second, h.symm⟩
  have hPrefix : first <+: front :=
    List.prefix_of_prefix_length_le hFirst
      (List.prefix_append _ _) hLength
  rcases hPrefix with ⟨between, hFront⟩
  refine ⟨between, hFront.symm, ?_⟩
  rw [← hFront, List.append_assoc] at h
  exact (List.append_cancel_left h).symm

namespace Pattern

/- Every hit is a way from its place in the text. -/
theorem Finds.exists_way
    {p : Pattern}
    {moving : Bool}
    {before after : List Char}
    {pos : Nat}
    {hits : List Hit}
    (h : p.Finds moving before pos after hits)
    (hPos : pos = before.length)
    {content : List Char}
    (hContent : content = before.reverse ++ after) :
    ∀ hit ∈ hits, ∃ front rest, content = front ++ rest ∧
      ∃ t ∈ p.ways (.at front rest),
        hit = .between (.at front rest) t := by
  induction h with
  | none h => simp
  | @some moving before after gap pos hit t later h hLater ih =>
      have hFound := found_of_searchFrom h
      have hStart := hFound.start
      have hStop := hFound.stop
      refine List.forall_mem_cons.mpr ⟨?_, ih ?_ ?_⟩
      · rcases of_searchFrom h with ⟨rest, hRest, hWay, hHit⟩
        have hPlace :
            (⟨gap.reverse ++ before, rest, pos + gap.length,
                []⟩ : Spot) =
              .at (before.reverse ++ gap) rest := by
          simp [Spot.at, hPos]
        rw [hPlace] at hWay hHit
        refine ⟨before.reverse ++ gap, rest, ?_, t, hWay, hHit⟩
        rw [hContent, hRest, List.append_assoc]
      · rw [hStop, Hit.stop, hStart, hPos, hFound.behind]
        simp only [List.length_append, List.length_reverse]
        omega
      · rw [hContent, hFound.split, hFound.behind]
        simp

/- A search finds no place behind one that has a way. -/
theorem gap_le_of_searchFrom
    {p : Pattern}
    {before after gap front rest : List Char}
    {pos : Nat}
    {hit : Hit}
    {t u : Spot}
    (h : p.searchFrom false before pos after =
      some (gap, hit, t))
    (hAfter : after = front ++ rest)
    (hWay : u ∈ p.ways
      ⟨front.reverse ++ before, rest, pos + front.length, []⟩) :
    gap.length ≤ front.length := by
  induction front generalizing before pos after gap with
  | nil =>
      rcases searchFrom_cases h with
        ⟨hGap, _⟩ | ⟨_, _, _, _, _, hNone, _⟩
      · exact Nat.le_of_eq (congrArg List.length hGap)
      · rw [runAt_false_eq_none_iff, hAfter] at hNone
        simp only [List.reverse_nil, List.nil_append,
          List.length_nil, Nat.add_zero] at hWay hNone
        rw [hNone] at hWay
        cases hWay
  | cons c front ih =>
      rcases searchFrom_cases h with
        ⟨hGap, _⟩ | ⟨d, others, later, hHere, hGap, _, hLater⟩
      · rw [hGap]
        exact Nat.zero_le _
      · rw [hAfter] at hHere
        cases hHere
        rw [hGap]
        refine Nat.succ_le_succ (ih hLater rfl ?_)
        simpa [Nat.add_assoc, Nat.add_comm 1] using hWay

/- Every place that has a way is in a hit. -/
theorem Finds.exists_over
    {p : Pattern}
    (hMoving : p.isMoving = true)
    {before after : List Char}
    {pos : Nat}
    {hits : List Hit}
    (h : p.Finds false before pos after hits)
    {front rest : List Char}
    (hAfter : after = front ++ rest)
    {u : Spot}
    (hWay : u ∈ p.ways
      ⟨front.reverse ++ before, rest, pos + front.length, []⟩) :
    ∃ hit ∈ hits, hit.start ≤ pos + front.length ∧
      pos + front.length < hit.stop := by
  generalize hFlag : false = moving at h
  induction h generalizing front with
  | none h =>
      subst hFlag
      rw [searchFrom_eq_none_iff.mp h front rest hAfter] at hWay
      cases hWay
  | @some moving before after gap pos hit t later h hLater ih =>
      subst hFlag
      have hFound := found_of_searchFrom h
      have hGap := gap_le_of_searchFrom h hAfter hWay
      have hStart := hFound.start
      have hStop := hFound.stop
      by_cases hHere : pos + front.length < hit.stop
      · exact ⟨hit, List.mem_cons_self, by omega, hHere⟩
      · -- The place is behind this hit.
        have hLength :
            (gap ++ hit.text).length ≤ front.length := by
          unfold Hit.stop at hHere
          rw [List.length_append]
          omega
        have hBoth : front ++ rest =
            (gap ++ hit.text) ++ t.after := by
          rw [← hAfter, hFound.split, List.append_assoc]
        rcases Text.exists_between hBoth hLength with
          ⟨others, hFront, hRest⟩
        have hMoved : false = (t.pos == hit.start) := by
          rcases of_searchFrom h with ⟨_, _, hT, hHit⟩
          have hMoves := pos_lt_of_mem_ways hMoving hT
          rw [hHit]
          exact (beq_false_of_ne (Nat.ne_of_gt hMoves)).symm
        have hPos :
            pos + front.length = t.pos + others.length := by
          rw [hStop, Hit.stop, hStart, hFront]
          simp only [List.length_append]
          omega
        have hPlace : front.reverse ++ before =
            others.reverse ++ t.before := by
          rw [hFound.behind, hFront]
          simp
        rw [hPlace, hPos] at hWay
        rcases ih hRest hWay hMoved with
          ⟨other, hOther, hOver⟩
        rw [hPos]
        exact ⟨other, List.mem_cons_of_mem _ hOther, hOver⟩

end Pattern

namespace Regex

variable {regex : Regex} {text : List Char}

theorem exists_way_of_mem_hits
    {hit : Hit}
    (h : hit ∈ regex.hits text) :
    ∃ front rest, text = front ++ rest ∧
      ∃ t ∈ regex.pattern.ways (.at front rest),
        hit = .between (.at front rest) t :=
  (regex.finds_hits text).exists_way rfl rfl hit h

/- Every place of a text that has a way is in a hit. -/
theorem exists_hit_over
    (hMoving : regex.pattern.isMoving = true)
    {front rest : List Char}
    (hText : text = front ++ rest)
    {t : Spot}
    (hWay : t ∈ regex.pattern.ways (.at front rest)) :
    ∃ hit ∈ regex.hits text,
      hit.start ≤ front.length ∧ front.length < hit.stop := by
  have hPlace : (Spot.at front rest) =
      ⟨front.reverse ++ [], rest, 0 + front.length, []⟩ := by
    simp [Spot.at]
  rw [hPlace] at hWay
  have hOver :=
    (regex.finds_hits text).exists_over hMoving hText hWay
  rw [Nat.zero_add] at hOver
  exact hOver

/- Hits that all hold one place are one hit. -/
theorem hits_eq_singleton
    (hSome : regex.hits text ≠ [])
    {place : Nat}
    (hPlace : ∀ hit ∈ regex.hits text,
      hit.start ≤ place ∧ place < hit.stop) :
    ∃ hit, regex.hits text = [hit] := by
  have hOrdered := (regex.placed_hits text).ordered
  cases hHits : regex.hits text with
  | nil => exact absurd hHits hSome
  | cons first later =>
      cases later with
      | nil => exact ⟨first, rfl⟩
      | cons second others =>
          -- The second would be behind the place.
          rw [hHits] at hPlace hOrdered
          have hFirst := hPlace first List.mem_cons_self
          have hSecond := hPlace second
            (List.mem_cons_of_mem _ List.mem_cons_self)
          have hApart :=
            (List.rel_of_pairwise_cons hOrdered
              List.mem_cons_self).apart
          omega

end Regex

namespace Pattern

/- Where some place has a way, the first hit is replaced. -/
theorem exists_rewrite
    {p : Pattern}
    (hMoving : p.isMoving = true)
    {text front rest : List Char}
    (hText : text = front ++ rest)
    {u : Spot}
    (hWay : u ∈ p.ways (spotAt front.reverse rest))
    (replace : Hit → List Char) :
    ∃ gap rest t, text = gap ++ rest ∧
      t ∈ p.ways (spotAt gap.reverse rest) ∧
        p.rewrite replace text =
          gap ++ (replace
              (.between (spotAt gap.reverse rest) t) ++
            p.rewriteFrom replace 0 t.before t.after) := by
  cases hSearch : p.searchFrom false [] 0 text with
  | none =>
      have hNone := searchFrom_eq_none_iff.mp hSearch front rest
        hText
      rw [List.append_nil, Nat.zero_add] at hNone
      rw [spotAt, List.length_reverse, hNone] at hWay
      cases hWay
  | some found =>
      rcases found with ⟨gap, hit, t⟩
      rcases of_searchFrom hSearch with
        ⟨rest, hAfter, hT, hHit⟩
      have hPlace :
          (⟨gap.reverse ++ [], rest, 0 + gap.length, []⟩ :
              Spot) =
            spotAt gap.reverse rest := by
        simp [spotAt]
      rw [hPlace] at hT hHit
      exact ⟨gap, rest, t, hAfter, hT,
        hHit ▸ rewriteFrom_of_searchFrom hMoving hSearch⟩

end Pattern

end GradleMigration
