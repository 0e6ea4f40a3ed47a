import GradleMigration.Proofs.Pattern.Rewriting

/-
  Carrying the ways of a pattern over from one text to
  another.

  A map of places carries a pattern if the ways from the place
  that it leads to are those from the place itself, in the
  same order.  Whatever is put together from patterns that are
  carried is carried: a repetition takes as many rounds as it
  can in both texts, since each round takes a character.

  Main declarations:
    * `Transport` and `Transport.Carries`
    * `Transport.Carries.greedyWays`
    * `Transport.Carries.lazyWays`
    * `Pattern.isBuiltFrom`
    * `Transport.carries_ways`
-/

------------------------------------------------------------
-- Maps of Places
------------------------------------------------------------

namespace GradleMigration

/-
  A map of places that goes together with remembering what has
  been passed over.
-/
structure Transport where
  good : Spot → Prop
  move : Spot → Spot
  capture :
    ∀ {s t : Spot} {text : List Char}
      {captured : List (Nat × List Char)},
      good s → good t → s.Passes t text captured →
        ∀ index,
          good (t.capture index text) ∧
            (move t).capture index
                ((move s).textTo (move t)) =
              move (t.capture index text)
  restore :
    ∀ {s t : Spot}, good s → good t →
      good { s with groups := t.groups } ∧
        { move s with groups := (move t).groups } =
          move { s with groups := t.groups }

/-
  From where a place is moved to, the ways are those from the
  place, moved.
-/
def Transport.Carries
    (T : Transport)
    (ways : Spot → List Spot) : Prop :=
  ∀ s, T.good s →
    ways (T.move s) = (ways s).map T.move ∧
      ∀ t ∈ ways s, T.good t

namespace Repetition

/- Every round takes a character of what is left. -/
structure Consumes
    (ways : Spot → List Spot) : Prop where
  after : ∀ s, ∀ t ∈ ways s, t.after.length < s.after.length
  pos : ∀ s, ∀ t ∈ ways s, s.pos < t.pos

variable {ways : Spot → List Spot}

/- Nothing is left for a round at the end. -/
theorem Consumes.stuck
    (h : Consumes ways)
    {s : Spot}
    (hAfter : s.after.length ≤ 0) :
    ways s = [] := by
  apply List.eq_nil_iff_forall_not_mem.mpr
  intro t hT
  have hLess := h.after s t hT
  omega

/- Without a round there is one way, to stay. -/
theorem greedyWays_of_stuck
    {s : Spot}
    (h : ways s = [])
    (fuel : List Char)
    (room last : Option Nat) :
    greedyWays ways fuel room last s = [s] := by
  cases fuel with
  | nil => simp [greedyWays, h]
  | cons c fuel => simp [greedyWays, h]

theorem lazyWays_of_stuck
    {s : Spot}
    (h : ways s = [])
    (fuel : List Char)
    (room last : Option Nat) :
    lazyWays ways fuel room last s = [s] := by
  cases fuel with
  | nil => simp [lazyWays, h]
  | cons c fuel => simp [lazyWays, h]

/- A round that has moved on does not stop the next one. -/
theorem mayGoOn_of_lt
    {last : Option Nat}
    {s : Spot}
    (h : ∀ pos ∈ last, pos < s.pos)
    (room : Option Nat) :
    mayGoOn room last s = (room != some 0) := by
  unfold mayGoOn
  have hLast : (last != some s.pos) = true := by
    apply bne_iff_ne.mpr
    intro hEq
    exact Nat.lt_irrefl _ (h s.pos hEq)
  rw [hLast, Bool.and_true]

end Repetition

end GradleMigration

------------------------------------------------------------
-- Carrying Repetitions
------------------------------------------------------------

namespace GradleMigration

open Repetition

namespace Transport

variable {T : Transport} {ways : Spot → List Spot}

/- One list of ways after another. -/
theorem flatMap_move
    {more others : Spot → List Spot}
    {spots : List Spot}
    (h : ∀ t ∈ spots,
      others (T.move t) = (more t).map T.move) :
    (spots.map T.move).flatMap others =
      (spots.flatMap more).map T.move := by
  induction spots with
  | nil => rfl
  | cons t rest ih =>
      rw [List.map_cons, List.flatMap_cons, List.flatMap_cons,
        List.map_append, h t List.mem_cons_self,
        ih fun u hU => h u (List.mem_cons_of_mem _ hU)]

/- What is good stays good over any number of rounds. -/
theorem chains_good
    (T : Transport) :
    Chains fun s t => T.good s → T.good t where
  refl _ := id
  trans h k := k ∘ h

theorem Carries.leads
    (h : T.Carries ways) :
    Leads (fun s t => T.good s → T.good t) ways := by
  intro s t hT hGood
  exact (h s hGood).2 t hT

theorem Carries.requiredWays
    (h : T.Carries ways)
    (n : Nat) :
    T.Carries (requiredWays ways n) := by
  intro s hGood
  refine ⟨?_, fun t hT => leads_requiredWays T.chains_good
    h.leads n s t hT hGood⟩
  induction n generalizing s with
  | zero => rfl
  | succ n ih =>
      rw [Repetition.requiredWays, Repetition.requiredWays,
        (h s hGood).1]
      exact flatMap_move fun t hT => ih t ((h s hGood).2 t hT)

/- There are no rounds where none is in the other text. -/
theorem Carries.stuck
    (h : T.Carries ways)
    {s : Spot}
    (hGood : T.good s)
    (hNone : ways s = []) :
    ways (T.move s) = [] := by
  rw [(h s hGood).1, hNone, List.map_nil]

/- A round moves on in both texts. -/
theorem Carries.pos_lt
    (h : T.Carries ways)
    (hConsumes : Consumes ways)
    {s t : Spot}
    (hGood : T.good s)
    (hT : t ∈ ways s) :
    t.after.length < s.after.length ∧ s.pos < t.pos ∧
      (T.move t).after.length < (T.move s).after.length ∧
        (T.move s).pos < (T.move t).pos := by
  have hMoved : T.move t ∈ ways (T.move s) := by
    rw [(h s hGood).1]
    exact List.mem_map_of_mem hT
  exact ⟨hConsumes.after s t hT, hConsumes.pos s t hT,
    hConsumes.after _ _ hMoved, hConsumes.pos _ _ hMoved⟩

/-
  As long as there is fuel for what is left of the text, more
  of it makes no difference.
-/
theorem Carries.greedyWays
    (h : T.Carries ways)
    (hConsumes : Consumes ways)
    {fuel more : List Char}
    (room : Option Nat)
    {last late : Option Nat}
    {s : Spot}
    (hGood : T.good s)
    (hFuel : s.after.length ≤ fuel.length)
    (hMore : (T.move s).after.length ≤ more.length)
    (hLast : ∀ pos ∈ last, pos < s.pos)
    (hLate : ∀ pos ∈ late, pos < (T.move s).pos) :
    greedyWays ways more room late (T.move s) =
      (greedyWays ways fuel room last s).map T.move := by
  induction fuel generalizing more room last late s with
  | nil =>
      have hNone := hConsumes.stuck hFuel
      rw [greedyWays_of_stuck hNone,
        greedyWays_of_stuck (h.stuck hGood hNone)]
      rfl
  | cons c fuel ih =>
      cases more with
      | nil =>
          have hNone := hConsumes.stuck hMore
          have hHere := (h s hGood).1
          rw [hNone] at hHere
          rw [greedyWays_of_stuck hNone, greedyWays_of_stuck
            (List.map_eq_nil_iff.mp hHere.symm)]
          rfl
      | cons d more =>
          rw [Repetition.greedyWays, Repetition.greedyWays,
            mayGoOn_of_lt hLast, mayGoOn_of_lt hLate,
            (h s hGood).1]
          split
          · rw [List.map_append]
            congr 1
            apply flatMap_move
            intro t hT
            have hLess := h.pos_lt hConsumes hGood hT
            rw [List.length_cons] at hFuel hMore
            refine ih _ ((h s hGood).2 t hT) (by omega)
              (by omega) ?_ ?_
            · rintro pos ⟨⟩
              exact hLess.2.1
            · rintro pos ⟨⟩
              exact hLess.2.2.2
          · rfl

theorem Carries.lazyWays
    (h : T.Carries ways)
    (hConsumes : Consumes ways)
    {fuel more : List Char}
    (room : Option Nat)
    {last late : Option Nat}
    {s : Spot}
    (hGood : T.good s)
    (hFuel : s.after.length ≤ fuel.length)
    (hMore : (T.move s).after.length ≤ more.length)
    (hLast : ∀ pos ∈ last, pos < s.pos)
    (hLate : ∀ pos ∈ late, pos < (T.move s).pos) :
    lazyWays ways more room late (T.move s) =
      (lazyWays ways fuel room last s).map T.move := by
  induction fuel generalizing more room last late s with
  | nil =>
      have hNone := hConsumes.stuck hFuel
      rw [lazyWays_of_stuck hNone,
        lazyWays_of_stuck (h.stuck hGood hNone)]
      rfl
  | cons c fuel ih =>
      cases more with
      | nil =>
          have hNone := hConsumes.stuck hMore
          have hHere := (h s hGood).1
          rw [hNone] at hHere
          rw [lazyWays_of_stuck hNone, lazyWays_of_stuck
            (List.map_eq_nil_iff.mp hHere.symm)]
          rfl
      | cons d more =>
          rw [Repetition.lazyWays, Repetition.lazyWays,
            mayGoOn_of_lt hLast, mayGoOn_of_lt hLate,
            (h s hGood).1, List.map_cons]
          congr 1
          split
          · apply flatMap_move
            intro t hT
            have hLess := h.pos_lt hConsumes hGood hT
            rw [List.length_cons] at hFuel hMore
            refine ih _ ((h s hGood).2 t hT) (by omega)
              (by omega) ?_ ?_
            · rintro pos ⟨⟩
              exact hLess.2.1
            · rintro pos ⟨⟩
              exact hLess.2.2.2
          · rfl

end Transport

end GradleMigration

------------------------------------------------------------
-- Carrying Patterns
------------------------------------------------------------

namespace GradleMigration

namespace Pattern

/- A pattern that moves on takes a character of what is left. -/
theorem consumes_of_isMoving
    {p : Pattern}
    (h : p.isMoving = true) :
    Repetition.Consumes p.ways := by
  refine ⟨?_, fun s t hT => pos_lt_of_mem_ways h hT⟩
  intro s t hT
  have hMoves := pos_lt_of_mem_ways h hT
  rcases p.passing_of_mem_ways s t hT with
    ⟨text, captured, hText, _⟩
  have hAfter := congrArg List.length hText.after
  have hPos := hText.pos
  rw [List.length_append] at hAfter
  omega

/-
  Patterns that are put together from some parts by sequence,
  choice, groups, repetition and looking ahead.
-/
def isBuiltFrom
    (part : Pattern → Bool) : Pattern → Bool
| .empty => true
| .one test => part (.one test)
| .anchor a => part (.anchor a)
| .seq p q => p.isBuiltFrom part && q.isBuiltFrom part
| .alt p q => p.isBuiltFrom part && q.isBuiltFrom part
| .group _ p => p.isBuiltFrom part
| .loop _ greed p =>
    greed != .possessive && p.isMoving && p.isBuiltFrom part
| .ahead negated p =>
    part (.ahead negated p) || p.isBuiltFrom part
| _ => false

end Pattern

namespace Transport

variable {T : Transport}

/- A group remembers the same text. -/
theorem carries_group
    {p : Pattern}
    (h : T.Carries p.ways)
    (index : Nat) :
    T.Carries (Pattern.group index p).ways := by
  intro s hGood
  have hWays := h s hGood
  have hCapture :
      ∀ t ∈ p.ways s,
        T.good (t.capture index (s.textTo t)) ∧
          (T.move t).capture index
              ((T.move s).textTo (T.move t)) =
            T.move (t.capture index (s.textTo t)) := by
    intro t hT
    rcases p.passing_of_mem_ways s t hT with
      ⟨text, captured, hText, _⟩
    rw [hText.textTo_eq]
    exact T.capture hGood (hWays.2 t hT) hText index
  constructor
  · rw [Pattern.ways, Pattern.ways, hWays.1, List.map_map,
      List.map_map]
    exact List.map_congr_left fun t hT => (hCapture t hT).2
  · intro t hT
    rcases List.mem_map.mp hT with ⟨u, hU, hEq⟩
    subst hEq
    exact (hCapture u hU).1

/- Looking ahead sees the same. -/
theorem carries_ahead
    {p : Pattern}
    (h : T.Carries p.ways)
    (negated : Bool) :
    T.Carries (Pattern.ahead negated p).ways := by
  intro s hGood
  have hWays := h s hGood
  rw [Pattern.ways, Pattern.ways, hWays.1, List.head?_map]
  cases hHead : (p.ways s).head? with
  | none => cases negated <;> simp [hGood]
  | some t =>
      have hRestore :=
        T.restore hGood (hWays.2 t (List.mem_of_head? hHead))
      cases negated <;> simp [hRestore]

/- A repetition takes the same rounds. -/
theorem carries_loop
    {p : Pattern}
    (h : T.Carries p.ways)
    (hMoving : p.isMoving = true)
    (bounds : Bounds)
    {greed : Greed}
    (hGreed : greed ≠ .possessive) :
    T.Carries (Pattern.loop bounds greed p).ways := by
  have hConsumes := Pattern.consumes_of_isMoving hMoving
  intro s hGood
  refine ⟨?_, fun t hT => Pattern.leads_loop T.chains_good
    h.leads bounds greed s t hT hGood⟩
  have hRequired := h.requiredWays bounds.least s hGood
  cases greed with
  | greedy =>
      simp only [Pattern.ways]
      rw [hRequired.1]
      exact flatMap_move fun t hT =>
        h.greedyWays hConsumes _ (hRequired.2 t hT)
          (Nat.le_refl _) (Nat.le_refl _) (by simp) (by simp)
  | lazy =>
      simp only [Pattern.ways]
      rw [hRequired.1]
      exact flatMap_move fun t hT =>
        h.lazyWays hConsumes _ (hRequired.2 t hT)
          (Nat.le_refl _) (Nat.le_refl _) (by simp) (by simp)
  | possessive => exact absurd rfl hGreed

/- What is put together from parts that are carried is, too. -/
theorem carries_ways
    {part : Pattern → Bool}
    (hPart : ∀ p, part p = true → T.Carries p.ways)
    {p : Pattern}
    (h : p.isBuiltFrom part = true) :
    T.Carries p.ways := by
  induction p with
  | empty =>
      intro s hGood
      exact ⟨rfl, List.forall_mem_singleton.mpr hGood⟩
  | one test => exact hPart _ h
  | anchor a => exact hPart _ h
  | seq p q ihP ihQ =>
      rcases Bool.and_eq_true_iff.mp h with ⟨hP, hQ⟩
      intro s hGood
      have hFirst := ihP hP s hGood
      constructor
      · rw [Pattern.ways, Pattern.ways, hFirst.1]
        exact flatMap_move fun t hT =>
          (ihQ hQ t (hFirst.2 t hT)).1
      · intro t hT
        rcases List.mem_flatMap.mp hT with ⟨u, hU, hT⟩
        exact (ihQ hQ u (hFirst.2 u hU)).2 t hT
  | alt p q ihP ihQ =>
      rcases Bool.and_eq_true_iff.mp h with ⟨hP, hQ⟩
      intro s hGood
      have hFirst := ihP hP s hGood
      have hSecond := ihQ hQ s hGood
      constructor
      · rw [Pattern.ways, Pattern.ways, hFirst.1, hSecond.1,
          List.map_append]
      · intro t hT
        exact (List.mem_append.mp hT).elim (hFirst.2 t)
          (hSecond.2 t)
  | group index p ih => exact carries_group (ih h) index
  | loop bounds greed p ih =>
      rw [Pattern.isBuiltFrom, Bool.and_eq_true,
        Bool.and_eq_true, bne_iff_ne] at h
      exact carries_loop (ih h.2) h.1.2 bounds h.1.1
  | ahead negated p ih =>
      rcases Bool.or_eq_true_iff.mp h with hHere | hBuilt
      · exact hPart _ hHere
      · exact carries_ahead (ih hBuilt) negated
  | atomic p ih => cases h
  | behind negated width p ih => cases h
  | backref index folding => cases h
  | ifGroup index present absent ihP ihA => cases h

end Transport

end GradleMigration
