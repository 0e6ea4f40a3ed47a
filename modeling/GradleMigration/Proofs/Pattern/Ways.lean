import GradleMigration.Pattern.Run

/-
  The ways in which a pattern can match, in the order in which
  a run tries them.

  A run hands one way after another to what follows it, so it
  ends in the first way that what follows accepts.  Every way
  passes over some characters and adds some captures.

  Main declarations:
    * `Pattern.ways`
    * `Repetition.mem_lazyWays`
    * `Pattern.run_eq_findSome?_ways`
    * `Spot.Passes`
    * `Pattern.of_mem_one`, `Pattern.of_mem_anchor`,
      `Pattern.of_mem_ahead` and `Pattern.of_mem_behind`
    * `Pattern.leads_loop`
    * `Pattern.groupIndices`
    * `Pattern.passing_of_mem_ways`
-/

------------------------------------------------------------
-- Ways of a Repetition
------------------------------------------------------------

namespace GradleMigration

namespace Repetition

/- The ways through the required rounds. -/
def requiredWays
    (round : Spot → List Spot) : Nat → Spot → List Spot
| 0, s => [s]
| n + 1, s => (round s).flatMap (requiredWays round n)

/- The ways through further rounds, the longest first. -/
def greedyWays
    (round : Spot → List Spot) :
    (fuel : List Char) →
    (room last : Option Nat) → Spot → List Spot
| [], room, last, s =>
    if mayGoOn room last s then round s ++ [s] else [s]
| _ :: fuel, room, last, s =>
    if mayGoOn room last s then
      (round s).flatMap
        (greedyWays round fuel (useRoom room) (some s.pos)) ++
          [s]
    else
      [s]

/- The ways through further rounds, the shortest first. -/
def lazyWays
    (round : Spot → List Spot) :
    (fuel : List Char) →
    (room last : Option Nat) → Spot → List Spot
| [], room, last, s =>
    s :: if mayGoOn room last s then round s else []
| _ :: fuel, room, last, s =>
    s :: if mayGoOn room last s then
      (round s).flatMap
        (lazyWays round fuel (useRoom room) (some s.pos))
    else
      []

/- They are the same ways in another order. -/
theorem mem_lazyWays
    {round : Spot → List Spot}
    {fuel : List Char}
    {room last : Option Nat}
    {s t : Spot} :
    t ∈ lazyWays round fuel room last s ↔
      t ∈ greedyWays round fuel room last s := by
  induction fuel generalizing room last s with
  | nil =>
      rw [lazyWays, greedyWays]
      split
      · simp [or_comm]
      · rfl
  | cons c fuel ih =>
      rw [lazyWays, greedyWays]
      split
      · simp [ih, or_comm]
      · rfl

/- Trying the ways of ways one after another. -/
theorem findSome?_flatMap
    {α β γ : Type}
    (f : α → List β)
    (next : β → Option γ)
    (ways : List α) :
    (ways.flatMap f).findSome? next =
      ways.findSome? fun way => (f way).findSome? next := by
  induction ways with
  | nil => rfl
  | cons way rest ih =>
      rw [List.flatMap_cons, List.findSome?_append, ih,
        List.findSome?_cons]
      cases (f way).findSome? next with
      | none => rfl
      | some t => rfl

variable {round : Round} {ways : Spot → List Spot}

/- Required rounds try their ways in order. -/
theorem required_eq
    (hRound : ∀ s next, round s next = (ways s).findSome? next)
    (rest : Next)
    (n : Nat)
    (s : Spot) :
    required round rest n s =
      (requiredWays ways n s).findSome? rest := by
  induction n generalizing s with
  | zero => simp [required, requiredWays]
  | succ n ih =>
      rw [required, requiredWays, hRound, findSome?_flatMap]
      congr 1
      funext t
      exact ih t

/- Greedy rounds try their ways in order. -/
theorem greedy_eq
    (hRound : ∀ s next, round s next = (ways s).findSome? next)
    (next : Next)
    (fuel : List Char)
    (room last : Option Nat)
    (s : Spot) :
    greedy round next fuel room last s =
      (greedyWays ways fuel room last s).findSome? next := by
  induction fuel generalizing room last s with
  | nil =>
      rw [greedy, greedyWays]
      by_cases hMay : mayGoOn room last s = true
      · simp only [hMay, if_true, hRound,
          List.findSome?_append, List.findSome?_singleton]
        cases (ways s).findSome? next with
        | none => rfl
        | some t => rfl
      · simp [hMay]
  | cons c fuel ih =>
      rw [greedy, greedyWays]
      by_cases hMay : mayGoOn room last s = true
      · have hNext :
            greedy round next fuel (useRoom room)
                (some s.pos) =
              fun t => (greedyWays ways fuel (useRoom room)
                (some s.pos) t).findSome? next := by
          funext t
          exact ih _ _ t
        simp only [hMay, if_true, hRound, hNext,
          List.findSome?_append, findSome?_flatMap,
          List.findSome?_singleton]
        cases (ways s).findSome? fun t =>
            (greedyWays ways fuel (useRoom room)
              (some s.pos) t).findSome? next with
        | none => rfl
        | some t => rfl
      · simp [hMay]

/- Lazy rounds try their ways in order. -/
theorem lazy_eq
    (hRound : ∀ s next, round s next = (ways s).findSome? next)
    (next : Next)
    (fuel : List Char)
    (room last : Option Nat)
    (s : Spot) :
    lazy round next fuel room last s =
      (lazyWays ways fuel room last s).findSome? next := by
  induction fuel generalizing room last s with
  | nil =>
      rw [lazy, lazyWays, List.findSome?_cons]
      cases next s with
      | some t => rfl
      | none =>
          by_cases hMay : mayGoOn room last s = true
          · simp only [hMay, if_true, hRound]
          · simp [hMay]
  | cons c fuel ih =>
      have hNext :
          lazy round next fuel (useRoom room) (some s.pos) =
            fun t => (lazyWays ways fuel (useRoom room)
              (some s.pos) t).findSome? next := by
        funext t
        exact ih _ _ t
      rw [lazy, lazyWays, List.findSome?_cons]
      cases next s with
      | some t => rfl
      | none =>
          by_cases hMay : mayGoOn room last s = true
          · simp only [hMay, if_true, hRound,
              findSome?_flatMap, hNext]
          · simp [hMay]

end Repetition

end GradleMigration

------------------------------------------------------------
-- Ways of a Pattern
------------------------------------------------------------

namespace GradleMigration

namespace Pattern

/-
  The spots in which a pattern can end when it starts at a
  spot, the preferred one first.
-/
def ways : Pattern → Spot → List Spot
| .empty, s => [s]
| .one test, s =>
    match s.after with
    | [] => []
    | c :: rest =>
        if test.accepts c then [s.step c rest] else []
| .anchor a, s =>
    if a.holds s.before s.after then [s] else []
| .seq p q, s => (p.ways s).flatMap q.ways
| .alt p q, s => p.ways s ++ q.ways s
| .group index p, s =>
    (p.ways s).map fun t => t.capture index (s.textTo t)
| .loop bounds greed p, s =>
    let room := bounds.most.map (· - bounds.least)
    match greed with
    | .greedy =>
        (Repetition.requiredWays p.ways bounds.least s).flatMap
          fun t =>
            Repetition.greedyWays p.ways t.after room none t
    | .lazy =>
        (Repetition.requiredWays p.ways bounds.least s).flatMap
          fun t =>
            Repetition.lazyWays p.ways t.after room none t
    | .possessive =>
        let once := fun t => (p.ways t).head?
        match Repetition.requiredOnce once bounds.least s with
        | none => []
        | some t =>
            [Repetition.possessive once t.after room none t]
| .atomic p, s => (p.ways s).head?.toList
| .ahead negated p, s =>
    match (p.ways s).head? with
    | none => if negated then [s] else []
    | some t =>
        if negated then [] else [{ s with groups := t.groups }]
| .behind negated width p, s =>
    match (s.back width.least).bind
        fun t => (p.ways t).head? with
    | none => if negated then [s] else []
    | some t =>
        if negated then [] else [{ s with groups := t.groups }]
| .backref index folding, s =>
    ((s.groups.lookup index).bind
      (s.stepOver folding ·)).toList
| .ifGroup index present absent, s =>
    if (s.groups.lookup index).isSome then
      present.ways s
    else
      absent.ways s

/- The first way is the one that nothing follows. -/
theorem findSome?_some_eq_head?
    {α : Type}
    (ways : List α) :
    ways.findSome? some = ways.head? := by
  cases ways with
  | nil => rfl
  | cons way rest => rfl

/-
  A run of a pattern ends in the first of its ways that what
  follows accepts.
-/
theorem run_eq_findSome?_ways
    (p : Pattern)
    (s : Spot)
    (next : Repetition.Next) :
    p.run s next = (p.ways s).findSome? next := by
  induction p generalizing s next with
  | empty => simp [run, ways]
  | one test =>
      rw [run, ways]
      cases s.after with
      | nil => rfl
      | cons c rest =>
          by_cases hAccepts : test.accepts c = true
          · simp [hAccepts]
          · simp [hAccepts]
  | anchor a =>
      rw [run, ways]
      split
      · simp
      · rfl
  | seq p q ihP ihQ =>
      rw [run, ways, ihP, Repetition.findSome?_flatMap]
      congr 1
      funext t
      exact ihQ t next
  | alt p q ihP ihQ =>
      rw [run, ways, ihP, ihQ, List.findSome?_append]
      cases (p.ways s).findSome? next with
      | none => rfl
      | some t => rfl
  | group index p ih =>
      rw [run, ways, ih, List.findSome?_map]
      rfl
  | loop bounds greed p ih =>
      cases greed with
      | greedy =>
          simp only [run, ways, Repetition.required_eq ih,
            Repetition.greedy_eq ih,
            Repetition.findSome?_flatMap]
      | lazy =>
          simp only [run, ways, Repetition.required_eq ih,
            Repetition.lazy_eq ih,
            Repetition.findSome?_flatMap]
      | possessive =>
          simp only [run, ways, ih, findSome?_some_eq_head?]
          cases Repetition.requiredOnce
              (fun t => (p.ways t).head?) bounds.least s with
          | none => rfl
          | some t => simp
  | atomic p ih =>
      rw [run, ways, ih, findSome?_some_eq_head?]
      cases (p.ways s).head? with
      | none => rfl
      | some t => simp
  | ahead negated p ih =>
      rw [run, ways, ih, findSome?_some_eq_head?]
      cases (p.ways s).head? with
      | none => cases negated <;> simp
      | some t => cases negated <;> simp
  | behind negated width p ih =>
      have hBody :
          ((s.back width.least).bind (p.run · some)) =
            (s.back width.least).bind
              fun t => (p.ways t).head? := by
        congr 1
        funext t
        rw [ih, findSome?_some_eq_head?]
      rw [run, ways, hBody]
      cases ((s.back width.least).bind
          fun t => (p.ways t).head?) with
      | none => cases negated <;> simp
      | some t => cases negated <;> simp
  | backref index folding =>
      rw [run, ways]
      cases ((s.groups.lookup index).bind
          (s.stepOver folding ·)) with
      | none => rfl
      | some t => simp
  | ifGroup index present absent ihPresent ihAbsent =>
      rw [run, ways]
      split
      · exact ihPresent s next
      · exact ihAbsent s next

end Pattern

end GradleMigration

------------------------------------------------------------
-- What a Way Passes Over
------------------------------------------------------------

namespace GradleMigration

namespace Spot

/-
  From a spot to a later one some characters are passed over
  and some captures are added.
-/
structure Passes
    (s t : Spot)
    (text : List Char)
    (captured : List (Nat × List Char)) : Prop where
  after : s.after = text ++ t.after
  before : t.before = text.reverse ++ s.before
  pos : t.pos = s.pos + text.length
  groups : t.groups = captured ++ s.groups

/- Every spot passes over nothing to itself. -/
theorem Passes.refl
    (s : Spot) :
    s.Passes s [] [] where
  after := rfl
  before := rfl
  pos := rfl
  groups := rfl

/- What two stretches pass over one after the other. -/
theorem Passes.trans
    {s t u : Spot}
    {first second : List Char}
    {captured more : List (Nat × List Char)}
    (hFirst : s.Passes t first captured)
    (hSecond : t.Passes u second more) :
    s.Passes u (first ++ second) (more ++ captured) where
  after := by
    rw [hFirst.after, hSecond.after, List.append_assoc]
  before := by
    rw [hSecond.before, hFirst.before, List.reverse_append,
      List.append_assoc]
  pos := by
    rw [hSecond.pos, hFirst.pos, List.length_append,
      Nat.add_assoc]
  groups := by
    rw [hSecond.groups, hFirst.groups, List.append_assoc]

/- A step passes over its character. -/
theorem passes_step
    {s : Spot}
    {c : Char}
    {rest : List Char}
    (h : s.after = c :: rest) :
    s.Passes (s.step c rest) [c] [] where
  after := h
  before := rfl
  pos := rfl
  groups := rfl

/- The text between two spots is what is passed over. -/
theorem Passes.textTo_eq
    {s t : Spot}
    {text : List Char}
    {captured : List (Nat × List Char)}
    (h : s.Passes t text captured) :
    s.textTo t = text := by
  unfold textTo
  rw [h.before, h.pos, Nat.add_sub_cancel_left]
  simp

/- Remembering a capture moves nothing. -/
theorem Passes.capture
    {s t : Spot}
    {text : List Char}
    {captured : List (Nat × List Char)}
    (h : s.Passes t text captured)
    (index : Nat)
    (what : List Char) :
    s.Passes (t.capture index what) text
      ((index, what) :: captured) where
  after := h.after
  before := h.before
  pos := h.pos
  groups := by
    rw [Spot.capture, h.groups]
    rfl

/- Looking back finds the same captures. -/
theorem groups_back
    {count : Nat}
    {s t : Spot}
    (h : s.back count = some t) :
    t.groups = s.groups := by
  induction count generalizing s with
  | zero =>
      cases h
      rfl
  | succ count ih =>
      unfold back at h
      split at h
      · cases h
      · have hGroups := ih h
        exact hGroups

/- Stepping over a text passes over as much. -/
theorem passes_stepOver
    {folding : Folding}
    {text : List Char}
    {s t : Spot}
    (h : s.stepOver folding text = some t) :
    ∃ passed, s.Passes t passed [] := by
  induction text generalizing s with
  | nil =>
      cases h
      exact ⟨[], .refl _⟩
  | cons c text ih =>
      unfold stepOver at h
      split at h
      · cases h
      · next d rest hAfter =>
          split at h
          · rcases ih h with ⟨passed, hPassed⟩
            exact ⟨_, (passes_step hAfter).trans hPassed⟩
          · cases h

end Spot

namespace Repetition

/- Every way leads to a spot that is in a relation. -/
def Leads
    (R : Spot → Spot → Prop)
    (ways : Spot → List Spot) : Prop :=
  ∀ s, ∀ t ∈ ways s, R s t

/- A relation that holds over any number of rounds. -/
structure Chains
    (R : Spot → Spot → Prop) : Prop where
  refl : ∀ s, R s s
  trans : ∀ {s t u}, R s t → R t u → R s u

variable {R : Spot → Spot → Prop}
variable {ways : Spot → List Spot}

theorem leads_requiredWays
    (hR : Chains R)
    (h : Leads R ways)
    (n : Nat) :
    Leads R (requiredWays ways n) := by
  induction n with
  | zero =>
      intro s t hT
      cases List.mem_singleton.mp hT
      exact hR.refl _
  | succ n ih =>
      intro s t hT
      rcases List.mem_flatMap.mp hT with ⟨u, hU, hT⟩
      exact hR.trans (h s u hU) (ih u t hT)

theorem leads_greedyWays
    (hR : Chains R)
    (h : Leads R ways)
    (fuel : List Char)
    (room last : Option Nat) :
    Leads R (greedyWays ways fuel room last) := by
  induction fuel generalizing room last with
  | nil =>
      intro s t hT
      rw [greedyWays] at hT
      split at hT
      · rcases List.mem_append.mp hT with hRound | hStop
        · exact h s t hRound
        · cases List.mem_singleton.mp hStop
          exact hR.refl _
      · cases List.mem_singleton.mp hT
        exact hR.refl _
  | cons c fuel ih =>
      intro s t hT
      rw [greedyWays] at hT
      split at hT
      · rcases List.mem_append.mp hT with hRound | hStop
        · rcases List.mem_flatMap.mp hRound with ⟨u, hU, hT⟩
          exact hR.trans (h s u hU) (ih _ _ u t hT)
        · cases List.mem_singleton.mp hStop
          exact hR.refl _
      · cases List.mem_singleton.mp hT
        exact hR.refl _

theorem related_of_requiredOnce
    (hR : Chains R)
    (h : Leads R ways)
    {n : Nat}
    {s t : Spot}
    (hT : requiredOnce (fun u => (ways u).head?) n s = some t) :
    R s t := by
  induction n generalizing s with
  | zero =>
      cases hT
      exact hR.refl _
  | succ n ih =>
      unfold requiredOnce at hT
      split at hT
      · cases hT
      · next u hU =>
          exact hR.trans (h s u (List.mem_of_head? hU)) (ih hT)

theorem related_possessive
    (hR : Chains R)
    (h : Leads R ways)
    (fuel : List Char)
    (room last : Option Nat)
    (s : Spot) :
    R s
      (possessive (fun u => (ways u).head?) fuel room last s) := by
  induction fuel generalizing room last s with
  | nil =>
      rw [possessive]
      split
      · cases hHead : (ways s).head? with
        | none => exact hR.refl _
        | some u => exact h s u (List.mem_of_head? hHead)
      · exact hR.refl _
  | cons c fuel ih =>
      rw [possessive]
      split
      · split
        · exact hR.refl _
        · next u hHead =>
            exact hR.trans (h s u (List.mem_of_head? hHead))
              (ih (useRoom room) (some s.pos) u)
      · exact hR.refl _

end Repetition

namespace Pattern

/- One character that the test accepts. -/
theorem of_mem_one
    {test : CharTest}
    {s t : Spot}
    (h : t ∈ (Pattern.one test).ways s) :
    ∃ c rest, s.after = c :: rest ∧
      test.accepts c = true ∧ t = s.step c rest := by
  rw [ways] at h
  split at h
  · cases h
  · next c rest hAfter =>
      split at h
      · next hAccepts =>
          exact ⟨c, rest, hAfter, hAccepts,
            List.mem_singleton.mp h⟩
      · cases h

theorem passes_of_mem_one
    {test : CharTest}
    {s t : Spot}
    (h : t ∈ (Pattern.one test).ways s) :
    ∃ c, test.accepts c = true ∧ s.Passes t [c] [] := by
  rcases of_mem_one h with ⟨c, rest, hAfter, hAccepts, hT⟩
  subst hT
  exact ⟨c, hAccepts, Spot.passes_step hAfter⟩

/- An anchor holds where it has a way. -/
theorem of_mem_anchor
    {a : Anchor}
    {s t : Spot}
    (h : t ∈ (Pattern.anchor a).ways s) :
    t = s ∧ a.holds s.before s.after = true := by
  rw [ways] at h
  split at h
  · next hHolds => exact ⟨List.mem_singleton.mp h, hHolds⟩
  · cases h

/- What must not follow has no way. -/
theorem of_mem_ahead_not
    {p : Pattern}
    {s t : Spot}
    (h : t ∈ (Pattern.ahead true p).ways s) :
    t = s ∧ p.ways s = [] := by
  rw [ways] at h
  split at h
  · next hNone =>
      exact ⟨List.mem_singleton.mp h,
        List.head?_eq_none_iff.mp hNone⟩
  · cases h

/- What must follow has a way, which is not passed over. -/
theorem of_mem_ahead
    {p : Pattern}
    {s t : Spot}
    (h : t ∈ (Pattern.ahead false p).ways s) :
    ∃ u ∈ p.ways s, t = { s with groups := u.groups } := by
  rw [ways] at h
  split at h
  · cases h
  · next u hU =>
      exact ⟨u, List.mem_of_head? hU, List.mem_singleton.mp h⟩

/- A look behind moves nothing, and may have captured. -/
theorem of_mem_behind
    {negated : Bool}
    {width : Width}
    {p : Pattern}
    {s t : Spot}
    (h : t ∈ (Pattern.behind negated width p).ways s) :
    t = s ∨ ∃ start, s.back width.least = some start ∧
      ∃ u ∈ p.ways start, t = { s with groups := u.groups } := by
  rw [ways] at h
  split at h
  · split at h
    · exact Or.inl (List.mem_singleton.mp h)
    · cases h
  · next u hU =>
      split at h
      · cases h
      · rcases Option.bind_eq_some_iff.mp hU with
          ⟨start, hStart, hHead⟩
        exact Or.inr ⟨start, hStart, u, List.mem_of_head? hHead,
          List.mem_singleton.mp h⟩

/- A reference passes over a text and captures nothing. -/
theorem passes_of_mem_backref
    {index : Nat}
    {folding : Folding}
    {s t : Spot}
    (h : t ∈ (Pattern.backref index folding).ways s) :
    ∃ passed, s.Passes t passed [] := by
  rcases Option.bind_eq_some_iff.mp
      (Option.mem_toList.mp h) with
    ⟨text, _, hOver⟩
  exact Spot.passes_stepOver hOver

/- One of the two branches of a condition is taken. -/
theorem mem_or_mem_of_mem_ifGroup
    {index : Nat}
    {present absent : Pattern}
    {s t : Spot}
    (h : t ∈ (Pattern.ifGroup index present absent).ways s) :
    t ∈ present.ways s ∨ t ∈ absent.ways s := by
  rw [ways] at h
  split at h
  · exact Or.inl h
  · exact Or.inr h

/- A lazy repetition has the ways of a greedy one. -/
theorem mem_ways_lazy
    {bounds : Bounds}
    {p : Pattern}
    {s t : Spot} :
    t ∈ (Pattern.loop bounds .lazy p).ways s ↔
      t ∈ (Pattern.loop bounds .greedy p).ways s := by
  simp only [ways, List.mem_flatMap, Repetition.mem_lazyWays]

/- What holds over every round holds over a repetition. -/
theorem leads_loop
    {R : Spot → Spot → Prop}
    (hR : Repetition.Chains R)
    {p : Pattern}
    (h : Repetition.Leads R p.ways)
    (bounds : Bounds)
    (greed : Greed) :
    Repetition.Leads R (Pattern.loop bounds greed p).ways := by
  have hGreedy : Repetition.Leads R
      (Pattern.loop bounds .greedy p).ways := by
    intro s t hT
    rcases List.mem_flatMap.mp hT with ⟨u, hU, hT⟩
    exact hR.trans
      (Repetition.leads_requiredWays hR h _ s u hU)
      (Repetition.leads_greedyWays hR h _ _ _ u t hT)
  intro s t hT
  cases greed with
  | greedy => exact hGreedy s t hT
  | lazy => exact hGreedy s t (mem_ways_lazy.mp hT)
  | possessive =>
      simp only [ways] at hT
      split at hT
      · cases hT
      · next u hU =>
          cases List.mem_singleton.mp hT
          exact hR.trans
            (Repetition.related_of_requiredOnce hR h hU)
            (Repetition.related_possessive hR h _ _ _ u)

/- An optional part is matched once or not at all. -/
theorem mem_ways_optional
    {p : Pattern}
    {s t : Spot}
    (h : t ∈ (Pattern.loop ⟨0, some 1⟩ .greedy p).ways s) :
    t = s ∨ t ∈ p.ways s := by
  rcases List.mem_flatMap.mp h with ⟨u, hU, hT⟩
  cases List.mem_singleton.mp hU
  cases hAfter : s.after with
  | nil =>
      rw [hAfter] at hT
      rcases List.mem_append.mp hT with hRound | hStop
      · exact Or.inr hRound
      · exact Or.inl (List.mem_singleton.mp hStop)
  | cons c rest =>
      rw [hAfter] at hT
      rcases List.mem_append.mp hT with hRound | hStop
      · rcases List.mem_flatMap.mp hRound with ⟨v, hV, hT⟩
        -- There is no room for a second round.
        have hEnd :
            Repetition.greedyWays p.ways rest (some 0)
              (some s.pos) v = [v] := by
          cases rest with
          | nil => rfl
          | cons d rest => rfl
        have hV' : t ∈ [v] := hEnd ▸ hT
        cases List.mem_singleton.mp hV'
        exact Or.inr hV
      · exact Or.inl (List.mem_singleton.mp hStop)

/- The groups of a pattern, the later ones first. -/
def groupIndices : Pattern → List Nat
| .seq p q => q.groupIndices ++ p.groupIndices
| .alt p q => p.groupIndices ++ q.groupIndices
| .group index p => index :: p.groupIndices
| .loop _ _ p => p.groupIndices
| .atomic p => p.groupIndices
| .ahead _ p => p.groupIndices
| .behind _ _ p => p.groupIndices
| .ifGroup _ p q => p.groupIndices ++ q.groupIndices
| _ => []

/-
  Between two spots some characters are passed over and some
  of the given groups are captured.
-/
def Passing
    (indices : List Nat)
    (s t : Spot) : Prop :=
  ∃ text captured, s.Passes t text captured ∧
    captured.map (·.1) ⊆ indices

/- Passing over characters chains. -/
theorem chains_passing
    (indices : List Nat) :
    Repetition.Chains (Passing indices) where
  refl s := ⟨[], [], .refl s, List.nil_subset _⟩
  trans h k := by
    rcases h with ⟨first, captured, hFirst, hCaptured⟩
    rcases k with ⟨second, later, hSecond, hLater⟩
    refine ⟨_, _, hFirst.trans hSecond, ?_⟩
    rw [List.map_append]
    exact List.append_subset.mpr ⟨hLater, hCaptured⟩

theorem Passing.mono
    {few many : List Nat}
    {s t : Spot}
    (h : Passing few s t)
    (hIndices : few ⊆ many) :
    Passing many s t := by
  rcases h with ⟨text, captured, hText, hCaptured⟩
  exact ⟨text, captured, hText,
    List.Subset.trans hCaptured hIndices⟩

/-
  Every way of a pattern passes over some characters and
  captures some of its groups; a look around passes over
  nothing.
-/
theorem passing_of_mem_ways
    (p : Pattern) :
    Repetition.Leads (Passing p.groupIndices) p.ways := by
  induction p with
  | empty =>
      intro s t hT
      cases List.mem_singleton.mp hT
      exact (chains_passing _).refl s
  | one test =>
      intro s t hT
      rcases passes_of_mem_one hT with ⟨c, _, hPasses⟩
      exact ⟨_, _, hPasses, List.nil_subset _⟩
  | anchor a =>
      intro s t hT
      cases (of_mem_anchor hT).1
      exact (chains_passing _).refl s
  | seq p q ihP ihQ =>
      intro s t hT
      rcases List.mem_flatMap.mp hT with ⟨u, hU, hT⟩
      exact (chains_passing _).trans
        ((ihP s u hU).mono (List.subset_append_right _ _))
        ((ihQ u t hT).mono (List.subset_append_left _ _))
  | alt p q ihP ihQ =>
      intro s t hT
      rcases List.mem_append.mp hT with hP | hQ
      · exact (ihP s t hP).mono (List.subset_append_left _ _)
      · exact (ihQ s t hQ).mono (List.subset_append_right _ _)
  | group index p ih =>
      intro s t hT
      rcases List.mem_map.mp hT with ⟨u, hU, hEq⟩
      rcases ih s u hU with ⟨text, captured, hText, hCaptured⟩
      subst hEq
      refine ⟨_, _, hText.capture index _, ?_⟩
      exact List.cons_subset_cons index hCaptured
  | loop bounds greed p ih =>
      exact leads_loop (chains_passing _) ih bounds greed
  | atomic p ih =>
      intro s t hT
      exact ih s t
        (List.mem_of_head? (Option.mem_toList.mp hT))
  | ahead negated p ih =>
      intro s t hT
      cases negated with
      | true =>
          cases (of_mem_ahead_not hT).1
          exact (chains_passing _).refl s
      | false =>
          rcases of_mem_ahead hT with ⟨u, hU, hEq⟩
          subst hEq
          rcases ih s u hU with
            ⟨text, captured, hText, hCaptured⟩
          exact ⟨[], captured,
            ⟨rfl, rfl, rfl, hText.groups⟩, hCaptured⟩
  | behind negated width p ih =>
      intro s t hT
      rcases of_mem_behind hT with
        hSame | ⟨start, hStart, u, hU, hEq⟩
      · subst hSame
        exact (chains_passing _).refl t
      · subst hEq
        rcases ih start u hU with
          ⟨text, captured, hText, hCaptured⟩
        refine ⟨[], captured, ⟨rfl, rfl, rfl, ?_⟩, hCaptured⟩
        rw [hText.groups, Spot.groups_back hStart]
  | backref index folding =>
      intro s t hT
      rcases passes_of_mem_backref hT with ⟨passed, hPassed⟩
      exact ⟨_, _, hPassed, List.nil_subset _⟩
  | ifGroup index present absent ihPresent ihAbsent =>
      intro s t hT
      rcases mem_or_mem_of_mem_ifGroup hT with
        hPresent | hAbsent
      · exact (ihPresent s t hPresent).mono
          (List.subset_append_left _ _)
      · exact (ihAbsent s t hAbsent).mono
          (List.subset_append_right _ _)

end Pattern

end GradleMigration
