import GradleMigration.Proofs.Pattern.Rewriting

/-
  What a pattern captures is made of the characters of the
  text, and so is what comes in the place of a hit, up to the
  characters of the template.

  Main declarations:
    * `Spot.MadeOf`
    * `Pattern.madeOf_of_mem_ways`
    * `expand_madeOf`
    * `Pattern.forall_mem_rewriteFrom`
-/

------------------------------------------------------------
-- Spots and Their Characters
------------------------------------------------------------

namespace GradleMigration

/- All characters around and captured at a spot are allowed. -/
structure Spot.MadeOf
    (ok : Char → Prop)
    (s : Spot) : Prop where
  before : ∀ c ∈ s.before, ok c
  after : ∀ c ∈ s.after, ok c
  groups : ∀ entry ∈ s.groups, ∀ c ∈ entry.2, ok c

namespace Spot

variable {ok : Char → Prop} {s t : Spot}

/- Passing over characters adds none. -/
theorem Passes.madeOf
    {text : List Char}
    {captured : List (Nat × List Char)}
    (h : s.Passes t text captured)
    (hS : s.MadeOf ok)
    (hCaptured : ∀ entry ∈ captured, ∀ c ∈ entry.2, ok c) :
    t.MadeOf ok where
  before := by
    intro c hC
    rw [h.before, List.mem_append, List.mem_reverse] at hC
    rcases hC with hPassed | hBefore
    · apply hS.after
      rw [h.after]
      exact List.mem_append_left _ hPassed
    · exact hS.before c hBefore
  after := by
    intro c hC
    apply hS.after
    rw [h.after]
    exact List.mem_append_right _ hC
  groups := by
    intro entry hEntry
    rw [h.groups] at hEntry
    rcases List.mem_append.mp hEntry with hNew | hOld
    · exact hCaptured entry hNew
    · exact hS.groups entry hOld

/- The text between two spots has no other characters. -/
theorem MadeOf.textTo
    (h : t.MadeOf ok)
    (s : Spot) :
    ∀ c ∈ s.textTo t, ok c := by
  intro c hC
  unfold Spot.textTo at hC
  rw [List.mem_reverse] at hC
  exact h.before c (List.mem_of_mem_take hC)

theorem MadeOf.capture
    (h : s.MadeOf ok)
    {text : List Char}
    (hText : ∀ c ∈ text, ok c)
    (index : Nat) :
    (s.capture index text).MadeOf ok where
  before := h.before
  after := h.after
  groups := List.forall_mem_cons.mpr ⟨hText, h.groups⟩

theorem MadeOf.back
    (h : s.MadeOf ok)
    {count : Nat}
    (hBack : s.back count = some t) :
    t.MadeOf ok := by
  induction count generalizing s with
  | zero =>
      cases hBack
      exact h
  | succ count ih =>
      unfold Spot.back at hBack
      split at hBack
      · cases hBack
      · next c before hBefore =>
          have hParts := h.before
          rw [hBefore, List.forall_mem_cons] at hParts
          have hAfter : ∀ d ∈ c :: s.after, ok d :=
            List.forall_mem_cons.mpr ⟨hParts.1, h.after⟩
          have hStep : Spot.MadeOf ok
              ⟨before, c :: s.after, s.pos - 1, s.groups⟩ :=
            ⟨hParts.2, hAfter, h.groups⟩
          exact ih hStep hBack

end Spot

namespace Pattern

variable {ok : Char → Prop}

theorem chains_madeOf
    (ok : Char → Prop) :
    Repetition.Chains fun s t => s.MadeOf ok → t.MadeOf ok where
  refl _ := id
  trans h k := k ∘ h

/- A pattern captures characters of the text. -/
theorem madeOf_of_mem_ways
    (p : Pattern) :
    Repetition.Leads (fun s t => s.MadeOf ok → t.MadeOf ok)
      p.ways := by
  induction p with
  | empty =>
      intro s t hT hS
      cases List.mem_singleton.mp hT
      exact hS
  | one test =>
      intro s t hT hS
      rcases passes_of_mem_one hT with ⟨c, _, hPasses⟩
      exact hPasses.madeOf hS (by simp)
  | anchor a =>
      intro s t hT hS
      cases (of_mem_anchor hT).1
      exact hS
  | seq p q ihP ihQ =>
      intro s t hT hS
      rcases List.mem_flatMap.mp hT with ⟨u, hU, hT⟩
      exact ihQ u t hT (ihP s u hU hS)
  | alt p q ihP ihQ =>
      intro s t hT
      rcases List.mem_append.mp hT with hP | hQ
      · exact ihP s t hP
      · exact ihQ s t hQ
  | group index p ih =>
      intro s t hT hS
      rcases List.mem_map.mp hT with ⟨u, hU, hEq⟩
      subst hEq
      have hInside := ih s u hU hS
      exact hInside.capture (hInside.textTo s) index
  | loop bounds greed p ih =>
      exact leads_loop (chains_madeOf ok) ih bounds greed
  | atomic p ih =>
      intro s t hT
      exact ih s t
        (List.mem_of_head? (Option.mem_toList.mp hT))
  | ahead negated p ih =>
      intro s t hT hS
      cases negated with
      | true =>
          cases (of_mem_ahead_not hT).1
          exact hS
      | false =>
          rcases of_mem_ahead hT with ⟨u, hU, hEq⟩
          subst hEq
          exact ⟨hS.before, hS.after, (ih s u hU hS).groups⟩
  | behind negated width p ih =>
      intro s t hT hS
      rcases of_mem_behind hT with
        hSame | ⟨start, hStart, u, hU, hEq⟩
      · subst hSame
        exact hS
      · subst hEq
        have hBehind := ih start u hU (hS.back hStart)
        exact ⟨hS.before, hS.after, hBehind.groups⟩
  | backref index folding =>
      intro s t hT hS
      rcases passes_of_mem_backref hT with ⟨passed, hPassed⟩
      exact hPassed.madeOf hS (by simp)
  | ifGroup index present absent ihPresent ihAbsent =>
      intro s t hT
      rcases mem_or_mem_of_mem_ifGroup hT with
        hPresent | hAbsent
      · exact ihPresent s t hPresent
      · exact ihAbsent s t hAbsent

end Pattern

end GradleMigration

------------------------------------------------------------
-- Rewritten Texts
------------------------------------------------------------

namespace GradleMigration

variable {ok : Char → Prop}

/- The characters that a template brings are allowed. -/
def TemplatePart.MadeOf
    (ok : Char → Prop) : TemplatePart → Prop
| .literal text => ∀ c ∈ text, ok c
| .group _ => True

instance
    (ok : Char → Prop)
    [DecidablePred ok] :
    DecidablePred (TemplatePart.MadeOf ok)
| .literal text => List.decidableBAll ok text
| .group _ => .isTrue trivial

/- What comes in the place of a hit. -/
theorem expand_madeOf
    {template : List TemplatePart}
    (hTemplate : ∀ part ∈ template, part.MadeOf ok)
    {s t : Spot}
    (h : t.MadeOf ok) :
    ∀ c ∈ expand template (.between s t), ok c := by
  intro c hC
  rcases List.mem_flatMap.mp hC with ⟨part, hPart, hIn⟩
  cases part with
  | literal text => exact hTemplate _ hPart c hIn
  | group index =>
      simp only [Hit.group, Hit.between] at hIn
      split at hIn
      · exact h.textTo s c hIn
      · cases hLookup : t.groups.lookup index with
        | none =>
            rw [hLookup] at hIn
            cases hIn
        | some text =>
            rw [hLookup] at hIn
            rcases List.lookup_eq_some_iff.mp hLookup with
              ⟨newer, older, hGroups, _⟩
            apply h.groups (index, text) _ c hIn
            rw [hGroups]
            exact List.mem_append_right _ List.mem_cons_self

/- Rewriting brings the characters of the template only. -/
theorem Pattern.forall_mem_rewriteFrom
    {p : Pattern}
    {template : List TemplatePart}
    (hTemplate : ∀ part ∈ template, part.MadeOf ok)
    {skip : Nat}
    {before text : List Char}
    (hBefore : ∀ c ∈ before, ok c)
    (hText : ∀ c ∈ text, ok c) :
    ∀ c ∈ p.rewriteFrom (expand template) skip before text,
      ok c := by
  induction text generalizing skip before with
  | nil =>
      cases skip with
      | zero => simp [rewriteFrom]
      | succ skip => simp [rewriteFrom]
  | cons d rest ih =>
      rw [List.forall_mem_cons] at hText
      have hNext : ∀ c ∈ d :: before, ok c :=
        List.forall_mem_cons.mpr ⟨hText.1, hBefore⟩
      cases skip with
      | succ skip =>
          rw [rewriteFrom]
          exact ih hNext hText.2
      | zero =>
          rw [rewriteFrom]
          split
          · exact List.forall_mem_cons.mpr
              ⟨hText.1, ih hNext hText.2⟩
          · next t hHead =>
              have hSpot :
                  (spotAt before (d :: rest)).MadeOf ok :=
                ⟨hBefore, List.forall_mem_cons.mpr hText,
                  by simp [spotAt]⟩
              have hEnd := p.madeOf_of_mem_ways _ _
                (List.mem_of_head? hHead) hSpot
              exact List.forall_mem_append.mpr
                ⟨expand_madeOf hTemplate hEnd,
                  ih hNext hText.2⟩

end GradleMigration
