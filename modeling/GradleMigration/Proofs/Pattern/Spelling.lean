import GradleMigration.Proofs.Pattern.Hits

/-
  What the ways of simple patterns pass over: a text that is
  spelled out, and characters of one kind.  What is replaced
  then is put together from such texts.

  Main declarations:
    * `Pattern.letter` and `Pattern.spelled`
    * `Pattern.passes_of_mem_spelled`
    * `Pattern.passes_of_mem_repeated`
    * `Pattern.passes_of_mem_group`
    * `expand_literals`
-/

------------------------------------------------------------
-- Spelled Texts
------------------------------------------------------------

namespace GradleMigration

namespace Pattern

/- One given character. -/
def letter
    (c : Char) : Pattern :=
  .one ⟨false, [.char c], .exact⟩

/- A character of a line. -/
def inLine : Pattern :=
  .one ⟨true, [.char '\r', .char '\n'], .exact⟩

/- A given text, and a pattern behind it. -/
def spelled
    (text : List Char)
    (p : Pattern) : Pattern :=
  text.foldr (fun c q => .seq (.letter c) q) p

/- A letter accepts itself only. -/
theorem accepts_letter
    {c d : Char} :
    (⟨false, [.char c], .exact⟩ : CharTest).accepts d = true ↔
      d = c := by
  simp [CharTest.accepts, SetItem.accepts, Folding.same]

theorem passes_of_mem_letter
    {c : Char}
    {s t : Spot}
    (h : t ∈ (letter c).ways s) :
    s.Passes t [c] [] := by
  rcases passes_of_mem_one h with ⟨d, hAccepts, hPasses⟩
  cases accepts_letter.mp hAccepts
  exact hPasses

/- A letter has no way only where it is not next. -/
theorem head?_ne_of_letter
    {c : Char}
    {s : Spot}
    (h : (letter c).ways s = []) :
    s.after.head? ≠ some c := by
  intro hHead
  rcases List.head?_eq_some_iff.mp hHead with ⟨rest, hAfter⟩
  unfold letter at h
  rw [ways] at h
  simp only [hAfter, accepts_letter.mpr rfl] at h
  cases h

/- A spelled text is passed over before what follows it. -/
theorem passes_of_mem_spelled
    {text : List Char}
    {p : Pattern}
    {s t : Spot}
    (h : t ∈ (spelled text p).ways s) :
    ∃ u, s.Passes u text [] ∧ t ∈ p.ways u := by
  induction text generalizing s with
  | nil => exact ⟨s, .refl s, h⟩
  | cons c rest ih =>
      rcases List.mem_flatMap.mp h with ⟨v, hV, hT⟩
      rcases ih hT with ⟨u, hU, hT⟩
      exact ⟨u, (passes_of_mem_letter hV).trans hU, hT⟩

end Pattern

end GradleMigration

------------------------------------------------------------
-- Repeated Characters and Groups
------------------------------------------------------------

namespace GradleMigration

namespace Pattern

/- Passing over characters of one kind chains. -/
theorem chains_passes_all
    (test : CharTest) :
    Repetition.Chains fun s t =>
      ∃ text, text.all test.accepts = true ∧
        s.Passes t text [] where
  refl s := ⟨[], rfl, .refl s⟩
  trans h k := by
    rcases h with ⟨first, hFirst, hS⟩
    rcases k with ⟨second, hSecond, hT⟩
    refine ⟨first ++ second, ?_, hS.trans hT⟩
    rw [List.all_append, hFirst, hSecond]
    rfl

/- Repeated characters are passed over. -/
theorem passes_of_mem_repeated
    {test : CharTest}
    {bounds : Bounds}
    {greed : Greed}
    {s t : Spot}
    (h : t ∈ (Pattern.loop bounds greed (.one test)).ways s) :
    ∃ text, text.all test.accepts = true ∧
      s.Passes t text [] := by
  refine leads_loop (chains_passes_all test) ?_ bounds greed
    s t h
  intro s t hT
  rcases passes_of_mem_one hT with ⟨c, hAccepts, hPasses⟩
  exact ⟨[c], by simp [hAccepts], hPasses⟩

/- A group keeps what its body passes over. -/
theorem passes_of_mem_group
    {index : Nat}
    {p : Pattern}
    {s t : Spot}
    (h : t ∈ (Pattern.group index p).ways s) :
    ∃ u ∈ p.ways s, ∀ text captured,
      s.Passes u text captured →
        s.Passes t text ((index, text) :: captured) := by
  rcases List.mem_map.mp h with ⟨u, hU, hEq⟩
  subst hEq
  refine ⟨u, hU, ?_⟩
  intro text captured hPasses
  rw [hPasses.textTo_eq]
  exact hPasses.capture index text

end Pattern

end GradleMigration

------------------------------------------------------------
-- Templates
------------------------------------------------------------

namespace GradleMigration

/- A text as it stands in a template. -/
def literals
    (text : List Char) : List TemplatePart :=
  text.map fun c => .literal [c]

variable {hit : Hit}

@[simp] theorem expand_append
    (first second : List TemplatePart) :
    expand (first ++ second) hit =
      expand first hit ++ expand second hit :=
  List.flatMap_append

@[simp] theorem expand_literals
    (text : List Char) :
    expand (literals text) hit = text := by
  induction text with
  | nil => rfl
  | cons c rest ih => exact congrArg (c :: ·) ih

@[simp] theorem expand_group
    (index : Nat)
    (rest : List TemplatePart) :
    expand (.group index :: rest) hit =
      hit.group index ++ expand rest hit :=
  rfl

end GradleMigration
