import GradleMigration.Proofs.Script.Depth
import GradleMigration.Proofs.Script.Starts

/-
  What migrating the tasks of a text does, from header to
  header.

  The last task comes first, so the body of a header has been
  migrated when its closing brace is looked for.  A header
  whose body is not closed stays.

  Main declarations:
    * `Sweep`
    * `Sweep.foldr_migrateTask`
    * `migrateTasks_of_sweep`
    * `sweep_migrateTasks`
-/

------------------------------------------------------------
-- Header by Header
------------------------------------------------------------

namespace GradleMigration

namespace Script

/-
  A text and what migrating its tasks, the last first, makes
  of it.
-/
inductive Sweep : Bool → List Char → List Char → Prop
| done (insideWord : Bool) : Sweep insideWord [] []
| step
    {insideWord : Bool}
    {c : Char}
    {rest out : List Char}
    (noHead : insideWord = false →
      closureHeader (c :: rest) = none)
    (more : Sweep (Text.isWord c) rest out) :
    Sweep insideWord (c :: rest) (c :: out)
| closed
    {body inside back : List Char}
    (head : ShiftHead)
    (more : Sweep false body (inside ++ '\x7d' :: back))
    (block : Passage ('\x7d' :: back) 0 inside 0) :
    Sweep false (head.render ++ body)
      (newHeader head.name ++
        (inside ++ '\x7d' :: ' ' :: '\x7d' :: back))
| unclosed
    {body out : List Char}
    (head : ShiftHead)
    (more : Sweep false body out)
    (noEnd : blockEndFrom 0 1 0 out = none) :
    Sweep false (head.render ++ body) (head.render ++ out)

/- A task whose body is not closed is left as it is. -/
theorem migrateTask_of_unclosed
    (front : List Char)
    (head : ShiftHead)
    {body : List Char}
    (h : blockEndFrom 0 1 0 body = none) :
    migrateTask ⟨front.length, head.name, head.render.length⟩
        (front ++ (head.render ++ body)) =
      front ++ (head.render ++ body) := by
  have hOpened :
      front ++ (head.render ++ body) =
        (front ++ head.front) ++ '\x7b' :: body := by
    simp [ShiftHead.render]
  have hStop :
      front.length + head.render.length - 1 =
        (front ++ head.front).length := by
    simp [ShiftHead.render]
  have hNone :
      closingBrace (front ++ (head.render ++ body))
        (front.length + head.render.length - 1) = none := by
    unfold closingBrace
    rw [hStop, hOpened, List.drop_left, blockEndFrom,
      if_pos rfl]
    exact blockEndFrom_eq_none_iff.mpr
      (blockEndFrom_eq_none_iff.mp h)
  unfold migrateTask TaskHeader.stop
  simp only
  rw [hNone]

namespace Sweep

variable {insideWord : Bool} {text out : List Char}

/- The first character of a text stays. -/
theorem head?_eq
    (h : Sweep insideWord text out) :
    out.head? = text.head? := by
  cases h with
  | done => rfl
  | step => rfl
  | closed => rfl
  | unclosed => rfl

/- A part without headers stays as it is. -/
theorem headFree_append
    {part : List Char}
    (hPart : HeadFree insideWord text part)
    (h : Sweep (insideAfter insideWord part) text out) :
    Sweep insideWord (part ++ text) (part ++ out) := by
  induction part generalizing insideWord with
  | nil => exact h
  | cons c rest ih =>
      rw [insideAfter_cons] at h
      exact .step hPart.1 (ih hPart.2 h)

/-
  Migrating the tasks of a text, the last first, in any
  surroundings.
-/
theorem foldr_migrateTask
    (h : Sweep insideWord text out)
    (front : List Char) :
    (headersFrom 0 insideWord front.length text).foldr
        migrateTask (front ++ text) =
      front ++ out := by
  induction h generalizing front with
  | done insideWord => rfl
  | @step insideWord c rest out hNone _ ih =>
      have hFree : HeadFree insideWord rest [c] :=
        ⟨hNone, trivial⟩
      have hHere := hFree.headersFrom_append front.length
      have hMore := ih (front ++ [c])
      rw [List.singleton_append] at hHere
      rw [hHere]
      simpa [insideAfter] using hMore
  | @closed body inside back head _ hBlock ih =>
      have hMore := ih (front ++ head.render)
      have hPassed : IsPassed 1 inside ('\x7d' :: back) :=
        fun pos => hBlock.blockEndFrom_append pos
      have hTask := migrateTask_of_isPassed hPassed front head
      rw [List.append_assoc, List.append_assoc,
        List.length_append] at hMore
      rw [List.append_assoc] at hTask
      rw [headersFrom_render, List.foldr_cons, hMore, hTask]
      simp
  | @unclosed body out head _ hEnd ih =>
      have hMore := ih (front ++ head.render)
      rw [List.append_assoc, List.append_assoc,
        List.length_append] at hMore
      rw [headersFrom_render, List.foldr_cons, hMore,
        migrateTask_of_unclosed front head hEnd]

end Sweep

/- A header has characters. -/
theorem ShiftHead.length_lt
    (head : ShiftHead)
    (body : List Char) :
    body.length < (head.render ++ body).length := by
  simp only [ShiftHead.render, List.length_append,
    List.length_singleton]
  omega

/- A text that may start with a header does so or does not. -/
theorem head_cases
    (insideWord : Bool)
    (text : List Char) :
    (∃ (head : ShiftHead) (body : List Char),
      insideWord = false ∧ text = head.render ++ body) ∨
        (insideWord = false → closureHeader text = none) := by
  by_cases hHead :
      ∃ (head : ShiftHead) (body : List Char),
        insideWord = false ∧ text = head.render ++ body
  · exact Or.inl hHead
  · right
    intro hOutside
    rw [closureHeader_eq_none_iff]
    intro head body hText
    exact hHead ⟨head, body, hOutside, hText⟩

/- Every text is swept. -/
theorem exists_sweep
    (insideWord : Bool)
    (text : List Char) :
    ∃ out, Sweep insideWord text out := by
  induction hLength : text.length using Nat.strongRecOn
    generalizing insideWord text with
  | _ n ih =>
      subst hLength
      rcases head_cases insideWord text with
        ⟨head, body, hOutside, hText⟩ | hNone
      · subst hText
        subst hOutside
        rcases ih body.length (head.length_lt body) false body
            rfl with ⟨out, hOut⟩
        cases hEnd : blockEndFrom 0 1 0 out with
        | none => exact ⟨_, .unclosed head hOut hEnd⟩
        | some close =>
            rcases exists_passage_of_blockEndFrom hEnd with
              ⟨inside, back, hSplit, hBlock⟩
            subst hSplit
            exact ⟨_, .closed head hOut hBlock⟩
      · cases text with
        | nil => exact ⟨[], .done _⟩
        | cons c rest =>
            rcases ih rest.length (Nat.lt_succ_self _)
                (Text.isWord c) rest rfl with ⟨out, hOut⟩
            exact ⟨_, .step hNone hOut⟩

/- A sweep is what migrating the tasks of a text makes. -/
theorem migrateTasks_of_sweep
    {content out : List Char}
    (h : Sweep false content out) :
    migrateTasks content = out :=
  h.foldr_migrateTask []

theorem sweep_migrateTasks
    (content : List Char) :
    Sweep false content (migrateTasks content) := by
  rcases exists_sweep false content with ⟨out, hOut⟩
  rw [migrateTasks_of_sweep hOut]
  exact hOut

end Script

end GradleMigration
