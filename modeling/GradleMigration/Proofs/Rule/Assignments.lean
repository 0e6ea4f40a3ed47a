import GradleMigration.Proofs.Pattern.Spelling
import GradleMigration.Proofs.Rule.OnePerLine

/-
  Assignments to properties that become calls with the value.

  The value and the note behind it are kept as they are, so an
  assignment that stands in them is kept too.  What is put in
  has none, and nothing that is put in makes one of what is
  around it.

  Main declarations:
    * `Setting` and `Setting.form`
    * `assignments`
    * `assignments_append`
    * `Setting.Replaced`
    * `Setting.exists_replaced`
    * `Setting.spends` and `Setting.wears`
-/

------------------------------------------------------------
-- Assignments in a Text
------------------------------------------------------------

namespace GradleMigration

open Script

/- Blanks that stand between the parts of a line. -/
def isGap
    (c : Char) : Bool :=
  c == ' ' || c == '\t'

/-
  A property that is assigned a value, and the call that sets
  it instead with what stands behind the call.
-/
structure Setting where
  name : List Char
  call : List Char
  closing : List Char
  name_ne_nil : name ≠ [] := by decide
  name_word : name.all Text.isWord = true := by decide
  call_word : Anchor.wordAt false call = true := by decide
  call_plain : '=' ∉ call := by decide
  closing_plain : '=' ∉ closing := by decide

/- Whether a text starts with a sign of assignment. -/
def isAssigned
    (text : List Char) : Bool :=
  match text.dropWhile isGap with
  | '=' :: rest => rest.head? != some '='
  | _ => false

/- Whether a text starts with an assignment to a property. -/
def Setting.assigns
    (setting : Setting)
    (text : List Char) : Bool :=
  setting.name.isPrefixOf text &&
    isAssigned (text.drop setting.name.length)

/- The number of assignments to some properties in a text. -/
def assignments
    (settings : List Setting) :
    (insideWord : Bool) → List Char → Nat
| _, [] => 0
| insideWord, c :: rest =>
    (if !insideWord && settings.any (·.assigns (c :: rest))
      then 1 else 0) +
      assignments settings (Text.isWord c) rest

variable {setting : Setting} {settings : List Setting}

/- A gap has no word characters. -/
theorem isWord_of_isGap
    {c : Char}
    (h : isGap c = true) :
    Text.isWord c = false := by
  rcases Bool.or_eq_true_iff.mp h with hSpace | hTab
  · rw [eq_of_beq hSpace]
    decide
  · rw [eq_of_beq hTab]
    decide

/- A sign of assignment, and what is in front of it. -/
theorem isAssigned_iff
    {text : List Char} :
    isAssigned text = true ↔
      ∃ gap rest, text = gap ++ '=' :: rest ∧
        (∀ c ∈ gap, isGap c = true) ∧
          rest.head? ≠ some '=' := by
  constructor
  · intro h
    unfold isAssigned at h
    split at h
    · next rest hRest =>
        refine ⟨text.takeWhile isGap, rest, ?_, ?_,
          bne_iff_ne.mp h⟩
        · rw [← hRest, List.takeWhile_append_dropWhile]
        · exact List.all_eq_true.mp List.all_takeWhile
    · cases h
  · rintro ⟨gap, rest, hText, hGap, hHead⟩
    have hDrop : text.dropWhile isGap = '=' :: rest := by
      rw [hText, List.dropWhile_append_of_pos hGap]
      rfl
    unfold isAssigned
    rw [hDrop]
    exact bne_iff_ne.mpr hHead

/- The parts of an assignment. -/
theorem Setting.assigns_iff
    {text : List Char} :
    setting.assigns text = true ↔
      ∃ gap rest,
        text = setting.name ++ (gap ++ '=' :: rest) ∧
          (∀ c ∈ gap, isGap c = true) ∧
            rest.head? ≠ some '=' := by
  unfold assigns
  rw [Bool.and_eq_true, isAssigned_iff]
  constructor
  · rintro ⟨hName, gap, rest, hText, hGap⟩
    rcases List.isPrefixOf_iff_prefix.mp hName with
      ⟨behind, hBehind⟩
    subst hBehind
    rw [List.drop_left] at hText
    exact ⟨gap, rest, congrArg _ hText, hGap⟩
  · rintro ⟨gap, rest, hText, hGap⟩
    subst hText
    refine ⟨List.isPrefixOf_iff_prefix.mpr
      (List.prefix_append _ _), gap, rest, ?_, hGap⟩
    rw [List.drop_left]

/- An assignment starts with a word. -/
theorem Setting.wordAt_of_assigns
    {text : List Char}
    (h : setting.assigns text = true) :
    Anchor.wordAt false text = true := by
  rcases assigns_iff.mp h with ⟨gap, rest, hText, _⟩
  cases hName : setting.name with
  | nil => exact absurd hName setting.name_ne_nil
  | cons c more =>
      rw [hText, hName]
      exact List.all_eq_true.mp setting.name_word c
        (hName ▸ List.mem_cons_self)

/- No assignment starts at a character that is in no word. -/
theorem assignments_cons_of_not_word
    {c : Char}
    (h : Text.isWord c = false)
    (insideWord : Bool)
    (rest : List Char) :
    assignments settings insideWord (c :: rest) =
      assignments settings false rest := by
  have hNone :
      settings.any (·.assigns (c :: rest)) = false := by
    rw [List.any_eq_false]
    intro setting _ hAssigns
    have hWord : Text.isWord c = true :=
      setting.wordAt_of_assigns hAssigns
    rw [h] at hWord
    cases hWord
  rw [assignments, hNone, h]
  simp

/- A text without the sign has no assignment. -/
theorem assignments_of_not_mem
    {text : List Char}
    (h : '=' ∉ text)
    (insideWord : Bool) :
    assignments settings insideWord text = 0 := by
  induction text generalizing insideWord with
  | nil => rfl
  | cons c rest ih =>
      have hNone :
          settings.any (·.assigns (c :: rest)) = false := by
        rw [List.any_eq_false]
        intro setting _ hAssigns
        rcases setting.assigns_iff.mp hAssigns with
          ⟨gap, behind, hText, _⟩
        apply h
        rw [hText]
        simp
      have hRest := ih
        (fun hMem => h (List.mem_cons_of_mem _ hMem))
        (Text.isWord c)
      rw [assignments, hNone, hRest]
      simp

/- The end of a text has no more assignments than the text. -/
theorem assignments_suffix
    (insideWord : Bool)
    (front rest : List Char) :
    assignments settings (insideAfter insideWord front) rest ≤
      assignments settings insideWord (front ++ rest) := by
  induction front generalizing insideWord with
  | nil => exact Nat.le_refl _
  | cons c more ih =>
      rw [insideAfter_cons, List.cons_append, assignments]
      exact Nat.le_trans (ih (Text.isWord c))
        (Nat.le_add_left _ _)

/- What is behind the start of an assignment has fewer. -/
theorem assignments_lt
    {front rest : List Char}
    (hFront : front ≠ [])
    (hMem : setting ∈ settings)
    (hAssigns : setting.assigns (front ++ rest) = true) :
    assignments settings (insideAfter false front) rest <
      assignments settings false (front ++ rest) := by
  cases front with
  | nil => exact absurd rfl hFront
  | cons c more =>
      have hAny : settings.any
          (·.assigns (c :: (more ++ rest))) = true :=
        List.any_eq_true.mpr ⟨setting, hMem, hAssigns⟩
      have hSuffix :
          assignments settings
              (insideAfter (Text.isWord c) more) rest ≤
            assignments settings (Text.isWord c)
              (more ++ rest) :=
        assignments_suffix _ more rest
      rw [insideAfter_cons, List.cons_append, assignments, hAny]
      simp only [Bool.not_false, Bool.and_self, if_true]
      omega

/- The assignments to some properties, counted. -/
def Setting.tally
    (settings : List Setting) : Tally where
  count := assignments settings
  suffix := assignments_suffix

end GradleMigration

------------------------------------------------------------
-- Texts Put Together
------------------------------------------------------------

namespace GradleMigration

open Script

variable {setting : Setting} {settings : List Setting}

/-
  No assignment starts in a text and ends behind it: no word
  goes on there, and no sign follows.
-/
structure Apart
    (front rest : List Char) : Prop where
  word : insideAfter false front = false ∨
    Anchor.wordAt false rest = false
  sign : (rest.dropWhile isGap).head? ≠ some '='

/- The place behind the last part is the same. -/
theorem Apart.tail
    {c : Char}
    {front rest : List Char}
    (h : Apart (c :: front) rest) :
    Apart front rest := by
  refine ⟨h.word.imp_left ?_, h.sign⟩
  intro hOutside
  rw [insideAfter_cons] at hOutside
  unfold insideAfter at hOutside ⊢
  cases hLast : front.getLast? with
  | none => rfl
  | some d =>
      rw [hLast] at hOutside
      exact hOutside

theorem Apart.head?_ne
    {front rest : List Char}
    (h : Apart front rest) :
    rest.head? ≠ some '=' := by
  intro hHead
  rcases List.head?_eq_some_iff.mp hHead with ⟨more, hRest⟩
  apply h.sign
  rw [hRest]
  rfl

/- A gap does not lead to a sign there. -/
theorem Apart.not_gap
    {front rest gap more : List Char}
    (h : Apart front rest)
    (hGap : ∀ c ∈ gap, isGap c = true) :
    rest ≠ gap ++ '=' :: more := by
  intro hRest
  apply h.sign
  rw [hRest, List.dropWhile_append_of_pos hGap]
  rfl

/- A name does not reach beyond the end of the text. -/
theorem Apart.not_name
    {front rest behind : List Char}
    {c : Char}
    (h : Apart front rest)
    (hFront : front ≠ [])
    (hRest : rest = c :: behind)
    (hWord : ∀ d ∈ front ++ [c], Text.isWord d = true) :
    False := by
  have hNext : Anchor.wordAt false rest = true := by
    rw [hRest]
    exact hWord c (by simp)
  have hLast := List.dropLast_concat_getLast hFront
  have hInside : insideAfter false front = true := by
    rw [← hLast, insideAfter_concat]
    exact hWord _
      (List.mem_append_left _ (List.getLast_mem hFront))
  rcases h.word with hOutside | hOther
  · rw [hInside] at hOutside
    cases hOutside
  · rw [hNext] at hOther
    cases hOther

/- Whether an assignment starts does not depend on the rest. -/
theorem Setting.assigns_append
    {front rest : List Char}
    (h : Apart front rest)
    (hFront : front ≠ []) :
    setting.assigns (front ++ rest) =
      setting.assigns front := by
  rw [Bool.eq_iff_iff, assigns_iff, assigns_iff]
  constructor
  · rintro ⟨gap, more, hText, hGap, hHead⟩
    rcases List.append_eq_append_iff.mp hText with
      ⟨left, hName, hRest⟩ | ⟨behind, hSplit, hSign⟩
    · -- The name would reach the end of the text.
      cases left with
      | nil => exact absurd hRest (h.not_gap hGap)
      | cons c left =>
          refine (h.not_name hFront hRest ?_).elim
          intro d hD
          apply List.all_eq_true.mp setting.name_word d
          rw [hName, ← List.singleton_append,
            ← List.append_assoc]
          exact List.mem_append_left _ hD
    · rcases List.append_eq_append_iff.mp hSign with
        ⟨sign, hBehind, hMore⟩ | ⟨blank, hBlank, hRest⟩
      · cases sign with
        | nil =>
            have hNext : rest.head? = some '=' := by
              rw [← List.nil_append rest, ← hMore]
              rfl
            exact absurd hNext h.head?_ne
        | cons c sign =>
            rw [List.cons_append, List.cons.injEq] at hMore
            rcases hMore with ⟨hC, hMore⟩
            subst hC
            refine ⟨gap, sign, ?_, hGap, ?_⟩
            · rw [hSplit, hBehind]
            · intro hEq
              apply hHead
              rw [hMore, List.head?_append, hEq]
              rfl
      · refine absurd hRest (h.not_gap ?_)
        intro c hC
        exact hGap c (hBlank ▸ List.mem_append_right _ hC)
  · rintro ⟨gap, more, hText, hGap, hHead⟩
    refine ⟨gap, more ++ rest, ?_, hGap, ?_⟩
    · rw [hText]
      simp
    · cases more with
      | nil => exact h.head?_ne
      | cons c more => exact hHead

/- Assignments of texts that are apart are counted apart. -/
theorem assignments_append
    {front rest : List Char}
    (h : Apart front rest)
    (insideWord : Bool) :
    assignments settings insideWord (front ++ rest) =
      assignments settings insideWord front +
        assignments settings (insideAfter insideWord front)
          rest := by
  induction front generalizing insideWord with
  | nil => exact (Nat.zero_add _).symm
  | cons c more ih =>
      have hSame : settings.any
            (·.assigns (c :: (more ++ rest))) =
          settings.any (·.assigns (c :: more)) := by
        congr 1
        funext setting
        exact setting.assigns_append h (List.cons_ne_nil c more)
      rw [insideAfter_cons, List.cons_append, assignments,
        assignments, hSame, ih h.tail, Nat.add_assoc]

/- A text that starts with a bar is apart from any other. -/
def IsBarred
    (rest : List Char) : Prop :=
  ∀ c, (rest.dropWhile isGap).head? = some c →
    Text.isWord c = false ∧ c ≠ '='

theorem IsBarred.gap_append
    {gap rest : List Char}
    (hGap : ∀ c ∈ gap, isGap c = true)
    (h : IsBarred rest) :
    IsBarred (gap ++ rest) := by
  unfold IsBarred
  rw [List.dropWhile_append_of_pos hGap]
  exact h

/- Characters that are bars on their own. -/
def isBar
    (c : Char) : Bool :=
  !(Text.isWord c || c == '=' || isGap c)

theorem isBarred_cons
    {c : Char}
    (h : isBar c = true)
    (rest : List Char) :
    IsBarred (c :: rest) := by
  intro d hD
  simp only [isBar, Bool.not_eq_true', Bool.or_eq_false_iff,
    beq_eq_false_iff_ne] at h
  rw [List.dropWhile_cons, h.2] at hD
  cases hD
  exact h.1

/- A bar is in no word. -/
theorem IsBarred.wordAt
    {rest : List Char}
    (h : IsBarred rest) :
    Anchor.wordAt false rest = false := by
  cases rest with
  | nil => rfl
  | cons c more =>
      cases hGap : isGap c with
      | true => exact isWord_of_isGap hGap
      | false =>
          have hDrop : (c :: more).dropWhile isGap =
              c :: more := by
            rw [List.dropWhile_cons, hGap]
            rfl
          exact (h c (by rw [hDrop]; rfl)).1

theorem IsBarred.apart
    {rest : List Char}
    (h : IsBarred rest)
    (front : List Char) :
    Apart front rest where
  word := Or.inr h.wordAt
  sign := fun hSign => (h '=' hSign).2 rfl

/- What is in front of a bar does not matter behind it. -/
theorem assignments_append_barred
    {rest : List Char}
    (h : IsBarred rest)
    (insideWord : Bool)
    (front : List Char) :
    assignments settings insideWord (front ++ rest) =
      assignments settings insideWord front +
        assignments settings false rest := by
  rw [assignments_append (h.apart front)]
  congr 1
  cases rest with
  | nil => rfl
  | cons c more =>
      have hWord : Text.isWord c = false := h.wordAt
      rw [assignments_cons_of_not_word hWord,
        assignments_cons_of_not_word hWord]

end GradleMigration

------------------------------------------------------------
-- Replacing an Assignment
------------------------------------------------------------

namespace GradleMigration

open Script

namespace Pattern

/- Any number of blanks in a line. -/
def gaps : Pattern :=
  .loop ⟨0, none⟩ .greedy
    (.one ⟨false, [.char ' ', .char '\t'], .exact⟩)

/- A note behind a value. -/
def note : Pattern :=
  .seq gaps (.seq (.letter '/') (.seq (.letter '/')
    (.loop ⟨0, none⟩ .greedy inLine)))

/- The end of a line. -/
def lineBreak : Pattern :=
  .seq (.loop ⟨0, some 1⟩ .greedy (.letter '\r'))
    (.anchor .lineEnd)

/- A value up to the end of its line, with its note. -/
def value : Pattern :=
  .seq gaps <|
    .seq (.group 1 (.loop ⟨1, none⟩ .lazy inLine)) <|
      .seq (.loop ⟨0, some 1⟩ .greedy (.group 2 note)) <|
        .seq gaps (.ahead false lineBreak)

/- An assignment of the rest of a line to a property. -/
def assignment
    (name : List Char) : Pattern :=
  .seq (.anchor (.boundary false false)) <|
    .spelled name <|
      .seq gaps <|
        .seq (.letter '=') <|
          .seq (.ahead true (.letter '=')) value

/- What blanks pass over. -/
theorem passes_of_mem_gaps
    {s t : Spot}
    (h : t ∈ gaps.ways s) :
    ∃ gap, (∀ c ∈ gap, isGap c = true) ∧
      s.Passes t gap [] := by
  rcases passes_of_mem_repeated h with ⟨gap, hGap, hPasses⟩
  refine ⟨gap, ?_, hPasses⟩
  intro c hC
  have hAccepts := List.all_eq_true.mp hGap c hC
  simpa [CharTest.accepts, SetItem.accepts, Folding.same,
    isGap] using hAccepts

/- What a note passes over. -/
theorem passes_of_mem_note
    {s t : Spot}
    (h : t ∈ note.ways s) :
    ∃ gap more, (∀ c ∈ gap, isGap c = true) ∧
      s.Passes t (gap ++ '/' :: more) [] := by
  rcases List.mem_flatMap.mp h with ⟨u, hU, hT⟩
  rcases List.mem_flatMap.mp hT with ⟨v, hV, hT⟩
  rcases List.mem_flatMap.mp hT with ⟨w, hW, hT⟩
  rcases passes_of_mem_gaps hU with ⟨gap, hGap, hFirst⟩
  rcases passes_of_mem_repeated hT with ⟨more, _, hLast⟩
  exact ⟨gap, '/' :: more, hGap, hFirst.trans
    ((passes_of_mem_letter hV).trans
      ((passes_of_mem_letter hW).trans hLast))⟩

/- What an optional note passes over and keeps. -/
theorem passes_of_mem_optional_note
    {s t : Spot}
    (h : t ∈ (Pattern.loop ⟨0, some 1⟩ .greedy
      (.group 2 note)).ways s) :
    ∃ text captured, s.Passes t text captured ∧
      (captured = [] ∧ text = [] ∨
        captured = [(2, text)]) ∧
        ∀ behind, IsBarred behind →
          IsBarred (text ++ behind) := by
  rcases mem_ways_optional h with hSkip | hNote
  · subst hSkip
    exact ⟨[], [], .refl t, Or.inl ⟨rfl, rfl⟩, fun _ => id⟩
  · rcases passes_of_mem_group hNote with ⟨u, hU, hKeeps⟩
    rcases passes_of_mem_note hU with ⟨gap, more, hGap, hText⟩
    refine ⟨_, _, hKeeps _ _ hText, Or.inr rfl, ?_⟩
    intro behind _
    rw [List.append_assoc]
    exact (isBarred_cons (by decide) _).gap_append hGap

/- The end of a line is where it looks for it. -/
theorem of_mem_ahead_lineBreak
    {s t : Spot}
    (h : t ∈ (Pattern.ahead false lineBreak).ways s) :
    t = s ∧ ∀ c, s.after.head? = some c →
      c = '\r' ∨ c = '\n' := by
  rcases of_mem_ahead h with ⟨u, hU, hT⟩
  rcases List.mem_flatMap.mp hU with ⟨v, hV, hU⟩
  rcases of_mem_anchor hU with ⟨hSame, hEnd⟩
  subst hSame
  rcases mem_ways_optional hV with hSkip | hReturn
  · subst hSkip
    refine ⟨hT, ?_⟩
    intro c hC
    cases hAfter : u.after with
    | nil =>
        rw [hAfter] at hC
        cases hC
    | cons d rest =>
        rw [hAfter] at hC hEnd
        cases hC
        right
        simpa [Anchor.holds] using hEnd
  · have hPasses := passes_of_mem_letter hReturn
    refine ⟨?_, ?_⟩
    · rw [hT, hPasses.groups]
      rfl
    · intro c hC
      rw [hPasses.after] at hC
      cases hC
      exact Or.inl rfl

/-
  A value with its note, where the place `t` is behind both:
  the value and the note are captured.
-/
structure Valued
    (s t : Spot)
    (pad text note trail : List Char)
    (captured : List (Nat × List Char)) : Prop where
  passes :
    s.Passes t (pad ++ (text ++ (note ++ trail))) captured
  pad_blank : ∀ c ∈ pad, isGap c = true
  trail_blank : ∀ c ∈ trail, isGap c = true
  text_kept : captured.lookup 1 = some text
  note_kept : (captured.lookup 2).getD [] = note
  note_barred : ∀ behind, IsBarred behind →
    IsBarred (note ++ behind)
  ended : ∀ c, t.after.head? = some c → c = '\r' ∨ c = '\n'

theorem valued_of_mem
    {s t : Spot}
    (h : t ∈ value.ways s) :
    ∃ pad text note trail captured,
      Valued s t pad text note trail captured := by
  rcases List.mem_flatMap.mp h with ⟨u, hU, hRest⟩
  rcases List.mem_flatMap.mp hRest with ⟨v, hV, hRest⟩
  rcases List.mem_flatMap.mp hRest with ⟨w, hW, hRest⟩
  rcases List.mem_flatMap.mp hRest with ⟨x, hX, hEnd⟩
  rcases passes_of_mem_gaps hU with ⟨pad, hPad, hFirst⟩
  rcases passes_of_mem_group hV with ⟨y, hY, hKeeps⟩
  rcases passes_of_mem_repeated hY with ⟨text, _, hText⟩
  have hValue := hKeeps text [] hText
  rcases passes_of_mem_optional_note hW with
    ⟨note, captured, hNote, hCaptured, hBarred⟩
  rcases passes_of_mem_gaps hX with ⟨trail, hTrail, hLast⟩
  rcases of_mem_ahead_lineBreak hEnd with ⟨hSame, hEnded⟩
  subst hSame
  have hPasses :=
    hFirst.trans (hValue.trans (hNote.trans hLast))
  rw [List.append_nil, List.nil_append] at hPasses
  refine ⟨pad, text, note, trail, captured ++ [(1, text)],
    hPasses, hPad, hTrail, ?_, ?_, hBarred, hEnded⟩
  · rcases hCaptured with ⟨hNil, _⟩ | hSome
    · subst hNil
      rfl
    · subst hSome
      rfl
  · rcases hCaptured with ⟨hNil, hEmpty⟩ | hSome
    · subst hNil hEmpty
      rfl
    · subst hSome
      rfl

end Pattern

namespace Setting

variable {setting : Setting} {settings : List Setting}

/- How assignments to a property are replaced. -/
def form
    (setting : Setting) : Form where
  pattern := .assignment setting.name
  template :=
    literals (setting.call ++ ['(']) ++
      .group 1 :: (literals (')' :: setting.closing) ++
        [.group 2])

/-
  An assignment at a place behind `front`: its sign is passed
  over to `s`, and its value to `t`.
-/
structure Replaced
    (setting : Setting)
    (front rest : List Char)
    (s t : Spot)
    (gap pad text note trail : List Char) : Prop where
  outside : insideAfter false front = false
  assigns : setting.assigns rest = true
  sign : (Pattern.spotAt front.reverse rest).Passes s
    (setting.name ++ (gap ++ ['='])) []
  value : Pattern.Valued s t pad text note trail t.groups

/- A boundary in front of a word is outside of words. -/
theorem outside_of_boundary
    {front rest : List Char}
    (h : (Anchor.boundary false false).holds front.reverse
      rest = true)
    (hWord : Anchor.wordAt false rest = true) :
    insideAfter false front = false := by
  have hBefore : Anchor.wordAt false front.reverse = false := by
    have hDiffer := (Bool.and_eq_true_iff.mp h).2
    rw [hWord] at hDiffer
    simpa using hDiffer
  unfold insideAfter
  rw [← List.head?_reverse]
  cases hReverse : front.reverse with
  | nil => rfl
  | cons c more =>
      rw [hReverse] at hBefore
      exact hBefore

/- Every hit replaces an assignment. -/
theorem exists_replaced
    {front rest : List Char}
    {t : Spot}
    (h : t ∈ setting.form.pattern.ways
      (Pattern.spotAt front.reverse rest)) :
    ∃ s gap pad text note trail,
      setting.Replaced front rest s t gap pad text note
        trail := by
  rcases List.mem_flatMap.mp h with ⟨start, hStart, hRest⟩
  rcases Pattern.of_mem_anchor hStart with ⟨hSame, hBoundary⟩
  subst hSame
  rcases Pattern.passes_of_mem_spelled hRest with
    ⟨u, hName, hRest⟩
  rcases List.mem_flatMap.mp hRest with ⟨v, hV, hRest⟩
  rcases List.mem_flatMap.mp hRest with ⟨s, hS, hRest⟩
  rcases List.mem_flatMap.mp hRest with ⟨w, hW, hValue⟩
  rcases Pattern.passes_of_mem_gaps hV with ⟨gap, hGap, hV⟩
  rcases Pattern.of_mem_ahead_not hW with ⟨hSame, hSingle⟩
  subst hSame
  rcases Pattern.valued_of_mem hValue with
    ⟨pad, text, note, trail, captured, hValued⟩
  have hSign :=
    hName.trans (hV.trans (Pattern.passes_of_mem_letter hS))
  have hGroups : t.groups = captured := by
    rw [hValued.passes.groups, hSign.groups]
    exact List.append_nil _
  have hAssigns : setting.assigns rest = true := by
    refine assigns_iff.mpr ⟨gap, w.after, ?_, hGap,
      Pattern.head?_ne_of_letter hSingle⟩
    have hRest := hSign.after
    simp only [List.append_assoc] at hRest
    exact hRest
  exact ⟨w, gap, pad, text, note, trail,
    outside_of_boundary hBoundary
      (setting.wordAt_of_assigns hAssigns),
    hAssigns, hSign, hGroups ▸ hValued⟩

variable {front rest : List Char} {s t : Spot}
variable {gap pad text note trail : List Char}

theorem Replaced.rest_eq
    (h : setting.Replaced front rest s t gap pad text note
      trail) :
    rest = setting.name ++ (gap ++ '=' ::
      (pad ++ (text ++ (note ++ (trail ++ t.after))))) := by
  have hRest := (h.sign.trans h.value.passes).after
  simp only [List.append_assoc] at hRest
  exact hRest

theorem Replaced.before_eq
    (h : setting.Replaced front rest s t gap pad text note
      trail) :
    t.before.reverse = front ++ (setting.name ++ (gap ++ '=' ::
      (pad ++ (text ++ (note ++ trail))))) := by
  rw [(h.sign.trans h.value.passes).before]
  simp [Pattern.spotAt]

/- What is put in for an assignment. -/
theorem Replaced.expand_eq
    (h : setting.Replaced front rest s t gap pad text note
      trail) :
    expand setting.form.template
        (.between (Pattern.spotAt front.reverse rest) t) =
      setting.call ++ ('(' :: (text ++
        (')' :: (setting.closing ++ note)))) := by
  have hFirst :
      (Hit.between (Pattern.spotAt front.reverse rest) t).group
        1 = text := by
    simp [Hit.group, Hit.between, h.value.text_kept]
  have hSecond :
      (Hit.between (Pattern.spotAt front.reverse rest) t).group
        2 = note := by
    simp [Hit.group, Hit.between, h.value.note_kept]
  have hNil (hit : Hit) : expand [] hit = [] := rfl
  simp [form, hFirst, hSecond, hNil]

end Setting

end GradleMigration

------------------------------------------------------------
-- Counting what is Left
------------------------------------------------------------

namespace GradleMigration

open Script

variable {front rest : List Char}

/- A word behind a place outside of words is apart. -/
theorem apart_of_wordAt
    (hOutside : insideAfter false front = false)
    (hWord : Anchor.wordAt false rest = true) :
    Apart front rest := by
  refine ⟨Or.inl hOutside, ?_⟩
  cases rest with
  | nil => cases hWord
  | cons c more =>
      have hC : Text.isWord c = true := hWord
      have hGap : isGap c = false := by
        cases hGap : isGap c with
        | false => rfl
        | true =>
            rw [isWord_of_isGap hGap] at hC
            cases hC
      rw [List.dropWhile_cons, hGap]
      intro hSign
      cases hSign
      revert hC
      decide

/- Gaps lead out of words. -/
theorem insideAfter_gap
    {gap : List Char}
    (h : ∀ c ∈ gap, isGap c = true) :
    insideAfter false gap = false := by
  unfold insideAfter
  cases hLast : gap.getLast? with
  | none => rfl
  | some c =>
      exact isWord_of_isGap
        (h c (List.mem_of_getLast? hLast))

/- The end of a line is a bar. -/
theorem isBarred_of_ended
    (h : ∀ c, rest.head? = some c → c = '\r' ∨ c = '\n') :
    IsBarred rest := by
  cases rest with
  | nil =>
      intro c hC
      cases hC
  | cons c more =>
      rcases h c rfl with hReturn | hFeed
      · subst hReturn
        exact isBarred_cons (by decide) _
      · subst hFeed
        exact isBarred_cons (by decide) _

namespace Setting

variable {setting : Setting} {settings : List Setting}
variable {s t : Spot} {gap pad text note trail : List Char}

/- What is behind an assignment has fewer of them. -/
theorem Replaced.behind
    (h : setting.Replaced front rest s t gap pad text note
      trail)
    (hMem : setting ∈ settings) :
    assignments settings (insideAfter false t.before.reverse)
        t.after <
      assignments settings (insideAfter false front) rest := by
  have hSplit : rest = (setting.name ++ (gap ++ '=' ::
      (pad ++ (text ++ (note ++ trail))))) ++ t.after := by
    rw [h.rest_eq]
    simp
  have hTaken : setting.name ++ (gap ++ '=' ::
      (pad ++ (text ++ (note ++ trail)))) ≠ [] := by
    simp
  have hAssigns := h.assigns
  rw [hSplit] at hAssigns
  rw [h.before_eq, insideAfter_append, h.outside]
  conv => rhs; rw [hSplit]
  exact assignments_lt hTaken hMem hAssigns

/- The assignments behind the sign of one. -/
theorem Replaced.assignments_rest
    (h : setting.Replaced front rest s t gap pad text note
      trail)
    (hMem : setting ∈ settings) :
    assignments settings false text +
        (assignments settings false note +
          assignments settings false t.after) <
      assignments settings false rest := by
  have hSplit : rest = (setting.name ++ (gap ++ '=' :: pad)) ++
      (text ++ (note ++ (trail ++ t.after))) := by
    rw [h.rest_eq]
    simp
  have hSign : insideAfter false
      (setting.name ++ (gap ++ '=' :: pad)) = false := by
    rw [insideAfter_append, insideAfter_append,
      insideAfter_cons]
    exact insideAfter_gap h.value.pad_blank
  have hAssigns := h.assigns
  rw [hSplit] at hAssigns
  have hLess := assignments_lt (by simp) hMem hAssigns
  rw [← hSplit, hSign] at hLess
  have hEnd := isBarred_of_ended h.value.ended
  have hTrail := hEnd.gap_append h.value.trail_blank
  rw [assignments_append_barred (h.value.note_barred _ hTrail),
    assignments_append_barred hTrail,
    assignments_append_barred hEnd] at hLess
  omega

/- The assignments in what is put in and behind it. -/
theorem Replaced.assignments_put
    (h : setting.Replaced front rest s t gap pad text note
      trail) :
    assignments settings false
        (setting.call ++ ('(' :: (text ++
          (')' :: (setting.closing ++ (note ++ t.after)))))) =
      assignments settings false text +
        (assignments settings false note +
          assignments settings false t.after) := by
  have hEnd := isBarred_of_ended h.value.ended
  have hClosing : '=' ∉ ')' :: setting.closing := by
    rw [List.mem_cons, not_or]
    exact ⟨by decide, setting.closing_plain⟩
  rw [assignments_append_barred (isBarred_cons (by decide) _),
    assignments_of_not_mem setting.call_plain,
    assignments_cons_of_not_word (by decide),
    assignments_append_barred (isBarred_cons (by decide) _),
    ← List.cons_append,
    assignments_append_barred (h.value.note_barred _ hEnd),
    assignments_of_not_mem hClosing,
    assignments_append_barred hEnd, Nat.zero_add, Nat.zero_add]

/- Replacing an assignment leaves fewer. -/
theorem Replaced.lowers
    (h : setting.Replaced front rest s t gap pad text note
      trail)
    (hMem : setting ∈ settings) :
    assignments settings false
        (front ++ (setting.call ++ ('(' :: (text ++
          (')' :: (setting.closing ++
            (note ++ t.after))))))) <
      assignments settings false (front ++ rest) := by
  have hCall : Anchor.wordAt false
      (setting.call ++ ('(' :: (text ++
        (')' :: (setting.closing ++
          (note ++ t.after)))))) = true := by
    have hWord := setting.call_word
    cases hCall : setting.call with
    | nil =>
        rw [hCall] at hWord
        cases hWord
    | cons c more =>
        rw [hCall] at hWord
        exact hWord
  have hRest := setting.wordAt_of_assigns h.assigns
  rw [assignments_append (apart_of_wordAt h.outside hCall),
    assignments_append (apart_of_wordAt h.outside hRest),
    h.outside, h.assignments_put]
  exact Nat.add_lt_add_left (h.assignments_rest hMem) _

/- Every hit of an assignment is one, and leaves fewer. -/
theorem spends
    (hMem : setting ∈ settings) :
    setting.form.Spends (tally settings) where
  behind hT := by
    rcases exists_replaced hT with ⟨_, _, _, _, _, _, h⟩
    exact h.behind hMem
  lowers hT := by
    rcases exists_replaced hT with ⟨_, _, _, _, _, _, h⟩
    rw [h.expand_eq]
    simp only [List.append_assoc, List.cons_append]
    exact h.lowers hMem

/- The sign of an assignment is not kept. -/
theorem wears :
    setting.form.Wears (· == '=') := by
  intro front rest t hT
  rcases exists_replaced hT with ⟨_, _, _, _, _, _, h⟩
  have hCall := List.count_eq_zero.mpr setting.call_plain
  have hClosing := List.count_eq_zero.mpr setting.closing_plain
  have hOpen : '(' ≠ '=' := by decide
  have hClose : ')' ≠ '=' := by decide
  rw [h.expand_eq]
  conv => rhs; rw [h.rest_eq]
  change List.count '=' _ + List.count '=' _ < List.count '=' _
  simp only [List.count_append, List.count_cons_self,
    List.count_cons_of_ne hOpen, List.count_cons_of_ne hClose]
  omega

end Setting

end GradleMigration
