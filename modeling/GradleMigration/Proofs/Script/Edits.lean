import GradleMigration.Proofs.Script.Settling

/-
  Migrating the tasks of a text edits nothing but headers and
  closing braces: some headers are replaced, and for each of
  them one brace is put behind a closing brace that stands
  behind the header.

  A task is migrated in a text that has changed behind it, and
  the brace that closes it may be one that an inner task got.
  The edits of all tasks are nevertheless edits of the text
  that was given, and what they write is neither a header nor
  a part of one.

  Main declarations:
    * `TaskEdit` and `edited`
    * `Fits`
    * `Sweep.exists_edits`
    * `Edited`
    * `closureHeaders_edited`
    * `Rule.transform_edits_tasks`
-/

------------------------------------------------------------
-- Edits of Tasks
------------------------------------------------------------

namespace GradleMigration

namespace Script

/-
  A header to be replaced, and the offset of the brace behind
  which its task gets another one.
-/
structure TaskEdit where
  header : TaskHeader
  close : Nat
deriving DecidableEq, Repr

/- Whether an offset is in a header. -/
def TaskHeader.covers
    (header : TaskHeader)
    (pos : Nat) : Bool :=
  header.start ≤ pos && pos < header.stop

/- Braces, each with a blank in front of it. -/
def closings
    (count : Nat) : List Char :=
  (List.replicate count " \x7d".toList).flatten

/-
  What edits make of the character at an offset.  The first
  character of a header gives way to the new header and the
  others to nothing; any other character stays, with the new
  braces behind it.
-/
def editedAt
    (edits : List TaskEdit)
    (c : Char)
    (pos : Nat) : List Char :=
  match edits.find? (·.header.covers pos) with
  | some edit =>
      if pos = edit.header.start then
        newHeader edit.header.name
      else
        []
  | none =>
      c :: closings (edits.countP fun edit => edit.close = pos)

/- What edits make of a text that stands at an offset. -/
def editedFrom
    (edits : List TaskEdit)
    (pos : Nat)
    (text : List Char) : List Char :=
  (text.zipIdx pos).flatMap fun (c, place) => editedAt edits c place

/- What edits make of a text. -/
def edited
    (edits : List TaskEdit)
    (content : List Char) : List Char :=
  editedFrom edits 0 content

/- Where an offset of a text is found behind its edits. -/
def movedTo
    (edits : List TaskEdit)
    (content : List Char)
    (pos : Nat) : Nat :=
  (edited edits (content.take pos)).length

/-
  Edits of a text that stands at an offset: they replace some
  of its headers, and the brace of each stands behind it.
-/
structure Fits
    (edits : List TaskEdit)
    (insideWord : Bool)
    (pos : Nat)
    (text : List Char) : Prop where
  headers :
    (edits.map (·.header)).Sublist
      (headersFrom 0 insideWord pos text)
  closes : ∀ edit ∈ edits,
    edit.header.stop ≤ edit.close ∧
      ∃ front back,
        text = front ++ '\x7d' :: back ∧
          edit.close = pos + front.length

end Script

end GradleMigration

------------------------------------------------------------
-- Character by Character
------------------------------------------------------------

namespace GradleMigration

namespace Script

section

variable {edits : List TaskEdit} {pos : Nat}

@[simp] theorem TaskHeader.covers_iff
    {header : TaskHeader} :
    header.covers pos = true ↔
      header.start ≤ pos ∧ pos < header.stop := by
  simp [covers]

theorem editedFrom_cons
    (edits : List TaskEdit)
    (pos : Nat)
    (c : Char)
    (rest : List Char) :
    editedFrom edits pos (c :: rest) =
      editedAt edits c pos ++ editedFrom edits (pos + 1) rest := by
  unfold editedFrom
  rw [List.zipIdx_cons, List.flatMap_cons]

theorem editedFrom_append
    (edits : List TaskEdit)
    (pos : Nat)
    (first second : List Char) :
    editedFrom edits pos (first ++ second) =
      editedFrom edits pos first ++
        editedFrom edits (pos + first.length) second := by
  unfold editedFrom
  rw [List.zipIdx_append, List.flatMap_append]

/- A character in no header that is replaced. -/
theorem editedAt_of_outside
    (h : ∀ edit ∈ edits,
      pos < edit.header.start ∨ edit.header.stop ≤ pos)
    (c : Char) :
    editedAt edits c pos =
      c :: closings (edits.countP fun edit => edit.close = pos) := by
  unfold editedAt
  split
  · next edit hFound =>
      have hMem := List.mem_of_find?_eq_some hFound
      have hHere := List.find?_some hFound
      rw [TaskHeader.covers_iff] at hHere
      rcases h edit hMem with hAhead | hBehind <;> omega
  · rfl

/- A text that no edit touches. -/
theorem editedFrom_of_apart
    {part : List Char}
    (hOutside : ∀ edit ∈ edits, ∀ place, pos ≤ place →
      place < pos + part.length →
        place < edit.header.start ∨ edit.header.stop ≤ place)
    (hClose : ∀ edit ∈ edits, ∀ place, pos ≤ place →
      place < pos + part.length → edit.close ≠ place) :
    editedFrom edits pos part = part := by
  induction part generalizing pos with
  | nil => rfl
  | cons c rest ih =>
      rw [List.length_cons] at hOutside hClose
      have hNone :
          (edits.countP fun edit => edit.close = pos) = 0 := by
        rw [List.countP_eq_zero]
        intro edit hEdit hIs
        exact hClose edit hEdit pos (Nat.le_refl pos) (by omega)
          (of_decide_eq_true hIs)
      rw [editedFrom_cons, editedAt_of_outside, hNone, ih]
      · rfl
      · intro edit hEdit place hFrom hTo
        exact hOutside edit hEdit place (by omega) (by omega)
      · intro edit hEdit place hFrom hTo
        exact hClose edit hEdit place (by omega) (by omega)
      · intro edit hEdit
        exact hOutside edit hEdit pos (Nat.le_refl pos) (by omega)

/- A header that is replaced. -/
theorem editedFrom_render
    {head : ShiftHead}
    {edit : TaskEdit}
    (hEdit : edit ∈ edits)
    (hHeader :
      edit.header = ⟨pos, head.name, head.render.length⟩)
    (hOthers : ∀ other ∈ edits, ∀ place, pos ≤ place →
      place < pos + head.render.length →
        other.header.start ≤ place →
          place < other.header.stop →
            other.header = edit.header) :
    editedFrom edits pos head.render = newHeader head.name := by
  have hAt : ∀ (c : Char) (place : Nat), pos ≤ place →
      place < pos + head.render.length →
        editedAt edits c place =
          if place = pos then newHeader head.name else [] := by
    intro c place hFrom hTo
    unfold editedAt
    split
    · next other hFound =>
        have hMem := List.mem_of_find?_eq_some hFound
        have hHere := List.find?_some hFound
        rw [TaskHeader.covers_iff] at hHere
        rw [hOthers other hMem place hFrom hTo hHere.1 hHere.2,
          hHeader]
    · next hNone =>
        have hNot := List.find?_eq_none.mp hNone edit hEdit
        rw [hHeader, TaskHeader.covers_iff] at hNot
        exact absurd ⟨hFrom, hTo⟩ hNot
  obtain ⟨rest, hRest⟩ : ∃ rest, head.render = 't' :: rest :=
    ⟨_, rfl⟩
  rw [hRest, List.length_cons] at hAt
  have hMore : editedFrom edits (pos + 1) rest = [] := by
    unfold editedFrom
    rw [List.flatMap_eq_nil_iff]
    rintro ⟨c, place⟩ hMem
    have hPlace := List.mem_zipIdx hMem
    simp only
    rw [hAt c place (by omega) (by omega), if_neg (by omega)]
  rw [hRest, editedFrom_cons, hMore, List.append_nil,
    hAt 't' pos (Nat.le_refl pos) (by omega), if_pos rfl]

end

end Script

end GradleMigration

------------------------------------------------------------
-- Headers of a Part of a Text
------------------------------------------------------------

namespace GradleMigration

namespace Script

section

variable {insideWord : Bool} {pos : Nat}

/- A header is not found before the scan starts. -/
theorem le_start_of_mem_headersFrom
    {text : List Char}
    {header : TaskHeader}
    (h : header ∈ headersFrom 0 insideWord pos text) :
    pos ≤ header.start := by
  rcases heads_of_mem_headersFrom h with ⟨offset, hStart, _⟩
  omega

/- The name of a header is that of a text that it stands for. -/
theorem exists_head_of_mem_headersFrom
    {skip : Nat}
    {text : List Char}
    {header : TaskHeader}
    (h : header ∈ headersFrom skip insideWord pos text) :
    ∃ head : ShiftHead, head.name = header.name := by
  induction text generalizing skip insideWord pos with
  | nil => cases h
  | cons c rest ih =>
      cases skip with
      | succ skip => exact ih h
      | zero =>
          rw [headersFrom] at h
          split at h
          · exact ih h
          · next first hFirst =>
              rcases List.mem_cons.mp h with hHere | hRest
              · subst hHere
                unfold headerHere at hFirst
                split at hFirst
                · cases hFirst
                · rcases Option.map_eq_some_iff.mp hFirst with
                    ⟨⟨name, body⟩, hClosure, hHeader⟩
                  rcases exists_head_of_closureHeader hClosure
                    with ⟨head, hName, _⟩
                  exact ⟨head, by rw [hName, ← hHeader]⟩
              · exact ih hRest

/- No header starts at the first character. -/
theorem headersFrom_cons
    {c : Char}
    {rest : List Char}
    (h : insideWord = false →
      closureHeader (c :: rest) = none) :
    headersFrom 0 insideWord pos (c :: rest) =
      headersFrom 0 (Text.isWord c) (pos + 1) rest := by
  have hFree : HeadFree insideWord rest [c] := ⟨h, trivial⟩
  exact hFree.headersFrom_append pos

/- No closing brace is in a new header. -/
theorem ShiftHead.notMem_newHeader
    (head : ShiftHead) :
    '\x7d' ∉ newHeader head.name := by
  have hName : '\x7d' ∉ head.name := by
    intro hMem
    exact absurd (List.all_eq_true.mp head.isName.2 _ hMem)
      (by decide)
  unfold newHeader
  simp only [List.mem_append, not_or]
  exact ⟨⟨by decide, hName⟩, by decide⟩

/- No closing brace is in a header. -/
theorem ShiftHead.notMem_render
    (head : ShiftHead) :
    '\x7d' ∉ head.render := by
  intro hMem
  rcases List.mem_append.mp hMem with hFront | hLast
  · exact absurd (List.all_eq_true.mp head.front_plain _ hFront)
      (by decide)
  · exact absurd (List.mem_singleton.mp hLast) (by decide)

end

end Script

end GradleMigration

------------------------------------------------------------
-- Migrating by Edits
------------------------------------------------------------

namespace GradleMigration

namespace Script

/- One more brace behind any of the braces at a place. -/
theorem closings_insert
    {count : Nat}
    {inside back : List Char}
    (h : '\x7d' :: closings count = inside ++ '\x7d' :: back) :
    '\x7d' :: closings (count + 1) =
      inside ++ '\x7d' :: ' ' :: '\x7d' :: back := by
  induction count generalizing inside with
  | zero =>
      cases inside with
      | nil =>
          rw [← (List.cons.inj h).2]
          rfl
      | cons d more =>
          have hNil := (List.cons.inj h).2
          exact absurd hNil.symm (by simp [closings])
  | succ count ih =>
      cases inside with
      | nil =>
          rw [← (List.cons.inj h).2]
          rfl
      | cons d more =>
          rcases List.cons.inj h with ⟨hD, hMore⟩
          subst hD
          have hNext :
              ' ' :: '\x7d' :: closings count =
                more ++ '\x7d' :: back := hMore
          cases more with
          | nil => exact absurd (List.cons.inj hNext).1 (by decide)
          | cons e last =>
              rcases List.cons.inj hNext with ⟨hE, hLast⟩
              subst hE
              have hThere := ih hLast
              exact congrArg ('\x7d' :: ' ' :: ·) hThere

section

variable {edits : List TaskEdit} {edit : TaskEdit} {pos : Nat}

/- An edit of a header that has been passed over. -/
theorem editedAt_cons
    (h : edit.header.stop ≤ pos)
    (hClose : edit.close ≠ pos)
    (c : Char) :
    editedAt (edit :: edits) c pos = editedAt edits c pos := by
  unfold editedAt
  rw [List.find?_cons_of_neg, List.countP_cons_of_neg]
  · simpa using hClose
  · rw [TaskHeader.covers_iff]
    omega

/- An edit of a task that has been passed over. -/
theorem editedFrom_of_behind
    (h : edit.header.stop ≤ pos)
    (hClose : edit.close < pos)
    (text : List Char) :
    editedFrom (edit :: edits) pos text =
      editedFrom edits pos text := by
  induction text generalizing pos with
  | nil => rfl
  | cons c rest ih =>
      rw [editedFrom_cons, editedFrom_cons,
        editedAt_cons h (Nat.ne_of_lt hClose),
        ih (Nat.le_succ_of_le h) (Nat.lt_succ_of_lt hClose)]

section

variable {c : Char} {inside back : List Char}

/- A closing brace comes from a character that stays. -/
theorem find?_of_editedAt
    (hNames : ∀ edit ∈ edits,
      '\x7d' ∉ newHeader edit.header.name)
    (h : editedAt edits c pos = inside ++ '\x7d' :: back) :
    edits.find? (·.header.covers pos) = none ∧
      c :: closings (edits.countP fun edit => edit.close = pos) =
        inside ++ '\x7d' :: back := by
  unfold editedAt at h
  split at h
  · next other hFound =>
      have hMem : '\x7d' ∈ inside ++ '\x7d' :: back := by simp
      rw [← h] at hMem
      split at hMem
      · exact absurd hMem
          (hNames other (List.mem_of_find?_eq_some hFound))
      · cases hMem
  · next hNone => exact ⟨hNone, h⟩

/- It is a closing brace of the text, where braces are put. -/
theorem close_of_editedAt
    (hNames : ∀ edit ∈ edits,
      '\x7d' ∉ newHeader edit.header.name)
    (hCloses : ∀ edit ∈ edits, edit.close = pos → c = '\x7d')
    (h : editedAt edits c pos = inside ++ '\x7d' :: back) :
    c = '\x7d' := by
  have hKept := (find?_of_editedAt hNames h).2
  cases inside with
  | nil => exact (List.cons.inj hKept).1
  | cons d more =>
      have hSome :
          (edits.countP fun edit => edit.close = pos) ≠ 0 := by
        intro hZero
        have hRest := (List.cons.inj hKept).2
        rw [hZero] at hRest
        exact absurd hRest.symm (by simp [closings])
      rcases List.countP_pos_iff.mp (Nat.pos_of_ne_zero hSome)
        with ⟨edit, hEdit, hClose⟩
      exact hCloses edit hEdit (of_decide_eq_true hClose)

/- One more edit puts a brace behind it. -/
theorem editedAt_insert
    (hNames : ∀ edit ∈ edits,
      '\x7d' ∉ newHeader edit.header.name)
    (hStop : edit.header.stop ≤ pos)
    (hPlace : edit.close = pos)
    (h : editedAt edits c pos = inside ++ '\x7d' :: back)
    (hClose : c = '\x7d') :
    editedAt (edit :: edits) c pos =
      inside ++ '\x7d' :: ' ' :: '\x7d' :: back := by
  rcases find?_of_editedAt hNames h with ⟨hNone, hKept⟩
  subst hClose
  unfold editedAt
  rw [List.find?_cons_of_neg, hNone]
  · simp only
    rw [List.countP_cons_of_pos]
    · exact closings_insert hKept
    · exact decide_eq_true hPlace
  · rw [TaskHeader.covers_iff]
    omega

end

/-
  Behind `inside` stands a brace of the edited text.  It is one
  of the text, or has been put behind one.  One more edit puts
  a brace behind it.
-/
def CanClose
    (edits : List TaskEdit)
    (pos : Nat)
    (text inside back : List Char) : Prop :=
  ∃ front rest,
    text = front ++ '\x7d' :: rest ∧
      ∀ header : TaskHeader, header.stop ≤ pos →
        editedFrom (⟨header, pos + front.length⟩ :: edits)
            pos text =
          inside ++ '\x7d' :: ' ' :: '\x7d' :: back

/- The brace is found behind one more character. -/
theorem CanClose.cons
    {rest more : List Char}
    (h : CanClose edits (pos + 1) rest more back)
    (c : Char) :
    CanClose edits pos (c :: rest)
      (editedAt edits c pos ++ more) back := by
  rcases h with ⟨front, tail, hText, hEdited⟩
  refine ⟨c :: front, tail, by rw [hText]; rfl, ?_⟩
  intro header hStop
  have hThere := hEdited header (Nat.le_succ_of_le hStop)
  have hPlace :
      pos + (c :: front).length = pos + 1 + front.length := by
    rw [List.length_cons]
    omega
  rw [hPlace, editedFrom_cons, hThere,
    editedAt_cons hStop (show _ ≠ pos by simp only; omega),
    List.append_assoc]

/- Every brace of the edited text is such a brace. -/
theorem canClose
    {text inside back : List Char}
    (hNames : ∀ edit ∈ edits,
      '\x7d' ∉ newHeader edit.header.name)
    (hCloses : ∀ edit ∈ edits, ∀ front c rest,
      text = front ++ c :: rest →
        edit.close = pos + front.length → c = '\x7d')
    (h : editedFrom edits pos text = inside ++ '\x7d' :: back) :
    CanClose edits pos text inside back := by
  induction text generalizing pos inside with
  | nil => simp [editedFrom] at h
  | cons c rest ih =>
      rw [editedFrom_cons] at h
      have hRest : ∀ edit ∈ edits, ∀ front d tail,
          rest = front ++ d :: tail →
            edit.close = pos + 1 + front.length →
              d = '\x7d' := by
        intro edit hEdit front d tail hText hClose
        refine hCloses edit hEdit (c :: front) d tail ?_ ?_
        · rw [hText, List.cons_append]
        · rw [List.length_cons]
          omega
      rcases List.append_eq_append_iff.mp h with
        ⟨more, hInside, hMore⟩ | ⟨more, hHere, hMore⟩
      · rw [hInside]
        exact (ih hRest hMore).cons c
      · cases more with
        | nil =>
            have hNext :
                editedFrom edits (pos + 1) rest =
                  [] ++ '\x7d' :: back := hMore.symm
            have hClose := (ih hRest hNext).cons c
            rw [hHere] at hClose
            simpa using hClose
        | cons d last =>
            rcases List.cons.inj hMore with ⟨hD, hBack⟩
            subst hD
            have hC : c = '\x7d' := by
              refine close_of_editedAt hNames ?_ hHere
              intro edit hEdit hClose
              exact hCloses edit hEdit [] c rest rfl hClose
            refine ⟨[], rest, by rw [hC]; rfl, ?_⟩
            intro header hStop
            rw [List.length_nil, Nat.add_zero, editedFrom_cons,
              editedAt_insert hNames hStop rfl hHere hC,
              editedFrom_of_behind (Nat.le_succ_of_le hStop)
                (Nat.lt_succ_self pos), hBack, List.append_assoc]
            rfl

end

section

variable {edits : List TaskEdit} {insideWord : Bool} {pos : Nat}
variable {text : List Char}

namespace Fits

/- An edit is not in front of its text. -/
theorem le_start
    (h : Fits edits insideWord pos text)
    {edit : TaskEdit}
    (hEdit : edit ∈ edits) :
    pos ≤ edit.header.start :=
  le_start_of_mem_headersFrom
    (h.headers.subset (List.mem_map_of_mem hEdit))

/- An edit of a text does not touch what is in front of it. -/
theorem editedFrom_front
    {part : List Char}
    (h : Fits edits insideWord (pos + part.length) text) :
    editedFrom edits pos part = part := by
  apply editedFrom_of_apart
  · intro edit hEdit place _ hTo
    exact Or.inl (Nat.lt_of_lt_of_le hTo (h.le_start hEdit))
  · intro edit hEdit place _ hTo hIs
    rcases (h.closes edit hEdit).2 with ⟨front, _, _, hClose⟩
    omega

/- New headers hold no closing brace. -/
theorem notMem_newHeader
    (h : Fits edits insideWord pos text)
    {edit : TaskEdit}
    (hEdit : edit ∈ edits) :
    '\x7d' ∉ newHeader edit.header.name := by
  rcases exists_head_of_mem_headersFrom
      (h.headers.subset (List.mem_map_of_mem hEdit)) with
    ⟨head, hName⟩
  rw [← hName]
  exact head.notMem_newHeader

/- Braces are put behind closing braces. -/
theorem close_eq
    (h : Fits edits insideWord pos text)
    {edit : TaskEdit}
    (hEdit : edit ∈ edits)
    {front rest : List Char}
    {c : Char}
    (hText : text = front ++ c :: rest)
    (hClose : edit.close = pos + front.length) :
    c = '\x7d' := by
  rcases (h.closes edit hEdit).2 with
    ⟨before, back, hSplit, hPlace⟩
  rw [hText] at hSplit
  have hLength : front.length = before.length := by omega
  exact (List.cons.inj (List.append_inj hSplit hLength).2).1

/- The braces of edits, counted from further in front. -/
theorem closes_append
    {part : List Char}
    (h : Fits edits insideWord (pos + part.length) text)
    {edit : TaskEdit}
    (hEdit : edit ∈ edits) :
    edit.header.stop ≤ edit.close ∧
      ∃ front back,
        part ++ text = front ++ '\x7d' :: back ∧
          edit.close = pos + front.length := by
  rcases h.closes edit hEdit with
    ⟨hStop, front, back, hText, hClose⟩
  refine ⟨hStop, part ++ front, back, ?_, ?_⟩
  · rw [hText, List.append_assoc]
  · rw [List.length_append]
    omega

end Fits

/- What migrating the tasks of a text makes is made by edits. -/
theorem Sweep.exists_edits
    {out : List Char}
    (h : Sweep insideWord text out)
    (pos : Nat) :
    ∃ edits, Fits edits insideWord pos text ∧
      editedFrom edits pos text = out := by
  induction h generalizing pos with
  | done insideWord => exact ⟨[], ⟨.slnil, by simp⟩, rfl⟩
  | @step insideWord c rest out hNone _ ih =>
      rcases ih (pos + [c].length) with ⟨edits, hFits, hEdited⟩
      refine ⟨edits, ⟨?_, fun edit => hFits.closes_append⟩, ?_⟩
      · rw [headersFrom_cons hNone]
        exact hFits.headers
      · rw [← List.singleton_append, editedFrom_append,
          hFits.editedFrom_front, hEdited]
        rfl
  | @closed body inside back head _ hBlock ih =>
      rcases ih (pos + head.render.length) with
        ⟨edits, hFits, hEdited⟩
      rcases canClose (fun _ => hFits.notMem_newHeader)
          (fun _ hEdit _ _ _ => hFits.close_eq hEdit) hEdited with
        ⟨front, rest, hBody, hInsert⟩
      obtain ⟨header, hHeader⟩ :
          ∃ header : TaskHeader,
            header = ⟨pos, head.name, head.render.length⟩ :=
        ⟨_, rfl⟩
      have hStop : header.stop = pos + head.render.length := by
        rw [hHeader]
        rfl
      refine ⟨⟨header, pos + head.render.length + front.length⟩ ::
        edits, ⟨?_, ?_⟩, ?_⟩
      · rw [headersFrom_render, List.map_cons, hHeader]
        exact hFits.headers.cons_cons _
      · intro edit hEdit
        rcases List.mem_cons.mp hEdit with hIs | hMem
        · subst hIs
          refine ⟨?_, head.render ++ front, rest, ?_, ?_⟩
          · simp only
            omega
          · rw [hBody, List.append_assoc]
          · rw [List.length_append]
            exact Nat.add_assoc _ _ _
        · exact hFits.closes_append hMem
      · rw [editedFrom_append, hInsert header (Nat.le_of_eq hStop),
          editedFrom_render List.mem_cons_self hHeader]
        intro other hOther place _ hTo hStart _
        rcases List.mem_cons.mp hOther with hIs | hMem
        · rw [hIs]
        · have hAhead := hFits.le_start hMem
          omega
  | @unclosed body out head _ hEnd ih =>
      rcases ih (pos + head.render.length) with
        ⟨edits, hFits, hEdited⟩
      refine ⟨edits, ⟨?_, fun edit => hFits.closes_append⟩, ?_⟩
      · rw [headersFrom_render]
        exact hFits.headers.cons _
      · rw [editedFrom_append, hFits.editedFrom_front, hEdited]

end

end Script

end GradleMigration

------------------------------------------------------------
-- Headers of an Edited Text
------------------------------------------------------------

namespace GradleMigration

namespace Script

/- Where a header is found behind the edits of its text. -/
def TaskHeader.moved
    (edits : List TaskEdit)
    (content : List Char)
    (header : TaskHeader) : TaskHeader :=
  { header with start := movedTo edits content header.start }

/-
  A part of a text, behind what is in front of it, and what
  edits make of the part, from header to header.
-/
inductive Edited
    (edits : List TaskEdit) :
    (front text out : List Char) → Prop
| done (front : List Char) : Edited edits front [] []
| step
    {front rest out : List Char}
    {c : Char}
    {count : Nat}
    (noHead : insideAfter false front = false →
      closureHeader (c :: rest) = none)
    (same :
      editedAt edits c front.length = c :: closings count)
    (braces : count = 0 ∨ c = '\x7d')
    (more : Edited edits (front ++ [c]) rest out) :
    Edited edits front (c :: rest) (c :: (closings count ++ out))
| replaced
    {front body out : List Char}
    (head : ShiftHead)
    (outside : insideAfter false front = false)
    (mem :
      ⟨front.length, head.name, head.render.length⟩ ∈
        edits.map (·.header))
    (same :
      editedFrom edits front.length head.render =
        newHeader head.name)
    (more : Edited edits (front ++ head.render) body out) :
    Edited edits front (head.render ++ body)
      (newHeader head.name ++ out)
| left
    {front body out : List Char}
    (head : ShiftHead)
    (outside : insideAfter false front = false)
    (notMem :
      ⟨front.length, head.name, head.render.length⟩ ∉
        edits.map (·.header))
    (same :
      editedFrom edits front.length head.render = head.render)
    (more : Edited edits (front ++ head.render) body out) :
    Edited edits front (head.render ++ body)
      (head.render ++ out)

/- New braces start no header. -/
theorem headFree_closings
    (insideWord : Bool)
    (follow : List Char)
    (count : Nat) :
    HeadFree insideWord follow (closings count) := by
  induction count generalizing insideWord with
  | zero => trivial
  | succ count ih => exact ⟨fun _ => rfl, fun _ => rfl, ih _⟩

/- The place behind new braces is in no word. -/
theorem insideAfter_closings
    (count : Nat) :
    insideAfter false (closings count) = false := by
  induction count with
  | zero => rfl
  | succ count ih =>
      change insideAfter false (' ' :: '\x7d' :: closings count) = _
      rw [insideAfter_cons, insideAfter_cons]
      exact ih

/- New braces make no difference to the place behind them. -/
theorem insideAfter_braces
    (insideWord : Bool)
    {c : Char}
    {count : Nat}
    (h : count = 0 ∨ c = '\x7d') :
    insideAfter insideWord (c :: closings count) =
      Text.isWord c := by
  rw [insideAfter_cons]
  rcases h with hZero | hClose
  · subst hZero
    rfl
  · subst hClose
    exact insideAfter_closings count

/- The place behind a new header is in no word. -/
theorem insideAfter_newHeader
    (insideWord : Bool)
    (name : List Char) :
    insideAfter insideWord (newHeader name) = false := by
  rw [newHeader_concat, insideAfter_concat]
  decide

/- Edits in front of a part do not depend on the part. -/
theorem length_edited_append
    (edits : List TaskEdit)
    (front part : List Char) :
    (edited edits (front ++ part)).length =
      (edited edits front).length +
        (editedFrom edits front.length part).length := by
  unfold edited
  rw [editedFrom_append, List.length_append, Nat.zero_add]

namespace Edited

variable {edits : List TaskEdit} {front text out : List Char}

/- What edits make of a part of a text. -/
theorem eq_editedFrom
    (h : Edited edits front text out) :
    editedFrom edits front.length text = out := by
  induction h with
  | done front => rfl
  | step _ hSame _ _ ih =>
      rw [List.length_append] at ih
      rw [editedFrom_cons, hSame]
      exact congrArg (_ :: closings _ ++ ·) ih
  | replaced head _ _ hSame _ ih =>
      rw [List.length_append] at ih
      rw [editedFrom_append, hSame, ih]
  | left head _ _ hSame _ ih =>
      rw [List.length_append] at ih
      rw [editedFrom_append, hSame, ih]

/- Edits behind a place where no header starts make none. -/
theorem closureHeader_eq_none
    (h : Edited edits front text out)
    {before : List Char}
    (hNone : closureHeader (before ++ text) = none) :
    closureHeader (before ++ out) = none := by
  induction h generalizing before with
  | done front => exact hNone
  | @step front rest out c count _ _ hBraces _ ih =>
      rcases hBraces with hZero | hClose
      · subst hZero
        have hMore := @ih (before ++ [c])
        simp only [List.append_assoc, List.singleton_append]
          at hMore
        exact hMore hNone
      · subst hClose
        exact closureHeader_congr (by decide) hNone _
  | replaced head _ _ _ _ _ =>
      exact closureHeader_newHeader head hNone _
  | @left front body out head _ _ _ _ _ =>
      rw [ShiftHead.render, List.append_assoc,
        ← List.append_assoc] at hNone ⊢
      exact closureHeader_congr (by decide) hNone out

/-
  The headers of an edited part are those that are not
  replaced, where they are found behind the edits.
-/
theorem headersFrom_eq
    (h : Edited edits front text out)
    {content : List Char}
    (hContent : content = front ++ text) :
    headersFrom 0 (insideAfter false front)
        (edited edits front).length out =
      ((headersFrom 0 (insideAfter false front) front.length
        text).filter
          (· ∉ edits.map (·.header))).map
            (TaskHeader.moved edits content) := by
  induction h with
  | done front => rfl
  | @step front rest out c count hHead hSame hBraces hMore ih =>
      have hSelf := Edited.step hHead hSame hBraces hMore
      have hNone : insideAfter false front = false →
          closureHeader ([] ++ c :: (closings count ++ out)) =
            none :=
        fun hOutside =>
          hSelf.closureHeader_eq_none (hHead hOutside)
      have hFree :
          HeadFree (insideAfter false front) out
            (c :: closings count) :=
        ⟨hNone, headFree_closings _ _ _⟩
      have hInside := insideAfter_braces
        (insideAfter false front) hBraces
      have hHere :=
        hFree.headersFrom_append (edited edits front).length
      have hPlace := length_edited_append edits front [c]
      rw [editedFrom_cons, hSame] at hPlace
      have hRest := ih (by rw [hContent, List.append_assoc]; rfl)
      rw [insideAfter_concat, List.length_append, hPlace] at hRest
      rw [List.cons_append, hInside] at hHere
      rw [hHere, headersFrom_cons hHead]
      simpa [editedFrom] using hRest
  | @replaced front body out head hOutside hMem hSame _ ih =>
      have hFree := headFree_newHeader head false out
      have hHere :=
        hFree.headersFrom_append (edited edits front).length
      have hPlace := length_edited_append edits front head.render
      rw [hSame] at hPlace
      have hRest := ih (by rw [hContent, List.append_assoc])
      rw [insideAfter_append, head.insideAfter_render,
        List.length_append, hPlace] at hRest
      rw [insideAfter_newHeader] at hHere
      rw [hOutside, hHere, hRest, headersFrom_render,
        List.filter_cons_of_neg (by simpa using hMem)]
  | @left front body out head hOutside hMem hSame _ ih =>
      have hPlace := length_edited_append edits front head.render
      rw [hSame] at hPlace
      have hRest := ih (by rw [hContent, List.append_assoc])
      rw [insideAfter_append, head.insideAfter_render,
        List.length_append, hPlace] at hRest
      have hMoved :
          movedTo edits content front.length =
            (edited edits front).length := by
        rw [movedTo, hContent, List.take_left]
      rw [hOutside, headersFrom_render, headersFrom_render, hRest,
        List.filter_cons_of_pos (by simpa using hMem),
        List.map_cons, TaskHeader.moved, hMoved]

end Edited

/-
  What is left of a text behind a place: the headers in front
  of the place end there, and the others are still found.
-/
structure LeftOf
    (content front text : List Char) : Prop where
  content_eq : content = front ++ text
  headers : ∀ header ∈ closureHeaders content,
    header.stop ≤ front.length ∨
      header ∈ headersFrom 0 (insideAfter false front)
        front.length text

namespace LeftOf

variable {content front : List Char}

/- What is left behind a character that starts no header. -/
theorem behind_char
    {c : Char}
    {rest : List Char}
    (h : LeftOf content front (c :: rest))
    (hNone : insideAfter false front = false →
      closureHeader (c :: rest) = none) :
    LeftOf content (front ++ [c]) rest := by
  refine ⟨by rw [h.content_eq, List.append_assoc]; rfl, ?_⟩
  intro header hMem
  rw [insideAfter_concat, List.length_append]
  rcases h.headers header hMem with hStop | hLater
  · exact Or.inl (Nat.le_succ_of_le hStop)
  · rw [headersFrom_cons hNone] at hLater
    exact Or.inr hLater

section

variable {head : ShiftHead} {body : List Char}

/- What is left behind a header. -/
theorem behind_head
    (h : LeftOf content front (head.render ++ body))
    (hOutside : insideAfter false front = false) :
    LeftOf content (front ++ head.render) body := by
  refine ⟨by rw [h.content_eq, List.append_assoc], ?_⟩
  intro header hMem
  rw [insideAfter_append, head.insideAfter_render,
    List.length_append]
  rcases h.headers header hMem with hStop | hFound
  · exact Or.inl (Nat.le_add_right_of_le hStop)
  · rw [hOutside, headersFrom_render] at hFound
    rcases List.mem_cons.mp hFound with hIs | hLater
    · subst hIs
      exact Or.inl (Nat.le_refl _)
    · exact Or.inr hLater

/- No other header reaches into a header. -/
theorem apart
    (h : LeftOf content front (head.render ++ body))
    (hOutside : insideAfter false front = false)
    {header : TaskHeader}
    (hHeader : header ∈ closureHeaders content)
    {place : Nat}
    (hFrom : front.length ≤ place)
    (hTo : place < front.length + head.render.length) :
    header = ⟨front.length, head.name, head.render.length⟩ ∨
      place < header.start ∨ header.stop ≤ place := by
  rcases h.headers header hHeader with hStop | hFound
  · exact Or.inr (Or.inr (Nat.le_trans hStop hFrom))
  · rw [hOutside, headersFrom_render] at hFound
    rcases List.mem_cons.mp hFound with hIs | hLater
    · exact Or.inl hIs
    · have hStart := le_start_of_mem_headersFrom hLater
      exact Or.inr (Or.inl (Nat.lt_of_lt_of_le hTo hStart))

end

end LeftOf

namespace Fits

variable {edits : List TaskEdit} {content front : List Char}

/- The headers that edits replace are headers of the text. -/
theorem mem_closureHeaders
    (h : Fits edits false 0 content)
    {edit : TaskEdit}
    (hEdit : edit ∈ edits) :
    edit.header ∈ closureHeaders content :=
  h.headers.subset (List.mem_map_of_mem hEdit)

/- A character that starts no header stays. -/
theorem editedAt_eq
    (h : Fits edits false 0 content)
    {c : Char}
    {rest : List Char}
    (hLeft : LeftOf content front (c :: rest))
    (hNone : insideAfter false front = false →
      closureHeader (c :: rest) = none) :
    ∃ count,
      editedAt edits c front.length = c :: closings count ∧
        (count = 0 ∨ c = '\x7d') := by
  refine ⟨_, editedAt_of_outside ?_ c, ?_⟩
  · intro edit hEdit
    rcases hLeft.headers _ (h.mem_closureHeaders hEdit) with
      hStop | hLater
    · exact Or.inr hStop
    · rw [headersFrom_cons hNone] at hLater
      exact Or.inl (le_start_of_mem_headersFrom hLater)
  · rcases Nat.eq_zero_or_pos (edits.countP fun edit =>
        edit.close = front.length) with hZero | hSome
    · exact Or.inl hZero
    · rcases List.countP_pos_iff.mp hSome with
        ⟨edit, hEdit, hClose⟩
      refine Or.inr (h.close_eq hEdit hLeft.content_eq ?_)
      rw [of_decide_eq_true hClose, Nat.zero_add]

section

variable {head : ShiftHead} {body : List Char}

/- A header that is replaced, and no other one with it. -/
theorem editedFrom_replaced
    (h : Fits edits false 0 content)
    (hLeft : LeftOf content front (head.render ++ body))
    (hOutside : insideAfter false front = false)
    (hMem :
      ⟨front.length, head.name, head.render.length⟩ ∈
        edits.map (·.header)) :
    editedFrom edits front.length head.render =
      newHeader head.name := by
  rcases List.mem_map.mp hMem with ⟨edit, hEdit, hIs⟩
  apply editedFrom_render hEdit hIs
  intro other hOther place hFrom hTo hStart hStop
  rcases hLeft.apart hOutside (h.mem_closureHeaders hOther)
      hFrom hTo with hSame | hAhead | hPassed
  · rw [hSame, hIs]
  · omega
  · omega

/- A header that is not replaced. -/
theorem editedFrom_left
    (h : Fits edits false 0 content)
    (hLeft : LeftOf content front (head.render ++ body))
    (hOutside : insideAfter false front = false)
    (hMem :
      ⟨front.length, head.name, head.render.length⟩ ∉
        edits.map (·.header)) :
    editedFrom edits front.length head.render = head.render := by
  apply editedFrom_of_apart
  · intro edit hEdit place hFrom hTo
    rcases hLeft.apart hOutside (h.mem_closureHeaders hEdit)
        hFrom hTo with hSame | hApart
    · exact absurd (hSame ▸ List.mem_map_of_mem hEdit) hMem
    · exact hApart
  · -- A closing brace would stand in the header.
    intro edit hEdit place hFrom hTo hClose
    rcases (h.closes edit hEdit).2 with
      ⟨before, back, hSplit, hPlace⟩
    have hBrace : content[place]? = some '\x7d' := by
      rw [hSplit, ← hClose, hPlace, Nat.zero_add]
      simp
    have hInside :
        content[place]? = head.render[place - front.length]? := by
      rw [hLeft.content_eq, List.getElem?_append_right hFrom,
        List.getElem?_append_left (by omega)]
    rw [hInside] at hBrace
    exact head.notMem_render (List.mem_of_getElem? hBrace)

end

/-
  Edits that fit a text can be read from header to header: no
  two of them meet, and no brace stands in a header.
-/
theorem exists_edited
    {text : List Char}
    (h : Fits edits false 0 content)
    (hLeft : LeftOf content front text) :
    ∃ out, Edited edits front text out := by
  induction hLength : text.length using Nat.strongRecOn
    generalizing front text with
  | _ n ih =>
      subst hLength
      rcases head_cases (insideAfter false front) text with
        ⟨head, body, hOutside, hText⟩ | hNone
      · subst hText
        rcases ih body.length (head.length_lt body)
            (hLeft.behind_head hOutside) rfl with ⟨out, hOut⟩
        by_cases hMem :
            ⟨front.length, head.name, head.render.length⟩ ∈
              edits.map (·.header)
        · exact ⟨_, .replaced head hOutside hMem
            (h.editedFrom_replaced hLeft hOutside hMem) hOut⟩
        · exact ⟨_, .left head hOutside hMem
            (h.editedFrom_left hLeft hOutside hMem) hOut⟩
      · cases text with
        | nil => exact ⟨[], .done front⟩
        | cons c rest =>
            rcases ih rest.length (Nat.lt_succ_self _)
                (hLeft.behind_char hNone) rfl with ⟨out, hOut⟩
            rcases h.editedAt_eq hLeft hNone with
              ⟨count, hSame, hBraces⟩
            exact ⟨_, .step hNone hSame hBraces hOut⟩

end Fits

/-
  The headers of an edited text are those that its edits do
  not replace.
-/
theorem closureHeaders_edited
    {edits : List TaskEdit}
    {content : List Char}
    (h : Fits edits false 0 content) :
    closureHeaders (edited edits content) =
      ((closureHeaders content).filter
        (· ∉ edits.map (·.header))).map
          (TaskHeader.moved edits content) := by
  have hLeft : LeftOf content [] content :=
    ⟨rfl, fun _ hMem => Or.inr hMem⟩
  rcases h.exists_edited hLeft with ⟨out, hOut⟩
  have hIs : edited edits content = out := hOut.eq_editedFrom
  rw [hIs]
  exact hOut.headersFrom_eq rfl

end Script

end GradleMigration

------------------------------------------------------------
-- The Rule
------------------------------------------------------------

namespace GradleMigration

namespace Script

/- Tasks without closing braces are left as they are. -/
theorem foldr_migrateTask_of_unclosed
    {headers : List TaskHeader}
    {content : List Char}
    (h : ∀ header ∈ headers,
      closingBrace content (header.stop - 1) = none) :
    headers.foldr migrateTask content = content := by
  induction headers with
  | nil => rfl
  | cons header rest ih =>
      rw [List.foldr_cons,
        ih fun other hOther =>
          h other (List.mem_cons_of_mem _ hOther),
        migrateTask, h header List.mem_cons_self]

/- A text stays where no header has a closing brace. -/
theorem migrateTasks_eq_iff
    {content : List Char} :
    migrateTasks content = content ↔
      ∀ header ∈ closureHeaders content,
        closingBrace content (header.stop - 1) = none := by
  constructor
  · intro hSame
    rcases count_foldr_migrateTask
        (fun header hMem => heads_of_mem_closureHeaders hMem) with
      ⟨_, hNone⟩ | hLess
    · exact hNone
    · unfold migrateTasks at hSame
      rw [hSame] at hLess
      exact absurd hLess (Nat.lt_irrefl _)
  · exact foldr_migrateTask_of_unclosed

end Script

open Script

namespace Rule

/-
  The rule for tasks with the shift operator replaces some of
  the closure headers of a text and puts one brace for each of
  them behind a closing brace that stands behind the header;
  it changes nothing else.  The closure headers of the new
  text are the others of the old one.  The text stays as it is
  exactly where no closure header has a closing brace.
-/
theorem transform_edits_tasks
    {rule : Rule}
    (hKind : rule.kind = .taskLeftShift)
    (content : List Char) :
    ∃ edits text,
      rule.transform content = .ok text ∧
        (edits.map (·.header)).Sublist
          (closureHeaders content) ∧
        (∀ edit ∈ edits,
          edit.header.stop ≤ edit.close ∧
            content[edit.close]? = some '\x7d') ∧
        text = edited edits content ∧
        closureHeaders text =
          ((closureHeaders content).filter
            (· ∉ edits.map (·.header))).map
              (TaskHeader.moved edits content) ∧
        (text = content ↔
          ∀ header ∈ closureHeaders content,
            closingBrace content (header.stop - 1) = none) := by
  rcases (sweep_migrateTasks content).exists_edits 0 with
    ⟨edits, hFits, hEdited⟩
  refine ⟨edits, migrateTasks content,
    transform_eq_migrateTasks hKind content, hFits.headers, ?_,
    hEdited.symm, ?_, migrateTasks_eq_iff⟩
  · intro edit hEdit
    rcases hFits.closes edit hEdit with
      ⟨hStop, front, back, hText, hClose⟩
    refine ⟨hStop, ?_⟩
    rw [hClose, hText, Nat.zero_add]
    simp
  · rw [← hEdited]
    exact closureHeaders_edited hFits

/-
  A commented header whose comment hides its braces, in a task
  that is closed by the brace that the other one got, and a
  task that is not closed.
-/
def crossed : List Char :=
  ("task a << \x7b if (x) \x7b\n" ++
    "  // task b<<\x7b\n" ++
    "\x7d \x7d\n" ++
    "task c << \x7b\n").toList

/- Both new braces stand behind the first closing brace. -/
theorem transform_edits_tasks_crossed :
    ∃ rule,
      Builtin.taskLeftshift.build = .ok rule ∧
        rule.kind = .taskLeftShift ∧
        ∃ edits text,
          rule.transform crossed = .ok text ∧
            (edits.map (·.header)).Sublist
              (closureHeaders crossed) ∧
            text = edited edits crossed ∧
            text =
              ("task a \x7b doLast \x7b if (x) \x7b\n" ++
                "  // task b \x7b doLast \x7b\n" ++
                "\x7d \x7d \x7d \x7d\n" ++
                "task c << \x7b\n").toList ∧
            closureHeaders text =
              ((closureHeaders crossed).filter
                (· ∉ edits.map (·.header))).map
                  (TaskHeader.moved edits crossed) := by
  rcases exists_taskLeftshift with ⟨rule, hRule, hKind⟩
  rcases transform_edits_tasks hKind crossed with
    ⟨edits, text, hText, hSome, _, hEdited, hHeaders, _⟩
  refine ⟨rule, hRule, hKind, edits, text, hText, hSome,
    hEdited, ?_, hHeaders⟩
  have hScript : crossed = Text.decoded _ :=
    Text.toList_eq_decoded _
  rw [transform_eq_migrateTasks hKind] at hText
  rw [← Except.ok.inj hText, hScript, Text.toList_eq_decoded]
  decide +kernel

end Rule

end GradleMigration
