import GradleMigration.Script.TaskClosure

/-
  Tasks whose actions are appended with the shift operator are
  migrated where their bodies are closed.

  Migrating a task takes the operator away and never puts one
  in, so the text cannot come back to what it was.

  Main declarations:
    * `TaskHeader.Heads`
    * `braceReach`
    * `stop_mem_closureHeaders`
    * `migrateTasks_ne`
-/

------------------------------------------------------------
-- What a Header Looks Like
------------------------------------------------------------

namespace GradleMigration

namespace Script

/-
  A text starts with a header: the operator stands in it, and
  its only brace is its last character.
-/
structure TaskHeader.Heads
    (header : TaskHeader)
    (text front body : List Char) : Prop where
  text_eq : text = front ++ '\x7b' :: body
  no_brace : '\x7b' ∉ front
  shift : '<' ∈ front
  size_eq : header.size = front.length + 1
  name_plain : '<' ∉ header.name

/- What is passed over in a text, and what is left of it. -/
theorem exists_passed
    (test : Char → Bool)
    (text : List Char) :
    ∃ passed, text.takeWhile test = passed ∧
      text = passed ++ text.dropWhile test ∧
        ∀ c, test c = false → c ∉ passed := by
  refine ⟨text.takeWhile test, rfl,
    List.takeWhile_append_dropWhile.symm, ?_⟩
  intro c hTest hMem
  have hAll := List.all_takeWhile (p := test) (l := text)
  rw [List.all_eq_true] at hAll
  rw [hAll c hMem] at hTest
  cases hTest

/- The parts of a header up to the operator. -/
theorem of_shiftHeader
    {text name behind : List Char}
    (h : shiftHeader text = some (name, behind)) :
    ∃ front, text = front ++ behind ∧
      '\x7b' ∉ front ∧ '<' ∈ front ∧ '<' ∉ name := by
  unfold shiftHeader at h
  split at h
  · next hTask =>
      rcases List.isPrefixOf_iff_prefix.mp hTask with
        ⟨rest, hRest⟩
      subst hRest
      simp only [List.drop_left] at h
      split at h
      · cases h
      · split at h
        · next after hShift =>
            cases h
            rcases exists_passed Text.isBlank rest with
              ⟨blanks, _, hBlanks, hBlank⟩
            rcases exists_passed Text.isWord
                (rest.dropWhile Text.isBlank) with
              ⟨word, hName, hWord, hPlain⟩
            rcases exists_passed Text.isBlank
                ((rest.dropWhile Text.isBlank).dropWhile
                  Text.isWord) with
              ⟨more, _, hMore, hBare⟩
            rw [hShift] at hMore
            rw [hMore] at hWord
            refine ⟨taskWord ++ blanks ++ word ++ more ++
              ['<', '<'], ?_, ?_, by simp,
              hName ▸ hPlain _ (by decide)⟩
            · rw [hBlanks, hWord]
              simp
            · simp only [List.mem_append, not_or]
              exact ⟨⟨⟨⟨by decide, hBlank _ (by decide)⟩,
                hPlain _ (by decide)⟩,
                hBare _ (by decide)⟩, by decide⟩
        · cases h
  · cases h

/- The parts of a closure header. -/
theorem heads_of_headerHere
    {insideWord : Bool}
    {pos : Nat}
    {text : List Char}
    {header : TaskHeader}
    (h : headerHere insideWord pos text = some header) :
    header.start = pos ∧
      ∃ front body, header.Heads text front body := by
  unfold headerHere at h
  split at h
  · cases h
  · rcases Option.map_eq_some_iff.mp h with
      ⟨⟨name, body⟩, hClosure, hHeader⟩
    subst hHeader
    refine ⟨rfl, ?_⟩
    unfold closureHeader at hClosure
    split at hClosure
    · cases hClosure
    · next shiftName behind hShift =>
        rcases of_shiftHeader hShift with
          ⟨front, hText, hBrace, hMem, hName⟩
        split at hClosure
        · next rest hBody =>
            cases hClosure
            rcases exists_passed Text.isBlank behind with
              ⟨blanks, _, hBehind, hBlank⟩
            rw [hBody] at hBehind
            have hWhole :
                text = (front ++ blanks) ++ '\x7b' :: body := by
              rw [hText, hBehind, List.append_assoc]
            refine ⟨front ++ blanks, body,
              ⟨hWhole, ?_, List.mem_append_left _ hMem, ?_,
                hName⟩⟩
            · rw [List.mem_append, not_or]
              exact ⟨hBrace, hBlank _ (by decide)⟩
            · simp only [hWhole, List.length_append,
                List.length_cons]
              omega
        · cases hClosure

end Script

end GradleMigration

------------------------------------------------------------
-- Headers that Share a Brace
------------------------------------------------------------

namespace GradleMigration

namespace Script

/- The length of a text up to its first opening brace. -/
def braceReach
    (text : List Char) : Nat :=
  (text.takeWhile (· != '\x7b')).length + 1

/- A header ends behind the first brace. -/
theorem TaskHeader.Heads.size_eq_braceReach
    {header : TaskHeader}
    {text front body : List Char}
    (h : header.Heads text front body) :
    header.size = braceReach text := by
  unfold braceReach
  rw [h.size_eq, h.text_eq, List.takeWhile_append_of_pos]
  · simp
  · intro c hC
    apply bne_iff_ne.mpr
    intro hEq
    subst hEq
    exact h.no_brace hC

/- The reach of a text whose first character is no brace. -/
theorem braceReach_cons
    {c : Char}
    (h : c ≠ '\x7b')
    (rest : List Char) :
    braceReach (c :: rest) = braceReach rest + 1 := by
  unfold braceReach
  rw [List.takeWhile_cons, if_pos (bne_iff_ne.mpr h),
    List.length_cons]

/- Whether the place behind a part of a text is in a word. -/
def insideAfter
    (insideWord : Bool)
    (front : List Char) : Bool :=
  (front.getLast?.map Text.isWord).getD insideWord

theorem insideAfter_cons
    (insideWord : Bool)
    (c : Char)
    (front : List Char) :
    insideAfter insideWord (c :: front) =
      insideAfter (Text.isWord c) front := by
  unfold insideAfter
  rw [List.getLast?_cons]
  cases front.getLast? with
  | none => rfl
  | some d => rfl

theorem insideAfter_append
    (insideWord : Bool)
    (first second : List Char) :
    insideAfter insideWord (first ++ second) =
      insideAfter (insideAfter insideWord first) second := by
  induction first generalizing insideWord with
  | nil => rfl
  | cons c more ih =>
      rw [List.cons_append, insideAfter_cons, insideAfter_cons,
        ih]

@[simp] theorem insideAfter_concat
    (insideWord : Bool)
    (front : List Char)
    (c : Char) :
    insideAfter insideWord (front ++ [c]) =
      Text.isWord c := by
  rw [insideAfter_append, insideAfter_cons]
  rfl

/-
  The scan for headers leaves one out only where an earlier
  one ends behind the same brace.
-/
theorem stop_mem_headersFrom
    {skip pos offset : Nat}
    {insideWord : Bool}
    {text : List Char}
    (hSkip : skip = 0 ∨ skip = braceReach text)
    {header : TaskHeader}
    (hHeader :
      headerHere (insideAfter insideWord (text.take offset))
        (pos + offset) (text.drop offset) = some header) :
    (offset < skip ∧ header.stop = pos + skip) ∨
      ∃ other ∈ headersFrom skip insideWord pos text,
        other.stop = header.stop := by
  induction text generalizing skip pos insideWord offset with
  | nil =>
      rcases heads_of_headerHere hHeader with
        ⟨_, front, body, hHeads⟩
      have hText := hHeads.text_eq
      simp at hText
  | cons c rest ih =>
      cases offset with
      | zero =>
          rcases heads_of_headerHere hHeader with
            ⟨hStart, front, body, hHeads⟩
          cases skip with
          | succ skip =>
              rcases hSkip with hZero | hReach
              · cases hZero
              · refine Or.inl ⟨Nat.succ_pos skip, ?_⟩
                rw [TaskHeader.stop, hStart, hReach]
                exact congrArg (pos + ·)
                  hHeads.size_eq_braceReach
          | zero =>
              rw [headersFrom]
              have hHere :
                  headerHere insideWord pos (c :: rest) =
                    some header := hHeader
              rw [hHere]
              exact Or.inr ⟨header, List.mem_cons_self, rfl⟩
      | succ offset =>
          rw [List.take_succ_cons, insideAfter_cons,
            List.drop_succ_cons,
            show pos + (offset + 1) = pos + 1 + offset by omega]
            at hHeader
          cases skip with
          | succ skip =>
              rw [headersFrom]
              have hRest : skip = 0 ∨ skip = braceReach rest := by
                rcases hSkip with hZero | hReach
                · cases hZero
                · by_cases hBrace : c = '\x7b'
                  · subst hBrace
                    exact Or.inl (Nat.succ.inj hReach)
                  · rw [braceReach_cons hBrace] at hReach
                    exact Or.inr (Nat.succ.inj hReach)
              rcases ih hRest hHeader with
                ⟨hLess, hStop⟩ | hLater
              · exact Or.inl ⟨Nat.succ_lt_succ hLess, by omega⟩
              · exact Or.inr hLater
          | zero =>
              rw [headersFrom]
              split
              · rcases ih (Or.inl rfl) hHeader with hSkip | hLater
                · exact absurd hSkip.1 (Nat.not_lt_zero _)
                · exact Or.inr hLater
              · next first hFirst =>
                  rcases heads_of_headerHere hFirst with
                    ⟨hStart, front, body, hHeads⟩
                  have hReach := hHeads.size_eq_braceReach
                  -- Its only brace is not its first character.
                  have hBrace : c ≠ '\x7b' := by
                    intro hEq
                    subst hEq
                    cases front with
                    | nil => cases hHeads.shift
                    | cons d front =>
                        have hText := hHeads.text_eq
                        injection hText with hHead _
                        exact hHeads.no_brace
                          (hHead ▸ List.mem_cons_self)
                  rw [braceReach_cons hBrace] at hReach
                  have hRest : first.size - 1 = braceReach rest := by
                    omega
                  rcases ih (Or.inr hRest) hHeader with
                    ⟨_, hStop⟩ | ⟨other, hOther, hStop⟩
                  · refine Or.inr
                      ⟨first, List.mem_cons_self, ?_⟩
                    rw [TaskHeader.stop, hStart]
                    omega
                  · exact Or.inr ⟨other,
                      List.mem_cons_of_mem _ hOther, hStop⟩

/- Every header ends behind a brace that the scan finds. -/
theorem stop_mem_closureHeaders
    {content : List Char}
    {pos : Nat}
    {header : TaskHeader}
    (h : closureHeaderAt content pos = some header) :
    ∃ other ∈ closureHeaders content,
      other.stop = header.stop := by
  have hHeader :
      headerHere (insideAfter false (content.take pos))
        (0 + pos) (content.drop pos) = some header := by
    rw [Nat.zero_add]
    exact h
  rcases stop_mem_headersFrom (Or.inl rfl) hHeader with
    hSkip | hOther
  · exact absurd hSkip.1 (Nat.not_lt_zero _)
  · exact hOther

end Script

end GradleMigration

------------------------------------------------------------
-- Migrating Takes Operators Away
------------------------------------------------------------

namespace GradleMigration

namespace Script

/- The headers that the scan finds stand in the text. -/
theorem heads_of_mem_headersFrom
    {skip pos : Nat}
    {insideWord : Bool}
    {text : List Char}
    {header : TaskHeader}
    (h : header ∈ headersFrom skip insideWord pos text) :
    ∃ offset, header.start = pos + offset ∧
      ∃ front body,
        header.Heads (text.drop offset) front body := by
  induction text generalizing skip pos insideWord with
  | nil => cases h
  | cons c rest ih =>
      have hLater :
          ∀ {skip insideWord},
            header ∈ headersFrom skip insideWord (pos + 1) rest →
              ∃ offset, header.start = pos + offset ∧
                ∃ front body,
                  header.Heads ((c :: rest).drop offset)
                    front body := by
        intro skip insideWord hMem
        rcases ih hMem with ⟨offset, hStart, hHeads⟩
        exact ⟨offset + 1, by omega, hHeads⟩
      cases skip with
      | succ skip =>
          rw [headersFrom] at h
          exact hLater h
      | zero =>
          rw [headersFrom] at h
          split at h
          · exact hLater h
          · next first hFirst =>
              rcases List.mem_cons.mp h with hHere | hRest
              · subst hHere
                rcases heads_of_headerHere hFirst with
                  ⟨hStart, hHeads⟩
                exact ⟨0, hStart, hHeads⟩
              · exact hLater hRest

theorem heads_of_mem_closureHeaders
    {content : List Char}
    {header : TaskHeader}
    (h : header ∈ closureHeaders content) :
    ∃ front body,
      header.Heads (content.drop header.start) front body := by
  rcases heads_of_mem_headersFrom h with
    ⟨offset, hStart, hHeads⟩
  rw [hStart, Nat.zero_add]
  exact hHeads

/- The brace that closes another one is not before it. -/
theorem le_of_blockEndFrom
    {skip pos close : Nat}
    {depth : Int}
    {text : List Char}
    (h : blockEndFrom skip depth pos text = some close) :
    pos ≤ close := by
  induction text generalizing skip depth pos with
  | nil => cases h
  | cons c rest ih =>
      cases skip with
      | succ skip =>
          rw [blockEndFrom] at h
          have hLe := ih h
          omega
      | zero =>
          rw [blockEndFrom] at h
          split at h
          · have hLe := ih h
            omega
          · split at h
            · split at h
              · cases h
                exact Nat.le_refl _
              · have hLe := ih h
                omega
            · have hLe := ih h
              omega

/-
  Migrating a task leaves out the operators of its header, and
  keeps those in front of it and behind it.
-/
theorem count_migrateTask
    {header : TaskHeader}
    (hName : '<' ∉ header.name)
    {content : List Char}
    {close : Nat}
    (hClose :
      closingBrace content (header.stop - 1) = some close) :
    (migrateTask header content).count '<' =
      (content.take header.start).count '<' +
        (content.drop header.stop).count '<' := by
  have hLe : header.stop ≤ close + 1 := by
    have hBrace := le_of_blockEndFrom hClose
    omega
  have hNew : (newHeader header.name).count '<' = 0 := by
    apply List.count_eq_zero.mpr
    unfold newHeader
    simp only [List.mem_append, not_or]
    exact ⟨⟨by decide, hName⟩, by decide⟩
  have hBody :
      content.drop header.stop =
        Text.slice content header.stop (close + 1) ++
          content.drop (close + 1) := by
    unfold Text.slice
    conv =>
      lhs
      rw [← List.take_append_drop (close + 1 - header.stop)
        (content.drop header.stop)]
    rw [List.drop_drop, Nat.add_sub_cancel' hLe]
  unfold migrateTask
  rw [hClose, hBody]
  simp only [List.count_append, hNew]
  have hEnd : " \x7d".toList.count '<' = 0 := by decide
  omega

/- Migrating a task puts no operator in. -/
theorem count_migrateTask_le
    {header : TaskHeader}
    (hName : '<' ∉ header.name)
    (content : List Char) :
    (migrateTask header content).count '<' ≤
      content.count '<' := by
  cases hClose : closingBrace content (header.stop - 1) with
  | none =>
      have hSame : migrateTask header content = content := by
        unfold migrateTask
        rw [hClose]
      exact Nat.le_of_eq (congrArg (List.count '<') hSame)
  | some close =>
      rw [count_migrateTask hName hClose]
      have hDrop :
          (content.drop header.stop).count '<' ≤
            (content.drop header.start).count '<' := by
        apply List.Sublist.count_le
        apply List.drop_sublist_drop_left
        exact Nat.le_add_right _ _
      have hSplit := congrArg (List.count '<')
        (List.take_append_drop header.start content)
      rw [List.count_append] at hSplit
      omega

/- Migrating a task in its own text takes an operator out. -/
theorem count_migrateTask_lt
    {header : TaskHeader}
    {content front body : List Char}
    (hHeads :
      header.Heads (content.drop header.start) front body)
    {close : Nat}
    (hClose :
      closingBrace content (header.stop - 1) = some close) :
    (migrateTask header content).count '<' <
      content.count '<' := by
  rw [count_migrateTask hHeads.name_plain hClose]
  have hSplit := congrArg (List.count '<')
    (List.take_append_drop header.start content)
  have hBehind :
      content.drop header.stop = body := by
    rw [TaskHeader.stop, ← List.drop_drop, hHeads.text_eq,
      hHeads.size_eq, ← List.drop_drop, List.drop_left]
    rfl
  have hShift := List.count_pos_iff.mpr hHeads.shift
  rw [List.count_append, hHeads.text_eq, List.count_append,
    List.count_cons] at hSplit
  rw [hBehind]
  omega

/-
  Migrating tasks one after another changes nothing, or takes
  an operator out.  The first task to change is still in the
  text in which its header was found.
-/
theorem count_foldr_migrateTask
    {content : List Char}
    {headers : List TaskHeader}
    (hHeads : ∀ header ∈ headers, ∃ front body,
      header.Heads (content.drop header.start) front body) :
    (headers.foldr migrateTask content = content ∧
        ∀ header ∈ headers,
          closingBrace content (header.stop - 1) = none) ∨
      (headers.foldr migrateTask content).count '<' <
        content.count '<' := by
  induction headers with
  | nil => exact Or.inl ⟨rfl, by simp⟩
  | cons header rest ih =>
      rcases hHeads header List.mem_cons_self with
        ⟨front, body, hHeader⟩
      have hRest := ih fun other hOther =>
        hHeads other (List.mem_cons_of_mem _ hOther)
      rw [List.foldr_cons]
      rcases hRest with ⟨hSame, hNone⟩ | hLess
      · rw [hSame]
        cases hClose :
            closingBrace content (header.stop - 1) with
        | none =>
            refine Or.inl ⟨?_, ?_⟩
            · unfold migrateTask
              rw [hClose]
            · intro other hOther
              rcases List.mem_cons.mp hOther with hIs | hLater
              · rw [hIs, hClose]
              · exact hNone other hLater
        | some close =>
            exact Or.inr (count_migrateTask_lt hHeader hClose)
      · exact Or.inr (Nat.lt_of_le_of_lt
          (count_migrateTask_le hHeader.name_plain _) hLess)

/- A text with a header whose body is closed is changed. -/
theorem migrateTasks_ne
    {content : List Char}
    {pos : Nat}
    {header : TaskHeader}
    (hHeader : closureHeaderAt content pos = some header)
    (hClose :
      (closingBrace content (header.stop - 1)).isSome = true) :
    migrateTasks content ≠ content := by
  rcases stop_mem_closureHeaders hHeader with
    ⟨other, hOther, hStop⟩
  intro hSame
  have hHeads :
      ∀ header ∈ closureHeaders content, ∃ front body,
        header.Heads (content.drop header.start)
          front body :=
    fun _ => heads_of_mem_closureHeaders
  rcases count_foldr_migrateTask hHeads with
    ⟨_, hNone⟩ | hLess
  · rw [← hStop, hNone other hOther] at hClose
    cases hClose
  · unfold migrateTasks at hSame
    rw [hSame] at hLess
    exact Nat.lt_irrefl _ hLess

end Script

end GradleMigration
