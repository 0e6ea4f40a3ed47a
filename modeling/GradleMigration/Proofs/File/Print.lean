import GradleMigration.Proofs.File.Order

/-
  The text of a path is read back as the path.

  Main declarations:
    * `Path.pieces_eq_splitOn`
    * `Anchoring.ofText_append`
    * `Path.parse_print`
-/

------------------------------------------------------------
-- Names Between Slashes
------------------------------------------------------------

namespace GradleMigration

namespace Path

/- A text is cut at every slash. -/
theorem pieces_eq_splitOn
    (text : List Char) :
    pieces text = text.splitOn '/' := by
  rw [List.splitOn_eq_splitOnP]
  fun_induction pieces text with
  | case1 => rfl
  | case2 rest ih =>
      rw [List.splitOnP_cons_eq_if_modifyHead, if_pos (by decide), ih]
  | case3 c rest hNot hNil ih =>
      exact absurd (ih.symm.trans hNil)
        (List.splitOnP_ne_nil _ _)
  | case4 c rest hNot piece more hPieces ih =>
      have hSlash : ¬ (c == '/') = true := by
        intro hEq
        exact hNot (beq_iff_eq.mp hEq)
      rw [List.splitOnP_cons_eq_if_modifyHead, if_neg hSlash, ← ih, hPieces]
      rfl

/- The names among the pieces of a text. -/
def namesOf
    (text : List Char) : List Name :=
  (pieces text).filterMap fun piece =>
    Name.ofText? (String.ofList piece)

theorem namesOf_slash
    (rest : List Char) :
    namesOf ('/' :: rest) = namesOf rest := by
  unfold namesOf
  rw [pieces, List.filterMap_cons_none]
  rfl

theorem ofText?_text
    (name : Name) :
    Name.ofText? name.text = some name := by
  unfold Name.ofText?
  rw [dif_pos name.valid]

/- Names put together with slashes are read back. -/
theorem namesOf_intercalate
    (names : List Name) :
    namesOf (['/'].intercalate (letters names)) = names := by
  cases names with
  | nil => rfl
  | cons name rest =>
      have hPieces :
          pieces (['/'].intercalate (letters (name :: rest))) =
            letters (name :: rest) := by
        rw [pieces_eq_splitOn]
        exact List.splitOn_intercalate '/'
          (fun _ => slash_not_mem_letters)
          (List.cons_ne_nil _ _)
      have hEach :
          (fun piece => Name.ofText? (String.ofList piece)) ∘
            (fun other : Name => other.text.toList) = some := by
        funext other
        rw [Function.comp, String.ofList_toList, ofText?_text]
      unfold namesOf
      rw [hPieces, letters, List.filterMap_map, hEach,
        List.filterMap_some]

end Path

end GradleMigration

------------------------------------------------------------
-- Whole Paths
------------------------------------------------------------

namespace GradleMigration

/- The slashes in front of the names tell the anchoring. -/
theorem Anchoring.ofText_append
    (anchoring : Anchoring)
    {text : List Char}
    (h : text.head? ≠ some '/') :
    Anchoring.ofText (anchoring.text.toList ++ text) =
      anchoring := by
  have hNone : ∀ rest, text ≠ '/' :: rest := by
    rintro rest rfl
    exact h rfl
  cases anchoring with
  | relative =>
      change Anchoring.ofText text = .relative
      unfold Anchoring.ofText
      split
      · exact absurd rfl (hNone _)
      · exact absurd rfl (hNone _)
      · exact absurd rfl (hNone _)
      · rfl
  | slash =>
      change Anchoring.ofText ('/' :: text) = .slash
      unfold Anchoring.ofText
      split
      · rfl
      · next hEq =>
          exact absurd (List.cons.inj hEq).2 (hNone _)
      · rfl
      · next hNot => exact absurd rfl (hNot text)
  | doubleSlash =>
      change Anchoring.ofText ('/' :: '/' :: text) =
        .doubleSlash
      unfold Anchoring.ofText
      split
      · next hEq =>
          exact absurd
            (List.cons.inj (List.cons.inj hEq).2).2 (hNone _)
      · rfl
      · next hNot hEq =>
          exact absurd (List.cons.inj hEq).2.symm (hNot text)
      · next hNot => exact absurd rfl (hNot ('/' :: text))

namespace Path

theorem namesOf_anchored
    (anchoring : Anchoring)
    (text : List Char) :
    namesOf (anchoring.text.toList ++ text) =
      namesOf text := by
  cases anchoring with
  | relative => rfl
  | slash => exact namesOf_slash text
  | doubleSlash =>
      exact (namesOf_slash ('/' :: text)).trans
        (namesOf_slash text)

/- A path is read back from its text. -/
theorem parse_print
    (path : Path) :
    parse path.print = path := by
  by_cases hEmpty :
      path.anchoring = .relative ∧ path.parts = []
  · rcases path with ⟨anchoring, parts⟩
    rcases hEmpty with ⟨rfl, rfl⟩
    decide
  · have hText := toList_print_of_ne hEmpty
    apply eq_of_parts
    · rw [parse, hText]
      exact path.anchoring.ofText_append
        (head?_intercalate path.parts)
    · rw [parse, hText]
      exact (namesOf_anchored _ _).trans
        (namesOf_intercalate path.parts)

end Path

end GradleMigration
