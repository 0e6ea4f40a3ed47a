import GradleMigration.File.Path

/-
  Paths are told apart by their texts, and their order is a
  linear one.

  Main declarations:
    * `Path.print_injective`
    * `Path.le_total`
    * `Path.le_trans`
    * `Path.le_antisymm`
-/

------------------------------------------------------------
-- Texts of Paths
------------------------------------------------------------

namespace GradleMigration

/- A name is its text. -/
theorem Name.text_injective
    {a b : Name}
    (h : a.text = b.text) :
    a = b := by
  cases a
  cases b
  cases h
  rfl

/- An anchoring is its text. -/
theorem Anchoring.text_injective
    {a b : Anchoring}
    (h : a.text = b.text) :
    a = b := by
  revert h
  cases a <;> cases b <;> decide

namespace Path

/- A path is its anchoring and its names. -/
theorem eq_of_parts
    {a b : Path}
    (hAnchoring : a.anchoring = b.anchoring)
    (hParts : a.parts = b.parts) :
    a = b := by
  cases a
  cases b
  cases hAnchoring
  cases hParts
  rfl

/- Lists of names with the same texts are the same. -/
theorem names_injective
    {a b : List Name}
    (h : a.map Name.text = b.map Name.text) :
    a = b :=
  (List.map_inj_right fun _ _ => Name.text_injective).mp h

/- The characters of the names of a path. -/
def letters
    (names : List Name) : List (List Char) :=
  names.map fun name => name.text.toList

/- No name holds a slash. -/
theorem slash_not_mem_letters
    {names : List Name}
    {text : List Char}
    (h : text ∈ letters names) :
    '/' ∉ text := by
  rcases List.mem_map.mp h with ⟨name, _, hEq⟩
  subst hEq
  exact name.valid.2.2

/- No name is empty. -/
theorem nil_not_mem_letters
    (names : List Name) :
    [] ∉ letters names := by
  intro h
  rcases List.mem_map.mp h with ⟨name, _, hEq⟩
  exact name.valid.1 (String.toList_eq_nil_iff.mp hEq)

/- Names put together with slashes can be taken apart. -/
theorem intercalate_injective
    {a b : List Name}
    (h : ['/'].intercalate (letters a) =
      ['/'].intercalate (letters b)) :
    a = b := by
  have hLetters : letters a = letters b := by
    have hSplit :=
      congrArg (List.splitOn '/') h
    have hNil :
        ∀ names : List Name, letters names ≠ [] →
          (['/'].intercalate (letters names)).splitOn '/' =
            letters names := by
      intro names hNames
      exact List.splitOn_intercalate '/'
        (fun _ => slash_not_mem_letters) hNames
    by_cases hA : letters a = []
    · by_cases hB : letters b = []
      · rw [hA, hB]
      · rw [hNil b hB, hA] at hSplit
        exact absurd (hSplit ▸ by simp : [] ∈ letters b)
          (nil_not_mem_letters b)
    · by_cases hB : letters b = []
      · rw [hNil a hA, hB] at hSplit
        exact absurd (hSplit ▸ by simp : [] ∈ letters a)
          (nil_not_mem_letters a)
      · rw [hNil a hA, hNil b hB] at hSplit
        exact hSplit
  refine (List.map_inj_right ?_).mp hLetters
  intro x y hText
  exact Name.text_injective (String.toList_inj.mp hText)

/- Names put together do not start with a slash. -/
theorem head?_intercalate
    (names : List Name) :
    (['/'].intercalate (letters names)).head? ≠ some '/' := by
  cases names with
  | nil =>
      intro h
      cases h
  | cons name rest =>
      have hName := name.valid
      cases hText : name.text.toList with
      | nil =>
          exact absurd (String.toList_eq_nil_iff.mp hText)
            hName.1
      | cons c more =>
          have hSlash : c ≠ '/' := by
            intro hEq
            apply hName.2.2
            rw [hText, hEq]
            exact List.mem_cons_self
          simp only [letters, List.map_cons, hText,
            List.intercalate_cons_cons_left, List.head?_cons]
          intro hEq
          injection hEq with hEq
          exact hSlash hEq

/- The characters of a path with an anchor or names. -/
theorem toList_print_of_ne
    {path : Path}
    (h : ¬ (path.anchoring = .relative ∧ path.parts = [])) :
    path.print.toList =
      path.anchoring.text.toList ++
        ['/'].intercalate (letters path.parts) := by
  unfold print texts letters
  rw [if_neg h]
  simp [List.map_map, Function.comp_def]

theorem toList_print
    {path : Path}
    (h : path.isAbsolute = true) :
    path.print.toList =
      path.anchoring.text.toList ++
        ['/'].intercalate (letters path.parts) := by
  have hAnchored : path.anchoring ≠ .relative := by
    unfold isAbsolute at h
    exact bne_iff_ne.mp h
  exact toList_print_of_ne fun hEmpty => hAnchored hEmpty.1

/- Paths from the root with the same text are the same. -/
theorem print_injective
    {a b : Path}
    (hA : a.isAbsolute = true)
    (hB : b.isAbsolute = true)
    (h : a.print = b.print) :
    a = b := by
  have hTexts := congrArg String.toList h
  rw [toList_print hA, toList_print hB] at hTexts
  have hHeadA := head?_intercalate a.parts
  have hHeadB := head?_intercalate b.parts
  have hSame : a.anchoring = b.anchoring → a = b := by
    intro hAnchoring
    rw [hAnchoring, List.append_cancel_left_eq] at hTexts
    exact eq_of_parts hAnchoring (intercalate_injective hTexts)
  cases hAnchorA : a.anchoring with
  | relative => simp [isAbsolute, hAnchorA] at hA
  | slash =>
      cases hAnchorB : b.anchoring with
      | relative => simp [isAbsolute, hAnchorB] at hB
      | slash =>
          exact hSame (by rw [hAnchorA, hAnchorB])
      | doubleSlash =>
          rw [hAnchorA, hAnchorB] at hTexts
          have hTail :
              ['/'].intercalate (letters a.parts) =
                '/' :: ['/'].intercalate (letters b.parts) :=
            List.tail_eq_of_cons_eq hTexts
          rw [hTail] at hHeadA
          exact absurd rfl hHeadA
  | doubleSlash =>
      cases hAnchorB : b.anchoring with
      | relative => simp [isAbsolute, hAnchorB] at hB
      | slash =>
          rw [hAnchorA, hAnchorB] at hTexts
          have hTail :
              '/' :: ['/'].intercalate (letters a.parts) =
                ['/'].intercalate (letters b.parts) :=
            List.tail_eq_of_cons_eq hTexts
          rw [← hTail] at hHeadB
          exact absurd rfl hHeadB
      | doubleSlash =>
          exact hSame (by rw [hAnchorA, hAnchorB])

end Path

end GradleMigration

------------------------------------------------------------
-- The Order of Paths
------------------------------------------------------------

namespace GradleMigration

namespace Path

theorem textsLe_total
    (a b : List String) :
    textsLe a b = true ∨ textsLe b a = true := by
  induction a generalizing b with
  | nil => exact Or.inl rfl
  | cons x a ih =>
      cases b with
      | nil => exact Or.inr rfl
      | cons y b =>
          unfold textsLe
          by_cases hEq : x = y
          · subst hEq
            simpa using ih b
          · rw [if_neg hEq, if_neg (Ne.symm hEq)]
            simp only [decide_eq_true_eq]
            by_cases hLt : x < y
            · exact Or.inl hLt
            · right
              apply Classical.byContradiction
              intro hGt
              exact hEq (String.le_antisymm
                (String.not_lt.mp hGt) (String.not_lt.mp hLt))

theorem textsLe_trans
    {a b c : List String}
    (hAB : textsLe a b = true)
    (hBC : textsLe b c = true) :
    textsLe a c = true := by
  induction a generalizing b c with
  | nil => rfl
  | cons x a ih =>
      cases b with
      | nil => cases hAB
      | cons y b =>
          cases c with
          | nil => cases hBC
          | cons z c =>
              unfold textsLe at hAB hBC ⊢
              by_cases hXY : x = y
              · subst hXY
                rw [if_pos rfl] at hAB
                by_cases hXZ : x = z
                · rw [if_pos hXZ] at hBC ⊢
                  exact ih hAB hBC
                · rw [if_neg hXZ] at hBC ⊢
                  exact hBC
              · rw [if_neg hXY, decide_eq_true_eq] at hAB
                by_cases hYZ : y = z
                · subst hYZ
                  rw [if_neg hXY, decide_eq_true_eq]
                  exact hAB
                · rw [if_neg hYZ, decide_eq_true_eq] at hBC
                  have hXZ := String.lt_trans hAB hBC
                  rw [if_neg (String.ne_of_lt hXZ),
                    decide_eq_true_eq]
                  exact hXZ

theorem textsLe_antisymm
    {a b : List String}
    (hAB : textsLe a b = true)
    (hBA : textsLe b a = true) :
    a = b := by
  induction a generalizing b with
  | nil =>
      cases b with
      | nil => rfl
      | cons y b => cases hBA
  | cons x a ih =>
      cases b with
      | nil => cases hAB
      | cons y b =>
          unfold textsLe at hAB hBA
          by_cases hEq : x = y
          · subst hEq
            rw [if_pos rfl] at hAB hBA
            rw [ih hAB hBA]
          · rw [if_neg hEq, decide_eq_true_eq] at hAB
            rw [if_neg (Ne.symm hEq), decide_eq_true_eq] at hBA
            exact absurd hBA (String.lt_asymm hAB)

theorem le_total
    (a b : Path) :
    (a.le b || b.le a) = true := by
  rw [Bool.or_eq_true]
  exact textsLe_total _ _

theorem le_trans
    (a b c : Path)
    (hAB : a.le b = true)
    (hBC : b.le c = true) :
    a.le c = true :=
  textsLe_trans hAB hBC

/- Paths that are not before each other are the same. -/
theorem le_antisymm
    {a b : Path}
    (hAB : a.le b = true)
    (hBA : b.le a = true) :
    a = b := by
  have hTexts := textsLe_antisymm hAB hBA
  injection hTexts with hAnchoring hNames
  exact eq_of_parts (Anchoring.text_injective hAnchoring)
    (names_injective hNames)

end Path

end GradleMigration
