/-
  Sets of module names.

  Key definitions include:
    * `ModuleSet`
    * `ModuleSet.ofList`

  A set is the list of its members in strictly increasing
  order, so that equal sets are equal lists.
-/

------------------------------------------------------------
-- Sorted Lists
------------------------------------------------------------

namespace GradleMigration

namespace ModuleSet

/- Put a name at its place, unless it is there. -/
def insertName
    (name : String) : List String → List String
| [] => [name]
| other :: rest =>
    if name = other then
      other :: rest
    else if name < other then
      name :: other :: rest
    else
      other :: insertName name rest

/- The members after putting a name at its place. -/
theorem mem_insertName
    {name other : String}
    {names : List String} :
    other ∈ insertName name names ↔
      other = name ∨ other ∈ names := by
  induction names with
  | nil => simp [insertName]
  | cons head rest ih =>
      by_cases hEq : name = head
      · simp [insertName, hEq]
      · by_cases hLt : name < head
        · simp [insertName, hEq, hLt]
        · simp only [insertName, hEq, hLt, if_false,
            List.mem_cons, ih]
          exact or_left_comm

/- Putting a name at its place keeps a list in order. -/
theorem sorted_insertName
    {name : String}
    {names : List String}
    (h : names.Pairwise (· < ·)) :
    (insertName name names).Pairwise (· < ·) := by
  induction names with
  | nil => simp [insertName]
  | cons head rest ih =>
      have hParts := List.pairwise_cons.mp h
      by_cases hEq : name = head
      · simpa [insertName, hEq] using h
      · by_cases hLt : name < head
        · simp only [insertName, hEq, hLt, if_false, if_true]
          refine List.pairwise_cons.mpr ⟨fun x hx => ?_, h⟩
          rcases List.mem_cons.mp hx with hHead | hRest
          · exact hHead ▸ hLt
          · exact String.lt_trans hLt (hParts.1 x hRest)
        · simp only [insertName, hEq, hLt, if_false]
          refine List.pairwise_cons.mpr
            ⟨fun x hx => ?_, ih hParts.2⟩
          rcases mem_insertName.mp hx with hName | hRest
          · subst hName
            exact Decidable.byContradiction fun hNot =>
              hEq (String.le_antisymm (String.not_lt.mp hNot)
                (String.not_lt.mp hLt))
          · exact hParts.1 x hRest

end ModuleSet

end GradleMigration

------------------------------------------------------------
-- Sets
------------------------------------------------------------

namespace GradleMigration

/- A set of module names. -/
structure ModuleSet where
  names : List String
  sorted : names.Pairwise (· < ·)
deriving DecidableEq

namespace ModuleSet

instance : Repr ModuleSet where
  reprPrec set _ := repr set.names

/- The set with no member. -/
def empty : ModuleSet :=
  ⟨[], List.Pairwise.nil⟩

/- Add a member. -/
def insert
    (set : ModuleSet)
    (name : String) : ModuleSet :=
  ⟨insertName name set.names, sorted_insertName set.sorted⟩

/- The set of the names in a list. -/
def ofList : List String → ModuleSet
| [] => empty
| name :: rest => (ofList rest).insert name

end ModuleSet

end GradleMigration
