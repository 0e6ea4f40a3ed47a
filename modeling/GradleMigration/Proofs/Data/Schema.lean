import GradleMigration.Data.Schema
import Mathlib.Data.List.Forall2

/-
  Checks that succeed: what each combinator of checks gives,
  and what the parts of the data were when it gives a value.

  Main declarations:
    * `Checked.map_eq_good_iff`
    * `Checked.seq_eq_good_iff`
    * `Schema.required_eq_good_iff`
    * `Schema.Stands` and `Schema.optional_eq_good_iff`
    * `Schema.itemsFrom_eq_good_iff`
    * `Schema.itemsFrom_map`
    * `Schema.exists_of_mem_listOf`
    * `Schema.listOf_text_eq_good_iff`
-/

------------------------------------------------------------
-- Checked Values
------------------------------------------------------------

namespace GradleMigration

namespace Checked

variable {α β : Type}

theorem map_eq_good_iff
    {f : α → β}
    {checked : Checked α}
    {b : β} :
    f <$> checked = .good b ↔
      ∃ a, checked = .good a ∧ f a = b := by
  change apply (.good f) checked = .good b ↔ _
  cases checked with
  | good a => simp [apply]
  | bad issues => simp [apply]

theorem seq_eq_good_iff
    {f : Checked (α → β)}
    {checked : Checked α}
    {b : β} :
    f <*> checked = .good b ↔
      ∃ g a, f = .good g ∧ checked = .good a ∧ g a = b := by
  change apply f checked = .good b ↔ _
  cases f with
  | good g =>
      cases checked with
      | good a => simp [apply]
      | bad issues => simp [apply]
  | bad more =>
      cases checked with
      | good a => simp [apply]
      | bad issues => simp [apply]

theorem under_eq_good_iff
    {step : Step}
    {checked : Checked α}
    {a : α} :
    checked.under step = .good a ↔ checked = .good a := by
  cases checked with
  | good b => exact Iff.rfl
  | bad issues => simp [under]

end Checked

end GradleMigration

------------------------------------------------------------
-- Parts of a Table
------------------------------------------------------------

namespace GradleMigration

/- An entry that is looked up is in the table. -/
theorem Table.mem_of_get?
    {table : Table}
    {name : String}
    {datum : Datum}
    (h : table.get? name = some datum) :
    (name, datum) ∈ table := by
  rcases List.lookup_eq_some_iff.mp h with
    ⟨before, after, hTable, -⟩
  rw [hTable]
  exact List.mem_append_right _ List.mem_cons_self

namespace Schema

variable {α : Type}
variable {table : Table}
variable {name : String}
variable {check : Datum → Checked α}

/- A required part is there and passes its check. -/
theorem required_eq_good_iff
    {a : α} :
    required table name check = .good a ↔
      ∃ datum, table.get? name = some datum ∧
        check datum = .good a := by
  unfold required
  cases table.get? name with
  | none => simp
  | some datum => simp [Checked.under_eq_good_iff]

/-
  What a part with a default stands for: the default where it
  is left out, and else what it means.
-/
def Stands
    (table : Table)
    (name : String)
    (default : α)
    (means : Datum → α → Prop)
    (a : α) : Prop :=
  (table.get? name = none ∧ a = default) ∨
    ∃ datum, table.get? name = some datum ∧ means datum a

/- A part with a default is left out or passes its check. -/
theorem optional_eq_good_iff
    {means : Datum → α → Prop}
    (hMeans : ∀ datum a, check datum = .good a ↔ means datum a)
    {default a : α} :
    optional table name default check = .good a ↔
      Stands table name default means a := by
  unfold optional Stands
  cases table.get? name with
  | none => simp [eq_comm]
  | some datum =>
      simp [Checked.under_eq_good_iff, hMeans]

end Schema

end GradleMigration

------------------------------------------------------------
-- Items of a List
------------------------------------------------------------

namespace GradleMigration

namespace Schema

variable {α : Type}
variable {check : Datum → Checked α}

/- A list passes its check when every item does. -/
theorem itemsFrom_eq_good_iff
    {items : List Datum}
    {position : Nat}
    {values : List α} :
    itemsFrom check position items = .good values ↔
      List.Forall₂ (fun item a => check item = .good a)
        items values := by
  induction items generalizing position values with
  | nil =>
      rw [List.forall₂_nil_left_iff, itemsFrom,
        Checked.good.injEq, eq_comm]
  | cons item items ih =>
      rw [List.forall₂_cons_left_iff, itemsFrom,
        Checked.seq_eq_good_iff]
      constructor
      · rintro ⟨g, rest, hFirst, hRest, rfl⟩
        rcases Checked.map_eq_good_iff.mp hFirst with
          ⟨first, hItem, rfl⟩
        exact ⟨first, rest, Checked.under_eq_good_iff.mp hItem,
          ih.mp hRest, rfl⟩
      · rintro ⟨first, rest, hItem, hRest, rfl⟩
        refine ⟨List.cons first, rest, ?_, ih.mpr hRest, rfl⟩
        exact Checked.map_eq_good_iff.mpr ⟨first,
          Checked.under_eq_good_iff.mpr hItem, rfl⟩

/- Items that each pass their check are a checked list. -/
theorem itemsFrom_map
    {values : List α}
    {write : α → Datum}
    (h : ∀ a ∈ values, check (write a) = .good a)
    (position : Nat) :
    itemsFrom check position (values.map write) =
      .good values := by
  rw [itemsFrom_eq_good_iff, List.forall₂_map_left_iff,
    List.forall₂_same]
  exact h

/- The values of a checked list come from its items. -/
theorem exists_of_mem_listOf
    {datum : Datum}
    {values : List α}
    (h : listOf check datum = .good values)
    {a : α}
    (hMem : a ∈ values) :
    ∃ items, datum = .list items ∧
      ∃ item ∈ items, check item = .good a := by
  unfold listOf at h
  split at h
  · next items =>
      rcases List.getElem_of_mem hMem with ⟨i, hIndex, rfl⟩
      have hAll := itemsFrom_eq_good_iff.mp h
      have hItem : i < items.length := hAll.length_eq ▸ hIndex
      exact ⟨items, rfl, items[i], List.getElem_mem hItem,
        hAll.get hItem hIndex⟩
  · cases h

/- A list of texts is one whose items are texts. -/
theorem listOf_text_eq_good_iff
    {datum : Datum}
    {values : List String} :
    listOf text datum = .good values ↔
      datum = .list (values.map .text) := by
  have hText : ∀ (item : Datum) (s : String),
      text item = .good s ↔ item = .text s := by
    intro item s
    cases item with
    | text t => simp [text]
    | _ => simp [text, Checked.issue]
  cases datum with
  | list items =>
      have hItems : items = values.map Datum.text ↔
          List.Forall₂ (fun item a => item = .text a)
            items values := by
        rw [← List.forall₂_map_right_iff,
          List.forall₂_eq_eq_eq]
      simp only [listOf, itemsFrom_eq_good_iff, hText,
        Datum.list.injEq, hItems]
  | _ => simp [listOf, Checked.issue]

end Schema

end GradleMigration
