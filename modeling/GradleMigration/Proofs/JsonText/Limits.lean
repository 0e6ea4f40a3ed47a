import GradleMigration.Data.Schema
import GradleMigration.Proofs.JsonText.RoundTrip

/-
  The limit of digits holds for every integer that is read.
  Where a numeral with a point or an exponent stands for an
  integer, that is one of 64 bits.

  Main declarations:
    * `Datum.Limited`
    * `JsonText.limited_of_parse`
    * `Schema.admits_of_lt_wordLimit`
    * `Schema.admits_of_int`
-/

------------------------------------------------------------
-- Numbers and Words
------------------------------------------------------------

namespace GradleMigration

/- Data whose integers are within the limit of digits. -/
inductive Datum.Limited : Datum → Prop where
| null :
    Limited .null
| bool
    (value : Bool) :
    Limited (.bool value)
| int
    {value : Int}
    (h : JsonText.Admits value) :
    Limited (.int value)
| real
    (value : RealValue) :
    Limited (.real value)
| text
    (value : String) :
    Limited (.text value)
| list
    {items : List Datum}
    (h : ∀ item ∈ items, Limited item) :
    Limited (.list items)
| table
    {entries : List (String × Datum)}
    (h : ∀ entry ∈ entries, Limited entry.2) :
    Limited (.table entries)

namespace JsonText

theorem limited_of_numberOf
    {negative : Bool}
    {whole fraction : List Char}
    {exponent : Option Int}
    {value : Datum}
    (h : numberOf negative whole fraction exponent =
      some value) :
    value.Limited := by
  unfold numberOf at h
  split at h
  · split at h
    · cases h
    · next hLength =>
        rcases Option.some.inj h with rfl
        have hLess : Text.digitsValue whole <
            10 ^ Text.maxDigits :=
          Nat.lt_of_lt_of_le (Text.digitsValue_lt whole)
            (Nat.pow_le_pow_right (by decide)
              (Nat.le_of_not_lt hLength))
        apply Datum.Limited.int
        rw [admits_iff]
        cases negative with
        | false => simpa using hLess
        | true => simpa using hLess
  · rcases Option.some.inj h with rfl
    exact .real _

theorem limited_of_readNumber
    {negative : Bool}
    {ahead rest : List Char}
    {value : Datum}
    (h : readNumber negative ahead = some (value, rest)) :
    value.Limited := by
  unfold readNumber at h
  dsimp only at h
  split at h
  · cases h
  · rw [Option.bind_eq_bind, Option.bind_eq_some_iff] at h
    rcases h with ⟨⟨fraction, after⟩, -, h⟩
    rw [Option.bind_eq_bind, Option.bind_eq_some_iff] at h
    rcases h with ⟨⟨exponent, final⟩, -, h⟩
    rw [Option.bind_eq_bind, Option.bind_eq_some_iff] at h
    rcases h with ⟨number, hNumber, h⟩
    rcases Prod.mk.inj (Option.some.inj h) with ⟨rfl, -⟩
    exact limited_of_numberOf hNumber

theorem limited_of_readWord
    {ahead rest : List Char}
    {value : Datum}
    (h : readWord ahead = some (value, rest)) :
    value.Limited := by
  have hWords : ∀ entry ∈ wordValues, entry.2.Limited := by
    unfold wordValues
    simp only [List.forall_mem_cons]
    exact ⟨.null, .bool true, .bool false, .real _, .real _,
      .real _, fun entry hMem => absurd hMem List.not_mem_nil⟩
  rcases List.exists_of_findSome?_eq_some h with
    ⟨⟨word, found⟩, hMem, hFound⟩
  simp only at hFound
  split at hFound
  · rcases Prod.mk.inj (Option.some.inj hFound) with ⟨rfl, -⟩
    exact hWords _ hMem
  · cases hFound

/- Scalars are within the limit. -/
theorem limited_of_readScalar
    {ahead rest : List Char}
    {value : Datum}
    (h : readScalar ahead = some (value, rest)) :
    value.Limited := by
  cases ahead with
  | nil => cases h
  | cons c more =>
      rw [readScalar] at h
      split at h
      · rcases Option.map_eq_some_iff.mp h with
          ⟨⟨text, after⟩, -, hEq⟩
        rcases Prod.mk.inj hEq with ⟨rfl, -⟩
        exact .text _
      · split at h
        · next read hWord =>
            rcases Option.some.inj h with rfl
            exact limited_of_readWord hWord
        · split at h
          · exact limited_of_readNumber h
          · exact limited_of_readNumber h

end JsonText

end GradleMigration

------------------------------------------------------------
-- Lists and Tables
------------------------------------------------------------

namespace GradleMigration

/- An entry of an extended table is an old or the new one. -/
theorem Table.mem_of_mem_set
    {table : Table}
    {name : String}
    {value : Datum}
    {entry : String × Datum}
    (h : entry ∈ table.set name value) :
    entry ∈ table ∨ entry.2 = value := by
  induction table with
  | nil =>
      right
      rw [List.mem_singleton.mp h]
  | cons other rest ih =>
      rcases other with ⟨key, old⟩
      unfold Table.set at h
      split at h
      · rcases List.mem_cons.mp h with hEq | hMem
        · right
          rw [hEq]
        · exact Or.inl (List.mem_cons_of_mem _ hMem)
      · rcases List.mem_cons.mp h with hEq | hMem
        · left
          rw [hEq]
          exact List.mem_cons_self
        · rcases ih hMem with hOld | hNew
          · exact Or.inl (List.mem_cons_of_mem _ hOld)
          · exact Or.inr hNew

namespace JsonText

/- With so much fuel only data within the limit are read. -/
structure ReadsLimited
    (fuel : Nat) : Prop where
  values : ∀ {depth : Nat} {ahead rest : List Char}
    {value : Datum},
    readValue fuel depth ahead = some (value, rest) →
    value.Limited
  items : ∀ {depth : Nat} {ahead rest : List Char}
    {items : List Datum},
    readItems fuel depth ahead = some (items, rest) →
    ∀ item ∈ items, item.Limited
  entries : ∀ {depth : Nat} {done : Table}
    {ahead rest : List Char} {entries : Table},
    (∀ entry ∈ done, entry.2.Limited) →
    readEntries fuel depth done ahead =
      some (entries, rest) →
    ∀ entry ∈ entries, entry.2.Limited

theorem ReadsLimited.values_succ
    {fuel : Nat}
    (hFuel : ReadsLimited fuel)
    {depth : Nat}
    {ahead rest : List Char}
    {value : Datum}
    (h : readValue (fuel + 1) depth ahead =
      some (value, rest)) :
    value.Limited := by
  rw [readValue] at h
  split at h
  · split at h
    · cases h
    split at h
    · rcases Prod.mk.inj (Option.some.inj h) with ⟨rfl, -⟩
      exact .list fun item hMem =>
        absurd hMem List.not_mem_nil
    · rcases Option.map_eq_some_iff.mp h with
        ⟨⟨items, after⟩, hItems, hEq⟩
      rcases Prod.mk.inj hEq with ⟨rfl, -⟩
      exact .list (hFuel.items hItems)
  · split at h
    · cases h
    split at h
    · rcases Prod.mk.inj (Option.some.inj h) with ⟨rfl, -⟩
      exact .table fun entry hMem =>
        absurd hMem List.not_mem_nil
    · rcases Option.map_eq_some_iff.mp h with
        ⟨⟨entries, after⟩, hEntries, hEq⟩
      rcases Prod.mk.inj hEq with ⟨rfl, -⟩
      exact .table (hFuel.entries
        (fun entry hMem => absurd hMem List.not_mem_nil)
        hEntries)
  · exact limited_of_readScalar h

theorem ReadsLimited.items_succ
    {fuel : Nat}
    (hFuel : ReadsLimited fuel)
    {depth : Nat}
    {ahead rest : List Char}
    {items : List Datum}
    (h : readItems (fuel + 1) depth ahead =
      some (items, rest)) :
    ∀ item ∈ items, item.Limited := by
  rw [readItems] at h
  split at h
  · cases h
  · next first after hFirst =>
      have hHead := hFuel.values hFirst
      split at h
      · rcases Prod.mk.inj (Option.some.inj h) with ⟨rfl, -⟩
        exact List.forall_mem_singleton.mpr hHead
      · rcases Option.map_eq_some_iff.mp h with
          ⟨⟨others, final⟩, hOthers, hEq⟩
        rcases Prod.mk.inj hEq with ⟨rfl, -⟩
        exact List.forall_mem_cons.mpr
          ⟨hHead, hFuel.items hOthers⟩
      · cases h

theorem ReadsLimited.entries_succ
    {fuel : Nat}
    (hFuel : ReadsLimited fuel)
    {depth : Nat}
    {done entries : Table}
    {ahead rest : List Char}
    (hDone : ∀ entry ∈ done, entry.2.Limited)
    (h : readEntries (fuel + 1) depth done ahead =
      some (entries, rest)) :
    ∀ entry ∈ entries, entry.2.Limited := by
  rw [readEntries] at h
  split at h
  · cases h
  split at h
  · cases h
  · next name _ _ _ value after hValue =>
      have hMore : ∀ entry ∈ done.set name value,
          entry.2.Limited := by
        intro entry hMem
        rcases Table.mem_of_mem_set hMem with hOld | hNew
        · exact hDone entry hOld
        · rw [hNew]
          exact hFuel.values hValue
      split at h
      · rcases Prod.mk.inj (Option.some.inj h) with ⟨rfl, -⟩
        exact hMore
      · exact hFuel.entries hMore h
      · cases h

theorem readsLimited
    (fuel : Nat) :
    ReadsLimited fuel := by
  induction fuel with
  | zero =>
      constructor
      · intro depth ahead rest value h
        rw [readValue] at h
        cases h
      · intro depth ahead rest items h
        rw [readItems] at h
        cases h
      · intro depth done ahead rest entries hDone h
        rw [readEntries] at h
        cases h
  | succ fuel ih =>
      exact ⟨ih.values_succ, ih.items_succ, ih.entries_succ⟩

/- What a text holds is within the limit. -/
theorem limited_of_parse
    {text : List Char}
    {value : Datum}
    (h : parse text = some value) :
    value.Limited := by
  unfold parse at h
  split at h
  · cases h
  · next read rest hRead =>
      split at h
      · rcases Option.some.inj h with rfl
        exact (readsLimited _).values hRead
      · cases h

end JsonText

end GradleMigration

------------------------------------------------------------
-- Checked Integers
------------------------------------------------------------

namespace GradleMigration

namespace Schema

/- An integer of 64 bits is within the limit of digits. -/
theorem admits_of_lt_wordLimit
    {n : Int}
    (h : n.natAbs < wordLimit) :
    JsonText.Admits n := by
  have hLimit : wordLimit ≤ 10 ^ 19 := by decide
  have hPower : 10 ^ 19 ≤ 10 ^ Text.maxDigits :=
    Nat.pow_le_pow_right (by decide) (by decide)
  rw [JsonText.admits_iff]
  omega

/- An integer taken from such data is within the limit. -/
theorem admits_of_int
    {datum : Datum}
    (hLimited : datum.Limited)
    {n : Int}
    (h : int datum = .good n) :
    JsonText.Admits n := by
  cases hLimited with
  | null => cases h
  | bool value =>
      rcases Checked.good.inj h with rfl
      cases value with
      | false => decide
      | true => decide
  | int hAdmits =>
      rcases Checked.good.inj h with rfl
      exact hAdmits
  | real value =>
      cases value with
      | whole m =>
          rw [int] at h
          split at h
          · next hWord =>
              rcases Checked.good.inj h with rfl
              exact admits_of_lt_wordLimit hWord
          · cases h
      | fraction => cases h
      | infinite => cases h
      | undefined => cases h
  | text s =>
      rw [int] at h
      split at h
      · cases h
      · split at h
        · cases h
        · next hLength =>
            rcases Checked.good.inj h with rfl
            exact Nat.le_of_not_lt hLength
  | list _ => cases h
  | table _ => cases h

end Schema

end GradleMigration
