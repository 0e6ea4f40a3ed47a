/-
  Results that may be faults, and what is done to them.

  Main declarations:
    * `map_eq_ok_iff`
    * `map_eq_error_iff`
    * `mapError_eq_ok_iff`
    * `mapError_eq_error_iff`
    * `toOption_eq_some_iff`
-/

------------------------------------------------------------
-- Mapping
------------------------------------------------------------

namespace GradleMigration

variable {ε δ α β : Type}

/- A mapped result is a value when the result was one. -/
theorem map_eq_ok_iff
    {f : α → β}
    {result : Except ε α}
    {value : β} :
    result.map f = .ok value ↔
      ∃ before, result = .ok before ∧ f before = value := by
  cases result with
  | error fault => simp [Except.map]
  | ok before => simp [Except.map]

/- A mapped result is a fault when the result was one. -/
theorem map_eq_error_iff
    {f : α → β}
    {result : Except ε α}
    {fault : ε} :
    result.map f = .error fault ↔ result = .error fault := by
  cases result with
  | error other => simp [Except.map]
  | ok before => simp [Except.map]

/- Renaming the fault of a result keeps its value. -/
theorem mapError_eq_ok_iff
    {f : ε → δ}
    {result : Except ε α}
    {value : α} :
    result.mapError f = .ok value ↔ result = .ok value := by
  cases result with
  | error fault =>
      constructor
      · intro h
        cases h
      · intro h
        cases h
  | ok before =>
      change Except.ok before = .ok value ↔ _
      simp

/- A renamed fault was one under its old name. -/
theorem mapError_eq_error_iff
    {f : ε → δ}
    {result : Except ε α}
    {fault : δ} :
    result.mapError f = .error fault ↔
      ∃ before, result = .error before ∧ f before = fault := by
  cases result with
  | error before =>
      change Except.error (f before) = .error fault ↔ _
      simp
  | ok value =>
      change Except.ok value = .error fault ↔ _
      simp

/- What is left without the faults are the values. -/
theorem toOption_eq_some_iff
    {result : Except ε α}
    {value : α} :
    result.toOption = some value ↔ result = .ok value := by
  cases result with
  | error fault => simp [Except.toOption]
  | ok before => simp [Except.toOption]

end GradleMigration
