import GradleMigration.Proofs.Data.Outcome
import GradleMigration.Proofs.Text.Upper
import GradleMigration.Rule.Registry

/-
  Which rules are selected: keys are taken in upper case, but
  ids are not, so an id with a letter in lower case is never
  named.

  Main declarations:
    * `Rule.IsNamedBy` and `Rule.IsMeantAs`
    * `Rule.isNamedBy_iff_of_ascii`
    * `Rule.isNamedBy_iff_of_lower`
    * `Registry.mem_enabled_iff`
    * `Registry.enabled_selects`
-/

------------------------------------------------------------
-- Keys and Rules
------------------------------------------------------------

namespace GradleMigration

namespace Rule

/- A key in upper case is that of all rules, an id or a severity. -/
def IsNamedBy
    (rule : Rule)
    (key : String) : Prop :=
  Text.upperText key = allKey ∨
    Text.upperText key = rule.id ∨
    Text.upperText key = rule.severity.name

instance
    (rule : Rule)
    (key : String) : Decidable (rule.IsNamedBy key) :=
  inferInstanceAs (Decidable (_ ∨ _ ∨ _))

/-
  A key has the letters of the key for all rules, of an id or
  of a severity.
-/
def IsMeantAs
    (rule : Rule)
    (key : String) : Prop :=
  Text.SameLetters key allKey ∨
    Text.SameLetters key rule.id ∨
    Text.SameLetters key rule.severity.name

/- What the program asks of the keys in upper case. -/
theorem isMeantBy_iff
    {rule : Rule}
    {keys : List String} :
    rule.isMeantBy (keys.map Text.upperText) = true ↔
      ∃ key ∈ keys, rule.IsNamedBy key := by
  unfold isMeantBy IsNamedBy
  simp only [Bool.or_eq_true, List.contains_iff_mem,
    List.mem_map]
  constructor
  · rintro ((⟨key, hKey, hAll⟩ | ⟨key, hKey, hId⟩) |
      ⟨key, hKey, hSeverity⟩)
    · exact ⟨key, hKey, Or.inl hAll⟩
    · exact ⟨key, hKey, Or.inr (Or.inl hId)⟩
    · exact ⟨key, hKey, Or.inr (Or.inr hSeverity)⟩
  · rintro ⟨key, hKey, hAll | hId | hSeverity⟩
    · exact Or.inl (Or.inl ⟨key, hKey, hAll⟩)
    · exact Or.inl (Or.inr ⟨key, hKey, hId⟩)
    · exact Or.inr ⟨key, hKey, hSeverity⟩

theorem hasNoLower_name
    (severity : Severity) :
    Text.HasNoLower severity.name := by
  cases severity <;> decide

/-
  A key in ASCII names the rules that have its letters, unless
  a letter of the id is in lower case.
-/
theorem isNamedBy_iff_of_ascii
    {rule : Rule}
    {key : String}
    (h : Text.IsAscii key) :
    rule.IsNamedBy key ↔
      Text.SameLetters key allKey ∨
        (Text.SameLetters key rule.id ∧
          Text.HasNoLower rule.id) ∨
        Text.SameLetters key rule.severity.name := by
  have hAll : Text.HasNoLower allKey := by decide
  have hName := hasNoLower_name rule.severity
  unfold IsNamedBy
  rw [Text.upperText_eq_iff h, Text.upperText_eq_iff h,
    Text.upperText_eq_iff h]
  simp only [hAll, hName, and_true]

/- An id with a letter in lower case is never named. -/
theorem isNamedBy_iff_of_lower
    {rule : Rule}
    (h : ¬ Text.HasNoLower rule.id)
    (key : String) :
    rule.IsNamedBy key ↔
      Text.upperText key = allKey ∨
        Text.upperText key = rule.severity.name := by
  have hId : Text.upperText key ≠ rule.id := by
    intro hEq
    exact h (hEq ▸ Text.hasNoLower_upperText key)
  simp [IsNamedBy, hId]

/- When an id in ASCII names its own rule. -/
theorem isNamedBy_id_iff
    {rule : Rule}
    (h : Text.IsAscii rule.id) :
    rule.IsNamedBy rule.id ↔
      Text.HasNoLower rule.id ∨
        Text.SameLetters rule.id allKey ∨
        Text.SameLetters rule.id rule.severity.name := by
  rw [isNamedBy_iff_of_ascii h]
  have hSelf : Text.SameLetters rule.id rule.id := rfl
  simp only [hSelf, true_and]
  exact or_left_comm

end Rule

end GradleMigration

------------------------------------------------------------
-- Selected Rules
------------------------------------------------------------

namespace GradleMigration

namespace Registry

/-
  The rules that some selected key names and no ignored one,
  in the order of the registry.
-/
theorem enabled_eq_filter
    (registry : Registry)
    (select ignore : List String) :
    registry.enabled select ignore =
      registry.rules.filter fun rule =>
        decide ((∃ key ∈ select, rule.IsNamedBy key) ∧
          ¬ ∃ key ∈ ignore, rule.IsNamedBy key) := by
  unfold enabled
  apply List.filter_congr
  intro rule _
  rw [Bool.eq_iff_iff, decide_eq_true_eq, Bool.and_eq_true,
    Bool.not_eq_true', ← Bool.not_eq_true,
    Rule.isMeantBy_iff, Rule.isMeantBy_iff]

theorem mem_enabled_iff
    {registry : Registry}
    {select ignore : List String}
    {rule : Rule} :
    rule ∈ registry.enabled select ignore ↔
      rule ∈ registry.rules ∧
        (∃ key ∈ select, rule.IsNamedBy key) ∧
        ¬ ∃ key ∈ ignore, rule.IsNamedBy key := by
  rw [enabled_eq_filter, List.mem_filter, decide_eq_true_eq]

/-
  What selecting and ignoring by keys does.  A rule is enabled
  if some selected key and no ignored one names it.  Keys in
  ASCII mean what they say, in any case, for rules whose ids
  have no letter in lower case.  Other rules are only named by
  their severity or with all rules, so their own ids neither
  select nor ignore them.
-/
theorem enabled_selects
    (registry : Registry)
    (select ignore : List String) :
    registry.enabled select ignore =
        registry.rules.filter (fun rule =>
          decide ((∃ key ∈ select, rule.IsNamedBy key) ∧
            ¬ ∃ key ∈ ignore, rule.IsNamedBy key)) ∧
      ∀ rule ∈ registry.rules,
        (Text.HasNoLower rule.id →
          (∀ key ∈ select ++ ignore, Text.IsAscii key) →
          (rule ∈ registry.enabled select ignore ↔
            (∃ key ∈ select, rule.IsMeantAs key) ∧
              ¬ ∃ key ∈ ignore, rule.IsMeantAs key)) ∧
        (¬ Text.HasNoLower rule.id →
          ∀ key, rule.IsNamedBy key ↔
            Text.upperText key = allKey ∨
              Text.upperText key = rule.severity.name) ∧
        (rule ∈ registry.enabled [rule.id] [] ↔
          rule.IsNamedBy rule.id) ∧
        (rule ∈ registry.enabled select [] →
          (rule ∉ registry.enabled select [rule.id] ↔
            rule.IsNamedBy rule.id)) ∧
        (Text.IsAscii rule.id →
          (rule.IsNamedBy rule.id ↔
            Text.HasNoLower rule.id ∨
              Text.SameLetters rule.id allKey ∨
              Text.SameLetters rule.id rule.severity.name)) := by
  refine ⟨registry.enabled_eq_filter select ignore, ?_⟩
  intro rule hRule
  refine ⟨?_, Rule.isNamedBy_iff_of_lower, ?_, ?_,
    Rule.isNamedBy_id_iff⟩
  · intro hId hKeys
    have hSame : ∀ key ∈ select ++ ignore,
        (rule.IsNamedBy key ↔ rule.IsMeantAs key) := by
      intro key hKey
      rw [Rule.isNamedBy_iff_of_ascii (hKeys key hKey)]
      simp only [hId, and_true]
      rfl
    have hSelect := exists_congr fun key =>
      and_congr_right fun hKey =>
        hSame key (List.mem_append_left ignore hKey)
    have hIgnore := exists_congr fun key =>
      and_congr_right fun hKey =>
        hSame key (List.mem_append_right select hKey)
    rw [mem_enabled_iff, hSelect, hIgnore]
    exact and_iff_right hRule
  · rw [mem_enabled_iff]
    simp [hRule]
  · intro hEnabled
    rw [mem_enabled_iff] at hEnabled ⊢
    simp [hRule, hEnabled.2.1]

/- An entry whose id is in lower case. -/
def lowerEntry : RuleEntry where
  id := "lower"
  severity := .high
  title := ""
  description := ""
  pattern := "a"

/-
  An id in lower case neither selects nor ignores its rule, and
  a letter outside of ASCII can stand for one of a severity.
-/
theorem lower_not_selected :
    ∃ registry,
      ofEntries "catalog" [lowerEntry] = .ok registry ∧
        registry.enabled ["lower"] [] = [] ∧
        (registry.enabled ["ALL"] ["lower"]).length = 1 ∧
        (registry.enabled ["h\u0131gh"] []).length = 1 := by
  have hSizes :
      (ofEntries "catalog" [lowerEntry]).toOption.map
        (fun registry =>
          ((registry.enabled ["lower"] []).length,
            (registry.enabled ["ALL"] ["lower"]).length,
            (registry.enabled ["h\u0131gh"] []).length)) =
        some (0, 1, 1) := by
    decide +kernel
  rcases Option.map_eq_some_iff.mp hSizes with
    ⟨registry, hLoad, hParts⟩
  simp only [Prod.mk.injEq] at hParts
  obtain ⟨hSelect, hIgnore, hSeverity⟩ := hParts
  exact ⟨registry, toOption_eq_some_iff.mp hLoad,
    List.length_eq_zero_iff.mp hSelect, hIgnore, hSeverity⟩

end Registry

end GradleMigration
