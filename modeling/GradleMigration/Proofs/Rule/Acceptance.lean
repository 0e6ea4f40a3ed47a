import GradleMigration.Command.Result
import GradleMigration.Proofs.Data.Outcome
import GradleMigration.Proofs.Rule.Loading
import Mathlib.Data.List.Forall2

/-
  Which catalogs are accepted: those whose entries are sound
  and have different ids.  Otherwise the first entry that is
  not like that is to blame, for the first thing wrong with
  it.

  Main declarations:
    * `RuleEntry.IsSound` and `RuleEntry.Describes`
    * `RuleEntry.Flaw`
    * `RuleEntry.build_cases`
    * `Catalog.WellFormed` and `Catalog.Breaks`
    * `Registry.IsTableOf`
    * `Registry.addEntries_cases`
    * `Registry.ofEntries_accepts`
-/

------------------------------------------------------------
-- Patterns of Entries
------------------------------------------------------------

namespace GradleMigration

/- A text is that of a pattern. -/
def Regex.Compiles
    (source : String) : Prop :=
  ∃ regex, Regex.compile source = .ok regex

namespace RuleEntry

/- A substitution is what an entry writes down for it. -/
structure Replaces
    (written : String × String)
    (made : Substitution) : Prop where
  pattern : Regex.compile written.1 = .ok made.pattern
  replacement : made.replacement = written.2

/- The first pattern of some substitutions that is none. -/
def FirstBad
    (written : List (String × String))
    (source : String)
    (fault : PatternFault) : Prop :=
  ∃ before pair after,
    written = before ++ pair :: after ∧
      (∀ other ∈ before, Regex.Compiles other.1) ∧
      pair.1 = source ∧ Regex.compile source = .error fault

/- Where all patterns are patterns, none is bad. -/
theorem FirstBad.not_compiles
    {written : List (String × String)}
    {source : String}
    {fault : PatternFault}
    (h : FirstBad written source fault) :
    ¬ ∀ pair ∈ written, Regex.Compiles pair.1 := by
  intro hAll
  rcases h with ⟨before, pair, after, rfl, _, rfl, hFault⟩
  rcases hAll pair (by simp) with ⟨regex, hRegex⟩
  rw [hFault] at hRegex
  cases hRegex

/- What could be made of substitutions had patterns. -/
theorem compiles_of_replaces
    {written : List (String × String)}
    {made : List Substitution}
    (h : List.Forall₂ Replaces written made) :
    ∀ pair ∈ written, Regex.Compiles pair.1 := by
  induction h with
  | nil => simp
  | cons hFirst _ ih =>
      intro pair hPair
      rcases List.mem_cons.mp hPair with rfl | hRest
      · exact ⟨_, hFirst.pattern⟩
      · exact ih pair hRest

theorem compile_eq_ok_iff
    {id source : String}
    {regex : Regex} :
    compile id source = .ok regex ↔
      Regex.compile source = .ok regex := by
  unfold compile
  cases Regex.compile source with
  | ok other => simp
  | error fault => simp

theorem compile_eq_error_iff
    {id source : String}
    {fault : CatalogFault} :
    compile id source = .error fault ↔
      ∃ cause, Regex.compile source = .error cause ∧
        fault = .badPattern id source cause := by
  unfold compile
  cases Regex.compile source with
  | ok other => simp
  | error cause => simp [eq_comm]

/-
  Substitutions are compiled one by one, or the first pattern
  that is none is to blame.
-/
theorem compileAll_cases
    (id : String)
    (written : List (String × String)) :
    (∃ made, compileAll id written = .ok made ∧
        List.Forall₂ Replaces written made) ∨
      ∃ source fault, FirstBad written source fault ∧
        compileAll id written =
          .error (.badPattern id source fault) := by
  induction written with
  | nil => exact Or.inl ⟨[], rfl, List.Forall₂.nil⟩
  | cons pair rest ih =>
      rcases pair with ⟨source, replacement⟩
      unfold compileAll
      cases hFirst : compile id source with
      | error fault =>
          rcases compile_eq_error_iff.mp hFirst with
            ⟨cause, hCause, rfl⟩
          refine Or.inr ⟨source, cause, ?_, rfl⟩
          exact ⟨[], _, rest, rfl, by simp, rfl, hCause⟩
      | ok regex =>
          have hRegex := compile_eq_ok_iff.mp hFirst
          rcases ih with ⟨made, hMade, hAll⟩ |
              ⟨bad, fault, hBad, hFault⟩
          · refine Or.inl ⟨⟨regex, replacement⟩ :: made,
              by simp only [hMade], ?_⟩
            exact List.Forall₂.cons ⟨hRegex, rfl⟩ hAll
          · refine Or.inr ⟨bad, fault, ?_, by simp only [hFault]⟩
            rcases hBad with
              ⟨before, other, after, rfl, hBefore, hOther⟩
            refine ⟨_ :: before, other, after, rfl, ?_, hOther⟩
            intro earlier hEarlier
            rcases List.mem_cons.mp hEarlier with
              rfl | hTail
            · exact ⟨regex, hRegex⟩
            · exact hBefore earlier hTail

end RuleEntry

end GradleMigration

------------------------------------------------------------
-- Sound Entries
------------------------------------------------------------

namespace GradleMigration

namespace RuleEntry

/- The names that the kind of an entry may have. -/
def kindNames : List String :=
  ["substitution", "task-leftshift"]

/- A fix by substitutions that the entry does not have. -/
def LacksFix
    (entry : RuleEntry) : Prop :=
  entry.autoFixable = true ∧ entry.kind = "substitution" ∧
    entry.substitutions = []

/- An entry that a rule can be made of. -/
structure IsSound
    (entry : RuleEntry) : Prop where
  kind : entry.kind ∈ kindNames
  fix : ¬ entry.LacksFix
  pattern : Regex.Compiles entry.pattern
  substitutions : ∀ written ∈ entry.substitutions,
    Regex.Compiles written.1

/- A rule is the one that an entry writes down. -/
structure Describes
    (entry : RuleEntry)
    (rule : Rule) : Prop where
  id : rule.id = entry.id
  severity : rule.severity = entry.severity
  title : rule.title = entry.title
  description : rule.description = entry.description
  autoFixable : rule.autoFixable = entry.autoFixable
  explanation : rule.explanation = entry.explanation
  kind : RuleKind.ofName? entry.kind = some rule.kind
  pattern : Regex.compile entry.pattern = .ok rule.pattern
  substitutions :
    List.Forall₂ Replaces entry.substitutions
      rule.substitutions

/- The first thing that is wrong with an entry. -/
inductive Flaw
    (entry : RuleEntry) : CatalogFault → Prop
| kind
    (hKind : entry.kind ∉ kindNames) :
    Flaw entry (.unknownKind entry.id entry.kind)
| fix
    (hKind : entry.kind ∈ kindNames)
    (hFix : entry.LacksFix) :
    Flaw entry (.noSubstitutions entry.id)
| pattern
    {fault : PatternFault}
    (hKind : entry.kind ∈ kindNames)
    (hFix : ¬ entry.LacksFix)
    (hPattern : Regex.compile entry.pattern = .error fault) :
    Flaw entry (.badPattern entry.id entry.pattern fault)
| substitution
    {source : String}
    {fault : PatternFault}
    (hKind : entry.kind ∈ kindNames)
    (hFix : ¬ entry.LacksFix)
    (hPattern : Regex.Compiles entry.pattern)
    (hBad : FirstBad entry.substitutions source fault) :
    Flaw entry (.badPattern entry.id source fault)

/- An entry with a flaw is not sound. -/
theorem Flaw.not_isSound
    {entry : RuleEntry}
    {fault : CatalogFault}
    (h : entry.Flaw fault) :
    ¬ entry.IsSound := by
  intro hSound
  cases h with
  | kind hKind => exact hKind hSound.kind
  | fix _ hFix => exact hSound.fix hFix
  | pattern _ _ hPattern =>
      rcases hSound.pattern with ⟨regex, hRegex⟩
      rw [hPattern] at hRegex
      cases hRegex
  | substitution _ _ _ hBad =>
      exact hBad.not_compiles hSound.substitutions

/- The names of kinds, and those that stand for none. -/
theorem kind_cases
    (name : String) :
    (name = "substitution" ∧
        RuleKind.ofName? name = some .substitution) ∨
      (name = "task-leftshift" ∧
        RuleKind.ofName? name = some .taskLeftShift) ∨
      (name ∉ kindNames ∧ RuleKind.ofName? name = none) := by
  unfold RuleKind.ofName?
  split
  · exact Or.inl ⟨rfl, rfl⟩
  · exact Or.inr (Or.inl ⟨rfl, rfl⟩)
  · next hFirst hSecond =>
      refine Or.inr (Or.inr ⟨?_, rfl⟩)
      simpa [kindNames] using ⟨hFirst, hSecond⟩

/- What the check for a fix by substitutions finds out. -/
theorem lacksFix_iff
    {entry : RuleEntry}
    {kind : RuleKind}
    (h : RuleKind.ofName? entry.kind = some kind) :
    (entry.autoFixable && decide (kind = .substitution) &&
        entry.substitutions.isEmpty) = true ↔
      entry.LacksFix := by
  unfold LacksFix
  rcases kind_cases entry.kind with
    ⟨hName, hKind⟩ | ⟨hName, hKind⟩ | ⟨_, hKind⟩
  · rw [hKind] at h
    cases h
    simp [hName]
  · rw [hKind] at h
    cases h
    simp [hName]
  · rw [hKind] at h
    cases h

/-
  An entry is sound and describes the rule that is built, or
  building fails for the first flaw.
-/
theorem build_cases
    (entry : RuleEntry) :
    (∃ rule, entry.build = .ok rule ∧ entry.IsSound ∧
        entry.Describes rule) ∨
      ∃ fault, entry.build = .error fault ∧
        entry.Flaw fault := by
  unfold build
  cases hKind : RuleKind.ofName? entry.kind with
  | none =>
      have hName : entry.kind ∉ kindNames := by
        rcases kind_cases entry.kind with
          ⟨_, hSome⟩ | ⟨_, hSome⟩ | ⟨hName, _⟩
        · rw [hKind] at hSome
          cases hSome
        · rw [hKind] at hSome
          cases hSome
        · exact hName
      exact Or.inr ⟨_, rfl, .kind hName⟩
  | some kind =>
      have hName : entry.kind ∈ kindNames := by
        rcases kind_cases entry.kind with
          ⟨hName, _⟩ | ⟨hName, _⟩ | ⟨_, hNone⟩
        · simp [hName, kindNames]
        · simp [hName, kindNames]
        · rw [hKind] at hNone
          cases hNone
      simp only
      split
      · next hLacks =>
          exact Or.inr ⟨_, rfl,
            .fix hName ((lacksFix_iff hKind).mp hLacks)⟩
      · next hHas =>
          have hFix : ¬ entry.LacksFix :=
            fun hLacks => hHas ((lacksFix_iff hKind).mpr hLacks)
          cases hPattern : compile entry.id entry.pattern with
          | error fault =>
              rcases compile_eq_error_iff.mp hPattern with
                ⟨cause, hCause, rfl⟩
              exact Or.inr ⟨_, rfl,
                .pattern hName hFix hCause⟩
          | ok regex =>
              have hRegex := compile_eq_ok_iff.mp hPattern
              rcases compileAll_cases entry.id
                  entry.substitutions with
                ⟨made, hMade, hAll⟩ | ⟨source, fault, hBad, hNone⟩
              · left
                simp only [hMade]
                refine ⟨_, rfl, ?_, ?_⟩
                · exact ⟨hName, hFix, ⟨regex, hRegex⟩,
                    compiles_of_replaces hAll⟩
                · exact ⟨rfl, rfl, rfl, rfl, rfl, rfl, hKind,
                    hRegex, hAll⟩
              · right
                simp only [hNone]
                exact ⟨_, rfl, .substitution hName hFix
                  ⟨regex, hRegex⟩ hBad⟩

end RuleEntry

end GradleMigration

------------------------------------------------------------
-- Well-Formed Catalogs
------------------------------------------------------------

namespace GradleMigration

namespace Catalog

/- Sound entries with different ids. -/
structure WellFormed
    (entries : List RuleEntry) : Prop where
  distinct : (entries.map RuleEntry.id).Nodup
  sound : ∀ entry ∈ entries, entry.IsSound

/-
  What is wrong with an entry behind earlier ones: its id is
  one of theirs, and if not so it has a flaw of its own.
-/
inductive Breaks
    (source : String)
    (earlier : List RuleEntry)
    (entry : RuleEntry) : CatalogFault → Prop
| duplicate
    (hOld : entry.id ∈ earlier.map RuleEntry.id) :
    Breaks source earlier entry (.duplicateId entry.id source)
| flawed
    {fault : CatalogFault}
    (hNew : entry.id ∉ earlier.map RuleEntry.id)
    (hFlaw : entry.Flaw fault) :
    Breaks source earlier entry fault

/- A sound entry with a new id fits behind the others. -/
theorem WellFormed.concat
    {entries : List RuleEntry}
    {entry : RuleEntry}
    (h : WellFormed entries)
    (hNew : entry.id ∉ entries.map RuleEntry.id)
    (hSound : entry.IsSound) :
    WellFormed (entries ++ [entry]) where
  distinct := by
    rw [List.map_append, List.map_singleton]
    refine List.nodup_append.mpr
      ⟨h.distinct, by simp, ?_⟩
    rintro id hId other hOther rfl
    rw [List.mem_singleton.mp hOther] at hId
    exact hNew hId
  sound other hOther := by
    rcases List.mem_append.mp hOther with hOld | hLast
    · exact h.sound other hOld
    · rw [List.mem_singleton.mp hLast]
      exact hSound

/-
  The faults of entries are refusals, but for those patterns
  whose own fault is none.
-/
theorem Breaks.isRefusal_iff
    {source : String}
    {earlier : List RuleEntry}
    {entry : RuleEntry}
    {fault : CatalogFault}
    (h : Breaks source earlier entry fault) :
    (CommandFault.catalog fault).nature = .refusal ↔
      ∀ id pattern cause,
        fault = .badPattern id pattern cause →
          cause.kind = .refusal := by
  have hBad : ∀ id pattern (cause : PatternFault),
      (CommandFault.catalog
          (.badPattern id pattern cause)).nature = .refusal ↔
        cause.kind = .refusal := by
    intro id pattern cause
    exact FaultNature.ofPattern_eq_refusal_iff
  cases h with
  | duplicate => simp [CommandFault.nature]
  | flawed _ hFlaw =>
      cases hFlaw with
      | kind => simp [CommandFault.nature]
      | fix => simp [CommandFault.nature]
      | pattern => simp [hBad]
      | substitution => simp [hBad]

/- Nothing goes well behind an entry that is to blame. -/
theorem Breaks.not_wellFormed
    {source : String}
    {before after : List RuleEntry}
    {entry : RuleEntry}
    {fault : CatalogFault}
    (h : Breaks source before entry fault) :
    ¬ WellFormed (before ++ entry :: after) := by
  intro hAll
  cases h with
  | duplicate hOld =>
      have hDistinct := hAll.distinct
      rw [List.map_append, List.map_cons] at hDistinct
      exact (List.nodup_append.mp hDistinct).2.2 _ hOld _
        List.mem_cons_self rfl
  | flawed _ hFlaw =>
      exact hFlaw.not_isSound (hAll.sound entry (by simp))

end Catalog

namespace Registry

/-
  A registry is the table of some entries: one rule for each,
  in their order, which is found by its id, and no other.
-/
structure IsTableOf
    (registry : Registry)
    (entries : List RuleEntry) : Prop where
  inOrder :
    List.Forall₂ RuleEntry.Describes entries registry.rules
  size : registry.rules.length = entries.length
  found : ∀ entry ∈ entries, ∃ rule,
    entry.Describes rule ∧ registry.get? entry.id = some rule
  missing : ∀ id, id ∉ entries.map RuleEntry.id →
    registry.get? id = none

/- Rules have the ids of the entries that describe them. -/
theorem ids_of_describes
    {entries : List RuleEntry}
    {rules : List Rule}
    (h : List.Forall₂ RuleEntry.Describes entries rules) :
    rules.map Rule.id = entries.map RuleEntry.id := by
  induction h with
  | nil => rfl
  | cons hFirst _ ih =>
      rw [List.map_cons, List.map_cons, ih, hFirst.id]

/- Rules for entries with different ids are their table. -/
theorem isTableOf_of_describes
    {registry : Registry}
    {entries : List RuleEntry}
    (hDistinct : (entries.map RuleEntry.id).Nodup)
    (h : List.Forall₂ RuleEntry.Describes entries
      registry.rules) :
    registry.IsTableOf entries where
  inOrder := h
  size := h.length_eq.symm
  found entry hEntry := by
    have hIds : registry.DistinctIds := by
      unfold DistinctIds
      rw [ids_of_describes h]
      exact hDistinct
    rcases List.forall₂_iff_get.mp h with ⟨hLength, hAll⟩
    rcases List.mem_iff_get.mp hEntry with ⟨place, rfl⟩
    have hDescribes := hAll place place.isLt
      (hLength ▸ place.isLt)
    refine ⟨_, hDescribes, ?_⟩
    rw [← hDescribes.id]
    exact get?_of_mem hIds (List.get_mem _ _)
  missing id hId := by
    rw [← ids_of_describes h, ← contains_iff] at hId
    simpa [contains] using hId

/-
  Adding entries to the rules of earlier ones: all of them get
  rules, or the first that breaks a condition is to blame.
-/
theorem addEntries_cases
    (source : String)
    (before : Registry)
    {earlier : List RuleEntry}
    (hEarlier : Catalog.WellFormed earlier)
    (hBefore :
      List.Forall₂ RuleEntry.Describes earlier before.rules)
    (entries : List RuleEntry) :
    (∃ after, addEntries source before entries = .ok after ∧
        Catalog.WellFormed (earlier ++ entries) ∧
        List.Forall₂ RuleEntry.Describes (earlier ++ entries)
          after.rules) ∨
      ∃ front entry back fault,
        entries = front ++ entry :: back ∧
        addEntries source before entries = .error fault ∧
        Catalog.WellFormed (earlier ++ front) ∧
        Catalog.Breaks source (earlier ++ front) entry
          fault := by
  induction entries generalizing before earlier with
  | nil =>
      refine Or.inl ⟨before, rfl, ?_, ?_⟩
      · rw [List.append_nil]
        exact hEarlier
      · rw [List.append_nil]
        exact hBefore
  | cons entry rest ih =>
      have hKnown :
          before.contains entry.id = true ↔
            entry.id ∈ earlier.map RuleEntry.id := by
        rw [contains_iff, ids_of_describes hBefore]
      unfold addEntries
      split
      · next hOld =>
          refine Or.inr ⟨[], entry, rest, _, rfl, rfl, ?_, ?_⟩
          · rw [List.append_nil]
            exact hEarlier
          · rw [List.append_nil]
            exact .duplicate (hKnown.mp hOld)
      · next hOther =>
          have hNew : entry.id ∉ earlier.map RuleEntry.id :=
            fun hOld => hOther (hKnown.mpr hOld)
          rcases entry.build_cases with
            ⟨rule, hBuild, hSound, hDescribes⟩ |
              ⟨fault, hBuild, hFlaw⟩
          · simp only [hBuild]
            have hRules :
                List.Forall₂ RuleEntry.Describes
                  (earlier ++ [entry]) (before.rules ++ [rule]) :=
              List.rel_append hBefore (.cons hDescribes .nil)
            rcases ih ⟨before.rules ++ [rule]⟩
                (hEarlier.concat hNew hSound) hRules with
              ⟨after, hAdd, hWhole⟩ |
                ⟨front, other, back, fault, rfl, hAdd, hBlame⟩
            · rw [List.append_assoc] at hWhole
              exact Or.inl ⟨after, hAdd, hWhole⟩
            · rw [List.append_assoc] at hBlame
              exact Or.inr ⟨entry :: front, other, back, fault,
                rfl, hAdd, hBlame⟩
          · simp only [hBuild]
            refine Or.inr
              ⟨[], entry, rest, _, rfl, rfl, ?_, ?_⟩
            · rw [List.append_nil]
              exact hEarlier
            · rw [List.append_nil]
              exact .flawed hNew hFlaw

/-
  Which catalogs are accepted: exactly the well-formed ones,
  and their registry is the table of their entries.  Otherwise
  the first entry that breaks a condition is to blame, for the
  first condition that it breaks; the fault is a refusal,
  except where reading a pattern ends with an error of another
  kind, for a number that is too large or has too many digits,
  a code that is too large, or two alphabets at once.
-/
theorem ofEntries_accepts
    (source : String)
    (entries : List RuleEntry) :
    ((∃ registry, ofEntries source entries = .ok registry) ↔
        Catalog.WellFormed entries) ∧
      (∀ registry, ofEntries source entries = .ok registry →
        registry.IsTableOf entries) ∧
      ∀ fault, ofEntries source entries = .error fault →
        (∃ before entry after,
          entries = before ++ entry :: after ∧
            Catalog.WellFormed before ∧
            Catalog.Breaks source before entry fault) ∧
        ((CommandFault.catalog fault).nature = .refusal ↔
          ∀ id pattern cause,
            fault = .badPattern id pattern cause →
              cause.kind = .refusal) := by
  have hStart : Catalog.WellFormed [] :=
    ⟨List.nodup_nil, by simp⟩
  have hCases := addEntries_cases source empty hStart
    List.Forall₂.nil entries
  simp only [List.nil_append] at hCases
  unfold ofEntries
  rcases hCases with ⟨registry, hAdd, hFormed, hRules⟩ |
      ⟨front, entry, back, fault, hSplit, hAdd, hFront, hBreaks⟩
  · refine ⟨iff_of_true ⟨registry, hAdd⟩ hFormed, ?_, ?_⟩
    · intro other hOther
      rw [hAdd] at hOther
      cases hOther
      exact isTableOf_of_describes hFormed.distinct hRules
    · intro fault hFault
      rw [hAdd] at hFault
      cases hFault
  · refine ⟨iff_of_false ?_ ?_, ?_, ?_⟩
    · rintro ⟨registry, hOther⟩
      rw [hAdd] at hOther
      cases hOther
    · rw [hSplit]
      exact hBreaks.not_wellFormed
    · intro registry hOther
      rw [hAdd] at hOther
      cases hOther
    · intro other hOther
      rw [hAdd] at hOther
      cases hOther
      refine ⟨⟨front, entry, back, hSplit, hFront, hBreaks⟩, ?_⟩
      exact hBreaks.isRefusal_iff

/- An entry whose pattern repeats too often. -/
def endlessEntry : RuleEntry where
  id := "EXAMPLE"
  severity := .low
  title := ""
  description := ""
  pattern := "a\x7b99999999999999999999\x7d"

/-
  A catalog with a pattern that repeats too often is neither
  accepted nor refused.
-/
theorem endless_not_refused :
    ∃ fault,
      ofEntries "catalog" [endlessEntry] = .error fault ∧
        (CommandFault.catalog fault).nature = .other := by
  have hNature :
      ((ofEntries "catalog" [endlessEntry]).mapError
          fun fault => (CommandFault.catalog fault).nature).map
        (fun _ => ()) = .error .other := by
    decide +kernel
  exact mapError_eq_error_iff.mp (map_eq_error_iff.mp hNature)

end Registry

end GradleMigration
