import GradleMigration.Command.Run
import GradleMigration.Proofs.File.Order
import GradleMigration.Proofs.Scan.Listing
import GradleMigration.Proofs.Scan.Origin

/-
  The fixes that a scan calls for: one for each script and
  each rule with a fixable hit among those it reports, in the
  order of the scripts and of the rules.

  Main declarations:
    * `Rule.isDue`
    * `Scanner.candidates`
    * `Scanner.jobs`
    * `Scanner.calls_of_scan`
    * `onePerFix_keys`
    * `Workspace.keys_of_fixable`
-/

------------------------------------------------------------
-- Calls of a Scan
------------------------------------------------------------

namespace GradleMigration

/- Whether a hit of a rule can be fixed. -/
def Rule.fixes
    (rule : Rule)
    (content : List Char)
    (hit : Hit) : Bool :=
  match rule.isFixable content hit with
  | .ok fixable => fixable
  | .error _ => false

/- The hits of a rule that a scan reports. -/
def Rule.reported
    (rule : Rule)
    (content : List Char) : List Hit :=
  (rule.hits content).take maxFindingsPerRule

/- Whether one of the reported hits of a rule can be fixed. -/
def Rule.isDue
    (rule : Rule)
    (content : List Char) : Bool :=
  (rule.reported content).any (rule.fixes content)

/-
  The fix that an occurrence calls for: its file, its rule and
  whether it can be made automatically.
-/
def Occurrence.call
    (found : Occurrence) : Path × String × Bool :=
  (found.file, found.ruleId, found.autoFixable)

/- A rule in a script with a text. -/
structure Candidate where
  file : Path
  content : List Char
  rule : Rule

namespace Candidate

/- What the reported hits of a candidate call for. -/
def calls
    (candidate : Candidate) : List (Path × String × Bool) :=
  (candidate.rule.reported candidate.content).map fun hit =>
    (candidate.file, candidate.rule.id,
      candidate.rule.fixes candidate.content hit)

/- The file and the rule of a candidate. -/
def key
    (candidate : Candidate) : Path × String :=
  (candidate.file, candidate.rule.id)

end Candidate

/- The occurrences of some hits call for these fixes. -/
theorem Rule.calls_of_occurrencesOf
    {rule : Rule}
    {place : ScriptPlace}
    {content : List Char}
    {hits : List Hit}
    {all : List Occurrence}
    (h : rule.occurrencesOf place content hits = .ok all) :
    all.map Occurrence.call =
      hits.map fun hit =>
        (place.file, rule.id, rule.fixes content hit) := by
  induction hits generalizing all with
  | nil =>
      cases h
      rfl
  | cons hit rest ih =>
      rcases of_occurrencesOf_cons h with
        ⟨first, more, hFirst, hMore, hAll⟩
      subst hAll
      rcases of_occurrence hFirst with
        ⟨hId, hFile, hFixable, _⟩
      rw [List.map_cons, List.map_cons, ih hMore]
      congr 1
      simp [Occurrence.call, hId, hFile, fixes, hFixable]

/- The occurrences in a text call for these fixes. -/
theorem Script.calls_of_occurrences
    {place : ScriptPlace}
    {content : List Char}
    {rules : List Rule}
    {all : List Occurrence}
    (h : occurrences place content rules = .ok all) :
    all.map Occurrence.call =
      rules.flatMap fun rule =>
        (Candidate.mk place.file content rule).calls := by
  induction rules generalizing all with
  | nil =>
      cases h
      rfl
  | cons rule rest ih =>
      rcases of_occurrences_cons h with
        ⟨here, more, hHere, hMore, hAll⟩
      subst hAll
      rw [List.map_append, ih hMore, List.flatMap_cons]
      congr 1
      exact Rule.calls_of_occurrencesOf hHere

namespace Scanner

/- The rules of a scanner in the scripts that can be read. -/
def candidates
    (scanner : Scanner)
    (tree : FileTree)
    (files : List Path) : List Candidate :=
  files.flatMap fun file =>
    match tree.readExact file with
    | .error _ => []
    | .ok content => scanner.rules.map (.mk file content)

/- What is found in the scripts calls for these fixes. -/
theorem calls_of_scanFiles
    {scanner : Scanner}
    {tree : FileTree}
    {root : Path}
    {files : List Path}
    {harvest : Harvest}
    (h : scanner.scanFiles tree root files = .ok harvest) :
    harvest.occurrences.map Occurrence.call =
      (scanner.candidates tree files).flatMap
        Candidate.calls := by
  induction files generalizing harvest with
  | nil =>
      cases h
      rfl
  | cons file rest ih =>
      unfold candidates at ih ⊢
      rw [List.flatMap_cons, List.flatMap_append]
      unfold scanFiles at h
      split at h
      · next fault hFile =>
          rcases map_eq_ok_iff.mp h with ⟨later, hLater, hEq⟩
          subst hEq
          have hUnread :
              ∃ fault, tree.readExact file = .error fault := by
            unfold scanFile at hFile
            split at hFile
            · next other hRead => exact ⟨other, hRead⟩
            · next content _ =>
                cases hFound : Script.occurrences
                  ⟨file, Project.moduleOf file root⟩ content
                  scanner.rules with
                | error fault =>
                    simp only [hFound] at hFile
                    cases hFile
                | ok found =>
                    simp only [hFound] at hFile
                    cases hFile
          rcases hUnread with ⟨other, hUnread⟩
          have hRest := ih hLater
          rw [hUnread]
          exact hRest
      · cases h
      · next found hFile =>
          rcases map_eq_ok_iff.mp h with ⟨later, hLater, hEq⟩
          subst hEq
          unfold scanFile at hFile
          cases hRead : tree.readExact file with
          | error fault =>
              rw [hRead] at hFile
              cases hFile
          | ok content =>
              rw [hRead] at hFile
              have hFound := Script.calls_of_occurrences
                (mapError_eq_ok_iff.mp hFile)
              simp only [List.map_append, ih hLater,
                List.flatMap_map, hFound]

/- What a scan reports calls for these fixes. -/
theorem calls_of_scan
    {scanner : Scanner}
    {tree : FileTree}
    {root : Path}
    {idName : Nat → String}
    {next : Nat}
    {report : Report}
    (h : scanner.scan tree root idName next = .ok report) :
    ∃ files, scanner.scripts tree root = .ok files ∧
      report.findings.map (·.toOccurrence.call) =
        (scanner.candidates tree files).flatMap
          Candidate.calls := by
  rcases of_scan h with
    ⟨_, files, harvest, hFiles, hHarvest, hFindings⟩
  refine ⟨files, hFiles, ?_⟩
  have hCalls := calls_of_scanFiles hHarvest
  rw [← map_number idName next harvest.occurrences,
    ← hFindings, List.map_map] at hCalls
  exact hCalls

end Scanner

end GradleMigration

------------------------------------------------------------
-- One Fix per File and Rule
------------------------------------------------------------

namespace GradleMigration

/- The keys of a list, each where it comes first. -/
def firsts
    {κ : Type}
    [DecidableEq κ] : List κ → List κ
| [] => []
| k :: rest => k :: (firsts rest).filter (· ≠ k)

/- The first keys are some of the keys. -/
theorem mem_firsts
    {κ : Type}
    [DecidableEq κ]
    {keys : List κ}
    {k : κ}
    (h : k ∈ firsts keys) :
    k ∈ keys := by
  induction keys with
  | nil => cases h
  | cons first rest ih =>
      rcases List.mem_cons.mp h with hHere | hLater
      · exact hHere ▸ List.mem_cons_self
      · exact List.mem_cons_of_mem _
          (ih (List.mem_filter.mp hLater).1)

/- Repeating a key that does not come again adds it once. -/
theorem firsts_replicate_append
    {κ : Type}
    [DecidableEq κ]
    {k : κ}
    {keys : List κ}
    (h : k ∉ keys)
    (n : Nat) :
    (firsts (List.replicate n k ++ keys)).filter (· ≠ k) =
      firsts keys := by
  have hKeep : (firsts keys).filter (· ≠ k) = firsts keys := by
    apply List.filter_eq_self.mpr
    intro other hOther
    apply decide_eq_true
    intro hEq
    exact h (hEq ▸ mem_firsts hOther)
  induction n with
  | zero => exact hKeep
  | succ n ih =>
      rw [List.replicate_succ, List.cons_append, firsts,
        List.filter_cons_of_neg (by simp), ih, hKeep]

/- The first keys of items that each repeat their own key. -/
theorem firsts_flatMap_replicate
    {α κ : Type}
    [DecidableEq κ]
    (key : α → κ)
    (times : α → Nat)
    {items : List α}
    (h : (items.map key).Nodup) :
    firsts (items.flatMap fun item =>
        List.replicate (times item) (key item)) =
      (items.filter fun item => 0 < times item).map key := by
  induction items with
  | nil => rfl
  | cons item rest ih =>
      rcases List.nodup_cons.mp h with ⟨hItem, hRest⟩
      rw [List.flatMap_cons, List.filter_cons]
      have hFresh :
          key item ∉ rest.flatMap fun other =>
            List.replicate (times other) (key other) := by
        intro hMem
        rcases List.mem_flatMap.mp hMem with
          ⟨other, hOther, hKey⟩
        rw [(List.mem_replicate.mp hKey).2] at hItem
        exact hItem (List.mem_map_of_mem hOther)
      cases hTimes : times item with
      | zero => simpa using ih hRest
      | succ n =>
          rw [List.replicate_succ, List.cons_append, firsts,
            firsts_replicate_append hFresh, ih hRest]
          rfl

namespace Finding

/- The file and the rule of a finding. -/
def key
    (finding : Finding) : Path × String :=
  (finding.file, finding.ruleId)

/- Findings in absolute files have a fix in common by key. -/
theorem sameFix_iff
    {a b : Finding}
    (hA : a.file.isAbsolute = true)
    (hB : b.file.isAbsolute = true) :
    a.sameFix b = true ↔ a.key = b.key := by
  unfold sameFix key
  rw [Bool.and_eq_true, beq_iff_eq, beq_iff_eq, Prod.mk.injEq]
  constructor
  · rintro ⟨hPrint, hRule⟩
    exact ⟨Path.print_injective hA hB hPrint, hRule⟩
  · rintro ⟨hFile, hRule⟩
    exact ⟨by rw [hFile], hRule⟩

end Finding

/- The findings that are kept are some of those given. -/
theorem onePerFix_sublist
    (findings : List Finding) :
    (onePerFix findings).Sublist findings := by
  induction findings with
  | nil => exact List.nil_sublist _
  | cons finding rest ih =>
      exact (List.filter_sublist.trans ih).cons_cons finding

/- One finding is kept for each key, in order. -/
theorem onePerFix_keys
    {findings : List Finding}
    (h : ∀ finding ∈ findings,
      finding.file.isAbsolute = true) :
    (onePerFix findings).map Finding.key =
      firsts (findings.map Finding.key) := by
  induction findings with
  | nil => rfl
  | cons finding rest ih =>
      have hRest : ∀ other ∈ rest,
          other.file.isAbsolute = true :=
        fun other hOther =>
          h other (List.mem_cons_of_mem _ hOther)
      rw [onePerFix, List.map_cons, List.map_cons, firsts,
        ← ih hRest, List.filter_map]
      congr 2
      apply List.filter_congr
      intro other hOther
      have hMem := (onePerFix_sublist rest).subset hOther
      have hSame := Finding.sameFix_iff
        (h finding List.mem_cons_self) (hRest other hMem)
      by_cases hKey : other.key = finding.key
      · rw [hSame.mpr hKey.symm, Function.comp]
        exact (decide_eq_false (not_not_intro hKey)).symm
      · have hNot : finding.sameFix other = false := by
          rw [Bool.eq_false_iff]
          intro hYes
          exact hKey (hSame.mp hYes).symm
        rw [hNot, Function.comp]
        exact (decide_eq_true hKey).symm

end GradleMigration

------------------------------------------------------------
-- The Jobs of a Command
------------------------------------------------------------

namespace GradleMigration

/- Whether a command that is given rule ids takes one on. -/
def Workspace.wants
    (rules : List String)
    (id : String) : Bool :=
  rules.isEmpty || (rules.map Text.upperText).contains id

namespace Scanner

/-
  The wanted rules of a scanner that have a fixable hit in a
  text, in their order.
-/
def due
    (scanner : Scanner)
    (rules : List String)
    (content : List Char) : List Rule :=
  scanner.rules.filter fun rule =>
    Workspace.wants rules rule.id && rule.isDue content

/- The due rules of the scripts that can be read. -/
def jobs
    (scanner : Scanner)
    (rules : List String)
    (tree : FileTree)
    (files : List Path) : List Candidate :=
  files.flatMap fun file =>
    match tree.readExact file with
    | .error _ => []
    | .ok content =>
        (scanner.due rules content).map (.mk file content)

/- The jobs are the candidates that are due. -/
theorem jobs_eq_filter
    (scanner : Scanner)
    (rules : List String)
    (tree : FileTree)
    (files : List Path) :
    scanner.jobs rules tree files =
      (scanner.candidates tree files).filter fun candidate =>
        Workspace.wants rules candidate.rule.id &&
          candidate.rule.isDue candidate.content := by
  unfold jobs candidates
  rw [List.filter_flatMap]
  congr 1
  funext file
  cases tree.readExact file with
  | error fault => rfl
  | ok content =>
      simp only [due, List.filter_map]
      rfl

/- No rule comes twice in a file. -/
theorem nodup_candidates
    {scanner : Scanner}
    (hRules : (scanner.rules.map Rule.id).Nodup)
    (tree : FileTree)
    {files : List Path}
    (hFiles : files.Nodup) :
    ((scanner.candidates tree files).map
      Candidate.key).Nodup := by
  induction files with
  | nil => exact List.nodup_nil
  | cons file rest ih =>
      rcases List.nodup_cons.mp hFiles with ⟨hFile, hRest⟩
      unfold candidates at ih ⊢
      rw [List.flatMap_cons, List.map_append]
      refine List.nodup_append.mpr ⟨?_, ih hRest, ?_⟩
      · cases tree.readExact file with
        | error fault => exact List.nodup_nil
        | ok content =>
            unfold List.Nodup at hRules ⊢
            simp only [List.map_map]
            rw [List.pairwise_map] at hRules ⊢
            refine hRules.imp ?_
            intro a b hNe hEq
            exact hNe (congrArg Prod.snd hEq)
      · intro key hKey other hOther hEq
        subst hEq
        have hHere : key.1 = file := by
          rcases List.mem_map.mp hKey with
            ⟨candidate, hMem, hIs⟩
          subst hIs
          cases hRead : tree.readExact file with
          | error fault => simp [hRead] at hMem
          | ok content =>
              rw [hRead] at hMem
              rcases List.mem_map.mp hMem with ⟨rule, _, hIs⟩
              subst hIs
              rfl
        rcases List.mem_map.mp hOther with
          ⟨candidate, hMem, hIs⟩
        rcases List.mem_flatMap.mp hMem with
          ⟨later, hLater, hCandidate⟩
        cases hRead : tree.readExact later with
        | error fault => simp [hRead] at hCandidate
        | ok content =>
            rw [hRead] at hCandidate
            rcases List.mem_map.mp hCandidate with
              ⟨rule, _, hEq⟩
            rw [← hIs, ← hEq] at hHere
            exact hFile (hHere ▸ hLater)

end Scanner

namespace Candidate

/- The calls of a candidate that a command takes on. -/
def taken
    (rules : List String)
    (candidate : Candidate) : List (Path × String × Bool) :=
  candidate.calls.filter fun (_, id, auto) =>
    auto && Workspace.wants rules id

/- All calls of a candidate have its key. -/
theorem map_taken
    (rules : List String)
    (candidate : Candidate) :
    ((candidate.taken rules).map fun (file, id, _) =>
        (file, id)) =
      List.replicate (candidate.taken rules).length
        candidate.key := by
  apply List.eq_replicate_iff.mpr
  refine ⟨List.length_map _, ?_⟩
  intro key hKey
  rcases List.mem_map.mp hKey with ⟨call, hCall, hEq⟩
  rcases List.mem_map.mp (List.mem_filter.mp hCall).1 with
    ⟨hit, _, hIs⟩
  rw [← hEq, ← hIs]
  rfl

/- Calls are taken on where a rule is wanted and due. -/
theorem length_taken_pos
    (rules : List String)
    (candidate : Candidate) :
    decide (0 < (candidate.taken rules).length) =
      (Workspace.wants rules candidate.rule.id &&
        candidate.rule.isDue candidate.content) := by
  rw [Bool.eq_iff_iff, decide_eq_true_eq,
    List.length_pos_iff_exists_mem, Bool.and_eq_true]
  unfold taken calls Rule.isDue
  rw [List.any_eq_true]
  constructor
  · rintro ⟨call, hCall⟩
    rcases List.mem_filter.mp hCall with ⟨hMem, hTaken⟩
    rcases List.mem_map.mp hMem with ⟨hit, hHit, hIs⟩
    subst hIs
    rw [Bool.and_eq_true] at hTaken
    exact ⟨hTaken.2, hit, hHit, hTaken.1⟩
  · rintro ⟨hWants, hit, hHit, hFixes⟩
    refine ⟨_, List.mem_filter.mpr
      ⟨List.mem_map_of_mem hHit, ?_⟩⟩
    rw [Bool.and_eq_true]
    exact ⟨hFixes, hWants⟩

end Candidate

namespace Workspace

/- What `fix` takes on are fixable findings of the report. -/
theorem mem_of_mem_fixable
    {report : Report}
    {rules : List String}
    {finding : Finding}
    (h : finding ∈ fixable report rules) :
    finding ∈ report.findings ∧ finding.autoFixable = true := by
  have hMem := (onePerFix_sublist _).subset h
  rcases List.mem_filter.mp hMem with ⟨hFinding, hBoth⟩
  rw [Bool.and_eq_true] at hBoth
  exact ⟨hFinding, hBoth.1⟩

/-
  The findings that `fix` takes on after a scan stand for the
  due rules of the scripts, one for each, in their order.
-/
theorem keys_of_fixable
    {scanner : Scanner}
    (hRules : (scanner.rules.map Rule.id).Nodup)
    {tree : FileTree}
    {root : Path}
    (hRoot : root.isAbsolute = true)
    {idName : Nat → String}
    {next : Nat}
    {report : Report}
    (hScan : scanner.scan tree root idName next = .ok report)
    {files : List Path}
    (hFiles : scanner.scripts tree root = .ok files)
    (rules : List String) :
    (fixable report rules).map Finding.key =
      (scanner.jobs rules tree files).map Candidate.key := by
  rcases Scanner.calls_of_scan hScan with
    ⟨listed, hListed, hCalls⟩
  rw [hFiles] at hListed
  cases hListed
  rcases FileTree.isDirectory_eq_true_iff.mp
      (Scanner.of_scan hScan).1 with
    ⟨place, hLocate, hPlace⟩
  have hListing :=
    Scanner.listing_of_scripts hLocate hPlace hFiles
  have hAbsolute : ∀ finding ∈ report.findings,
      finding.file.isAbsolute = true := by
    intro finding hFinding
    rcases Scanner.origin_of_scan hScan hFinding with
      ⟨others, _, _, _, hOthers, hOrigin⟩
    unfold Path.isAbsolute at hRoot ⊢
    rw [Scanner.anchoring_of_scripts hOthers hOrigin.isFile,
      hRoot]
  have hSelected :
      (report.findings.filter fun finding =>
          finding.autoFixable &&
            wants rules finding.ruleId).map Finding.key =
        (scanner.candidates tree files).flatMap
          fun candidate =>
            List.replicate (candidate.taken rules).length
              candidate.key := by
    have hKeys := congrArg
      (fun calls =>
        (calls.filter fun (_, id, auto) =>
          auto && wants rules id).map fun (file, id, _) =>
            ((file, id) : Path × String)) hCalls
    simp only [List.filter_map, List.map_map,
      List.filter_flatMap, List.map_flatMap] at hKeys
    refine Eq.trans hKeys ?_
    congr 1
    funext candidate
    exact candidate.map_taken rules
  have hMade :=
    firsts_flatMap_replicate Candidate.key
      (fun candidate => (candidate.taken rules).length)
      (Scanner.nodup_candidates hRules tree hListing.nodup)
  unfold fixable
  simp only
  rw [onePerFix_keys fun finding hFinding =>
    hAbsolute finding (List.mem_filter.mp hFinding).1]
  rw [Scanner.jobs_eq_filter]
  refine Eq.trans (congrArg firsts hSelected)
    (hMade.trans ?_)
  congr 1
  apply List.filter_congr
  intro candidate _
  exact candidate.length_taken_pos rules

end Workspace

end GradleMigration
