import GradleMigration.Proofs.File.WellFormed
import GradleMigration.Proofs.Fix.Step
import GradleMigration.Proofs.Pattern.Succession
import GradleMigration.Proofs.Rule.Catalog
import GradleMigration.Proofs.Scan.Origin
import GradleMigration.Proofs.Scan.Pool
import GradleMigration.Proofs.Scan.Same
import GradleMigration.Proofs.Text.Utf8
import Mathlib.Data.List.Forall2

/-
  A scan accounts for every script of a project: each is
  skipped if it is not a text, and otherwise the first hits of
  each rule in it are reported, in order.

  What a report has to say is described here by the entries of
  the tree alone: which of them are scripts, in which order
  they come, and what is to be told about a hit.

  Main declarations:
    * `Project.IsScript`
    * `ScriptFile.Listed`
    * `Sighting.Reported`
    * `FileTree.InReach`
    * `Scanner.scan_cases`
    * `ScriptFile.sightings`
    * `Scanner.scanFiles_of_scripts`
    * `Scanner.Accounts`
    * `Scanner.accounts_of_inReach`
    * `Scanner.scan_accounts_for_scripts`
-/

------------------------------------------------------------
-- Scripts of a Project
------------------------------------------------------------

namespace GradleMigration

namespace Project

/-
  Names that lead from a root to a script: the last one is
  that of a script, and none of the others is left out.
-/
structure IsScript
    (excludes : List String)
    (names : List Name) : Prop where
  named : ∃ last, names.getLast? = some last ∧
    (".gradle".toList <:+ last.text.toList ∨
      ".gradle.kts".toList <:+ last.text.toList ∨
      last.text = "gradle-wrapper.properties")
  reached : ∀ folder ∈ names.dropLast, folder.text ∉ excludes

/- A script has a name. -/
theorem IsScript.ne_nil
    {excludes : List String}
    {names : List Name}
    (h : IsScript excludes names) :
    names ≠ [] := by
  rcases h.named with ⟨last, hLast, _⟩
  rintro rfl
  cases hLast

/- The first directory on the way along some names. -/
def moduleNamed
    (names : List Name) : String :=
  (names.dropLast.head?.map Name.text).getD "root"

/- A path below a root is the root and the names below it. -/
theorem relativeTo_below
    (root : Path)
    (names : List Name) :
    (root.below names).relativeTo root = some names := by
  unfold Path.relativeTo Path.below
  simp

theorem isScriptName_iff
    {name : String} :
    isScriptName name = true ↔
      ".gradle".toList <:+ name.toList ∨
        ".gradle.kts".toList <:+ name.toList ∨
        name = "gradle-wrapper.properties" := by
  unfold isScriptName scriptSuffixes wrapperName
  simp [or_assoc]

/- A file is looked into when its names are a script's. -/
theorem isScannable_below
    (root : Path)
    {names : List Name}
    (excludes : List String)
    (hNames : names ≠ []) :
    isScannable (root.below names) root excludes = true ↔
      IsScript excludes names := by
  have hLast := List.getLast?_eq_getLast_of_ne_nil hNames
  unfold isScannable
  rw [Path.name_below root hLast, relativeTo_below,
    Bool.and_eq_true, isScriptName_iff]
  simp only [Bool.not_eq_true', List.any_eq_false,
    List.contains_iff_mem]
  constructor
  · rintro ⟨hName, hFolders⟩
    exact ⟨⟨_, hLast, hName⟩, hFolders⟩
  · rintro ⟨⟨last, hIs, hName⟩, hFolders⟩
    rw [hLast] at hIs
    cases hIs
    exact ⟨hName, hFolders⟩

/- A file belongs to the module that its names say. -/
theorem moduleOf_below
    (root : Path)
    (names : List Name) :
    moduleOf (root.below names) root = moduleNamed names := by
  unfold moduleOf moduleNamed rootModule
  rw [relativeTo_below]
  match names with
  | [] => rfl
  | [_] => rfl
  | _ :: _ :: _ => rfl

end Project

namespace Path

/- What two lists have in common does not show in the order. -/
theorem textsLe_append
    (front a b : List String) :
    textsLe (front ++ a) (front ++ b) = textsLe a b := by
  induction front with
  | nil => rfl
  | cons text rest ih =>
      rw [List.cons_append, List.cons_append, textsLe,
        if_pos rfl, ih]

/- Different lists in order are in the strict order. -/
theorem lt_of_textsLe
    {a b : List String}
    (h : textsLe a b = true)
    (hNe : a ≠ b) :
    a < b := by
  induction a generalizing b with
  | nil =>
      cases b with
      | nil => exact absurd rfl hNe
      | cons y b => exact List.nil_lt_cons y b
  | cons x a ih =>
      cases b with
      | nil => cases h
      | cons y b =>
          rw [List.cons_lt_cons_iff]
          unfold textsLe at h
          by_cases hEq : x = y
          · rw [if_pos hEq] at h
            refine Or.inr ⟨hEq, ih h ?_⟩
            intro hSame
            exact hNe (by rw [hEq, hSame])
          · rw [if_neg hEq] at h
            exact Or.inl (of_decide_eq_true h)

/- Paths below a root are in the order of their names. -/
theorem lt_of_le_below
    {root : Path}
    {a b : List Name}
    (h : (root.below a).le (root.below b) = true)
    (hNe : root.below a ≠ root.below b) :
    a.map Name.text < b.map Name.text := by
  unfold le texts below at h
  rw [textsLe, if_pos rfl, List.map_append, List.map_append,
    textsLe_append] at h
  refine lt_of_textsLe h ?_
  intro hEq
  exact hNe (by rw [names_injective hEq])

end Path

/- A file below a root: the names that lead to it, its bytes. -/
structure ScriptFile where
  names : List Name
  bytes : List UInt8

namespace ScriptFile

/- The path of a script. -/
def path
    (root : Path)
    (script : ScriptFile) : Path :=
  root.below script.names

/- The text of a script, if its bytes are those of one. -/
def text?
    (script : ScriptFile) : Option (List Char) :=
  (Utf8.decode script.bytes).toOption

theorem text?_eq_some_iff
    {script : ScriptFile}
    {content : List Char} :
    script.text? = some content ↔
      script.bytes = Utf8.encode content := by
  rw [← Utf8.decode_eq_ok_iff, text?]
  cases Utf8.decode script.bytes with
  | error fault => simp [Except.toOption]
  | ok text => simp [Except.toOption]

/-
  A list of all scripts below a place, each once, in the order
  of their names.
-/
structure Listed
    (tree : FileTree)
    (place : Location)
    (excludes : List String)
    (scripts : List ScriptFile) : Prop where
  mem : ∀ script, script ∈ scripts ↔
    tree.get? (place ++ script.names) =
        some (.file script.bytes) ∧
      Project.IsScript excludes script.names
  ordered : scripts.Pairwise fun a b =>
    a.names.map Name.text < b.names.map Name.text

/- The script that a path below a root leads to. -/
def ofPath
    (tree : FileTree)
    (root : Path)
    (place : Location)
    (file : Path) : ScriptFile :=
  let names := file.parts.drop root.parts.length
  { names := names
    bytes :=
      match tree.get? (place ++ names) with
      | some (.file bytes) => bytes
      | _ => [] }

theorem ofPath_below
    {tree : FileTree}
    {place : Location}
    (root : Path)
    {names : List Name}
    {bytes : List UInt8}
    (h : tree.get? (place ++ names) = some (.file bytes)) :
    ofPath tree root place (root.below names) =
      ⟨names, bytes⟩ := by
  unfold ofPath Path.below
  simp only [List.drop_left, h]

/- The scripts that are listed for a scan. -/
theorem exists_listed
    {scanner : Scanner}
    {tree : FileTree}
    {root : Path}
    {place : Location}
    {files : List Path}
    (h : scanner.Listing tree root place files) :
    ∃ scripts, files = scripts.map (path root) ∧
      Listed tree place scanner.excludes scripts := by
  refine ⟨files.map (ofPath tree root place), ?_, ?_⟩
  · rw [List.map_map]
    refine (List.map_id files).symm.trans
      (List.map_congr_left ?_)
    intro file hFile
    rcases (h.mem file).mp hFile with
      ⟨names, bytes, _, hPath, hEntry, _⟩
    subst hPath
    rw [Function.comp, ofPath_below root hEntry]
    rfl
  · refine
      { mem := ?_
        ordered := ?_ }
    · intro script
      rw [List.mem_map]
      constructor
      · rintro ⟨file, hFile, hIs⟩
        rcases (h.mem file).mp hFile with
          ⟨names, bytes, hNames, hPath, hEntry, hScan⟩
        subst hPath
        rw [ofPath_below root hEntry] at hIs
        subst hIs
        exact ⟨hEntry, (Project.isScannable_below root
          scanner.excludes hNames).mp hScan⟩
      · rintro ⟨hEntry, hScript⟩
        have hNames := hScript.ne_nil
        refine ⟨root.below script.names, (h.mem _).mpr ?_,
          ofPath_below root hEntry⟩
        exact ⟨script.names, script.bytes, hNames, rfl, hEntry,
          (Project.isScannable_below root scanner.excludes
            hNames).mpr hScript⟩
    · rw [List.pairwise_map]
      refine (h.sorted.and h.nodup).imp_of_mem ?_
      rintro a b hA hB ⟨hLe, hNe⟩
      rcases (h.mem a).mp hA with
        ⟨namesA, bytesA, _, hPathA, hEntryA, _⟩
      rcases (h.mem b).mp hB with
        ⟨namesB, bytesB, _, hPathB, hEntryB, _⟩
      subst hPathA hPathB
      rw [ofPath_below root hEntryA, ofPath_below root hEntryB]
      exact Path.lt_of_le_below hLe hNe

end ScriptFile

end GradleMigration

------------------------------------------------------------
-- What Is Told About a Hit
------------------------------------------------------------

namespace GradleMigration

/- A hit of a rule in the text of a script. -/
structure Sighting where
  names : List Name
  content : List Char
  rule : Rule
  hit : Hit

namespace Sighting

/- What stands at the place of the hit, without blanks. -/
def matched
    (s : Sighting) : List Char :=
  Text.trim (Text.slice s.content s.hit.start s.hit.stop)

/-
  What an occurrence has to tell: of which rule it is, where
  it is, what stands there, and what can be done about it.
-/
structure Reported
    (root : Path)
    (s : Sighting)
    (found : Occurrence) : Prop where
  ruleId : found.ruleId = s.rule.id
  severity : found.severity = s.rule.severity
  title : found.title = s.rule.title
  description : found.description = s.rule.description
  file : found.file = root.below s.names
  line : found.line =
    ((s.content.take s.hit.start).count '\n' + 1 : Nat)
  matched : found.matched = String.ofList s.matched
  modules : found.modules =
    .ofList [Project.moduleNamed s.names]
  explanation : found.explanation = s.rule.explain s.matched
  suggestion : ∃ suggestion,
    s.rule.suggestFix s.matched
        (some (Text.lineOf s.content s.hit.start
          s.hit.stop)) = .ok suggestion ∧
      found.suggestedFix = String.ofList suggestion
  fixable :
    s.rule.isFixable s.content s.hit = .ok found.autoFixable

end Sighting

/- What is made of a hit tells what it has to. -/
theorem Rule.reported_of_occurrence
    {rule : Rule}
    {root : Path}
    {names : List Name}
    {content : List Char}
    {hit : Hit}
    (hText : hit.text =
      Text.slice content hit.start hit.stop)
    {found : Occurrence}
    (h : rule.occurrence
      ⟨root.below names,
        Project.moduleOf (root.below names) root⟩
      content hit = .ok found) :
    Sighting.Reported root ⟨names, content, rule, hit⟩
      found := by
  rw [Project.moduleOf_below] at h
  unfold occurrence at h
  simp only [hText] at h
  split at h
  · cases h
  · next suggestion hSuggestion =>
      split at h
      · cases h
      · next fixable hFixable =>
          cases h
          exact
            { ruleId := rfl
              severity := rfl
              title := rfl
              description := rfl
              file := rfl
              line := rfl
              matched := rfl
              modules := rfl
              explanation := rfl
              suggestion := ⟨suggestion, hSuggestion, rfl⟩
              fixable := hFixable }

/- Each of some hits is told about, in their order. -/
theorem Rule.reported_of_occurrencesOf
    {rule : Rule}
    {root : Path}
    {names : List Name}
    {content : List Char}
    {hits : List Hit}
    (hText : ∀ hit ∈ hits,
      hit.text = Text.slice content hit.start hit.stop)
    {all : List Occurrence}
    (h : rule.occurrencesOf
      ⟨root.below names,
        Project.moduleOf (root.below names) root⟩
      content hits = .ok all) :
    List.Forall₂ (Sighting.Reported root)
      (hits.map (.mk names content rule)) all := by
  induction hits generalizing all with
  | nil =>
      cases h
      exact .nil
  | cons hit rest ih =>
      rw [List.forall_mem_cons] at hText
      rcases of_occurrencesOf_cons h with
        ⟨found, more, hFound, hMore, hAll⟩
      subst hAll
      exact .cons (reported_of_occurrence hText.1 hFound)
        (ih hText.2 hMore)

/- The first hits of each rule are told about, in order. -/
theorem Script.reported_of_occurrences
    {root : Path}
    {names : List Name}
    {content : List Char}
    {rules : List Rule}
    {all : List Occurrence}
    (h : occurrences
      ⟨root.below names,
        Project.moduleOf (root.below names) root⟩
      content rules = .ok all) :
    List.Forall₂ (Sighting.Reported root)
      (rules.flatMap fun rule =>
        ((rule.hits content).take 100).map
          (.mk names content rule)) all := by
  induction rules generalizing all with
  | nil =>
      cases h
      exact .nil
  | cons rule rest ih =>
      rcases of_occurrences_cons h with
        ⟨found, more, hFound, hMore, hAll⟩
      subst hAll
      rw [List.flatMap_cons]
      refine List.rel_append ?_ (ih hMore)
      refine Rule.reported_of_occurrencesOf ?_ hFound
      intro hit hHit
      exact ((rule.pattern.placed_hits content).inside
        hit (List.mem_of_mem_take hHit)).1

end GradleMigration

------------------------------------------------------------
-- Projects Within Reach
------------------------------------------------------------

namespace GradleMigration

/-
  A project of which no path is too long: where it lies, what
  it tells about itself, and that its files can be listed.
-/
structure FileTree.InReach
    (tree : FileTree)
    (root : Path)
    (place : Location)
    (modules : List String)
    (version : String) : Prop where
  isProject : tree.isProject root = .ok true
  located : tree.locate root = .ok place
  directory : tree.get? place = some .directory
  modules : tree.modules root = .ok modules
  version : tree.version root = .ok version
  short : tree.ShortBelow root place
  files : tree.filesBelow root =
    .ok (tree.filePaths root place)

namespace FileTree.InReach

variable {tree : FileTree}
variable {root : Path}
variable {place : Location}
variable {modules : List String}
variable {version : String}

theorem isDirectory
    (h : tree.InReach root place modules version) :
    tree.isDirectory root = .ok true :=
  isDirectory_eq_true_iff.mpr ⟨place, h.located, h.directory⟩

/- Every scanner can list its scripts. -/
theorem exists_scripts
    (h : tree.InReach root place modules version)
    (scanner : Scanner) :
    ∃ files, scanner.scripts tree root = .ok files := by
  unfold Scanner.scripts
  rw [h.files]
  exact ⟨_, rfl⟩

end FileTree.InReach

/-
  A project is in reach, or a path below its root is too long
  and stops every scan of it.
-/
theorem Scanner.scan_cases
    {tree : FileTree}
    {root : Path}
    (hRoot : tree.isDirectory root = .ok true)
    (hProject : tree.isProject root = .ok true) :
    (∃ names, (root.below names).isTooLong = true ∧
      ∀ (scanner : Scanner) idName next,
        scanner.scan tree root idName next =
          .error (.project (.file
            (.system .nameTooLong (root.below names))))) ∨
      ∃ place modules version,
        tree.InReach root place modules version := by
  rcases FileTree.isDirectory_eq_true_iff.mp hRoot with
    ⟨place, hLocate, hPlace⟩
  rcases FileTree.modules_cases hLocate with
    ⟨modules, hModules⟩ | ⟨names, hLong, hFault⟩
  · rcases FileTree.version_cases hLocate with
      ⟨version, hVersion⟩ | ⟨names, hLong, hFault⟩
    · rcases FileTree.filesBelow_cases hLocate hPlace with
        ⟨names, _, _, _, hLong, hFault⟩ | ⟨hShort, hFiles⟩
      · refine Or.inl ⟨names, hLong, ?_⟩
        intro scanner idName next
        unfold scan survey scripts
        simp only [hRoot, hProject, hModules, hVersion, hFault]
        rfl
      · exact Or.inr ⟨place, modules, version, hProject,
          hLocate, hPlace, hModules, hVersion, hShort, hFiles⟩
    · refine Or.inl ⟨names, hLong, ?_⟩
      intro scanner idName next
      unfold scan survey
      simp only [hRoot, hProject, hModules, hFault]
      rfl
  · refine Or.inl ⟨names, hLong, ?_⟩
    intro scanner idName next
    unfold scan survey
    simp only [hRoot, hProject, hFault]
    rfl

end GradleMigration

------------------------------------------------------------
-- What a Scan Has to Report
------------------------------------------------------------

namespace GradleMigration

/-
  What is to be reported about a script: nothing if it is not
  a text, otherwise the first hits of each rule.
-/
def ScriptFile.sightings
    (rules : List Rule)
    (script : ScriptFile) : List Sighting :=
  match script.text? with
  | none => []
  | some content =>
      rules.flatMap fun rule =>
        ((rule.hits content).take 100).map
          (.mk script.names content rule)

namespace Scanner

/- Scripts that can be reached are reported or skipped. -/
theorem scanFiles_of_scripts
    {scanner : Scanner}
    (hRules : ∀ rule ∈ scanner.rules, rule.Total)
    {tree : FileTree}
    {root : Path}
    {scripts : List ScriptFile}
    (hRead : ∀ script ∈ scripts,
      tree.readExact (script.path root) =
        (Utf8.decode script.bytes).mapError .notText) :
    ∃ harvest,
      scanner.scanFiles tree root
          (scripts.map (ScriptFile.path root)) = .ok harvest ∧
        harvest.skipped =
          (scripts.filter (·.text?.isNone)).map
            (ScriptFile.path root) ∧
        List.Forall₂ (Sighting.Reported root)
          (scripts.flatMap
            (ScriptFile.sightings scanner.rules))
          harvest.occurrences := by
  induction scripts with
  | nil => exact ⟨⟨[], []⟩, rfl, rfl, .nil⟩
  | cons script rest ih =>
      rw [List.forall_mem_cons] at hRead
      rcases ih hRead.2 with
        ⟨later, hLater, hSkipped, hFound⟩
      rw [List.map_cons, scanFiles_cons, hRead.1, hLater,
        List.flatMap_cons, List.filter_cons,
        ScriptFile.sightings, ScriptFile.text?]
      cases Utf8.decode script.bytes with
      | error fault =>
          refine ⟨{ later with
            skipped := script.path root :: later.skipped },
            rfl, ?_, hFound⟩
          rw [hSkipped]
          rfl
      | ok content =>
          rcases Script.occurrences_of_total hRules
              ⟨script.path root,
                Project.moduleOf (script.path root) root⟩
              content with
            ⟨found, hHere⟩
          refine ⟨{ later with
            occurrences := found ++ later.occurrences },
            ?_, hSkipped, ?_⟩
          · dsimp only [Except.mapError]
            rw [hHere]
            rfl
          · exact List.rel_append
              (Script.reported_of_occurrences hHere) hFound

/-
  A report that accounts for the scripts of a project.  The
  findings are those of the scripts in order, of each script
  by rule, and of each rule by the order of its hits; the hits
  of a rule are all that one search after another finds, and
  come one after the other.
-/
structure Accounts
    (scanner : Scanner)
    (tree : FileTree)
    (root : Path)
    (place : Location)
    (scripts : List ScriptFile)
    (report : Report) : Prop where
  listed :
    ScriptFile.Listed tree place scanner.excludes scripts
  texts : ∀ script ∈ scripts, ∀ content,
    script.text? = some content ↔
      script.bytes = Utf8.encode content
  skipped : report.skipped =
    (scripts.filter (·.text?.isNone)).map
      (ScriptFile.path root)
  sorted : report.skipped.Pairwise fun a b => a.texts < b.texts
  hits : ∀ rule ∈ scanner.rules, ∀ content,
    rule.pattern.pattern.Finds false [] 0 content
        (rule.hits content) ∧
      Pattern.Placed content (rule.hits content)
  findings : List.Forall₂ (Sighting.Reported root)
    (scripts.flatMap (ScriptFile.sightings scanner.rules))
    (report.findings.map Finding.toOccurrence)

section

variable {scanner : Scanner}
variable {tree : FileTree}
variable {root : Path}
variable {place : Location}

/- Paths in the order of their names. -/
theorem sorted_paths
    {excludes : List String}
    {scripts : List ScriptFile}
    (h : ScriptFile.Listed tree place excludes scripts)
    (keep : ScriptFile → Bool) :
    ((scripts.filter keep).map
      (ScriptFile.path root)).Pairwise
        fun a b => a.texts < b.texts := by
  rw [List.pairwise_map]
  refine (h.ordered.filter keep).imp ?_
  intro a b hLt
  unfold ScriptFile.path Path.texts Path.below
  rw [List.map_append, List.map_append]
  exact List.append_left_lt hLt

/-
  On a project in reach there is a report that accounts for
  its scripts, whoever looks into them.
-/
theorem accounts_of_inReach
    (hRules : ∀ rule ∈ scanner.rules, rule.Total)
    (hTree : tree.WellFormed)
    {modules : List String}
    {version : String}
    (hReach : tree.InReach root place modules version)
    (idName : Nat → String)
    (next : Nat) :
    ∃ report scripts,
      scanner.scan tree root idName next = .ok report ∧
        scanner.Accounts tree root place scripts report ∧
        ∀ workers, 0 < workers → ∀ harvest,
          ScanPool.Yields scanner tree root
              (scripts.map (ScriptFile.path root)) workers
              harvest ↔
            harvest = .ok
              ⟨report.findings.map Finding.toOccurrence,
                report.skipped⟩ := by
  rcases hReach.exists_scripts scanner with ⟨files, hScripts⟩
  rcases ScriptFile.exists_listed
      (listing_of_scripts hReach.located hReach.directory
        hScripts) with
    ⟨scripts, hPaths, hListed⟩
  have hRead : ∀ script ∈ scripts,
      tree.readExact (script.path root) =
        (Utf8.decode script.bytes).mapError .notText := by
    intro script hScript
    rcases (hListed.mem script).mp hScript with
      ⟨hEntry, hIs⟩
    exact hTree.readExact_below hReach.located hEntry
      (hReach.short _ _ hIs.ne_nil hEntry)
  rcases scanFiles_of_scripts hRules hRead with
    ⟨harvest, hHarvest, hSkipped, hFound⟩
  have hScan := scan_of_harvest hReach.isDirectory
    hReach.isProject hReach.modules hReach.version hScripts
    (hPaths ▸ hHarvest) idName next
  refine ⟨_, scripts, hScan, ?_, ?_⟩
  · refine
      { listed := hListed
        texts := fun script _ content =>
          ScriptFile.text?_eq_some_iff
        skipped := hSkipped
        sorted := ?_
        hits := fun rule _ content =>
          ⟨rule.pattern.finds_hits content,
            rule.pattern.placed_hits content⟩
        findings := ?_ }
    · simp only [hSkipped]
      exact sorted_paths hListed _
    · simp only [map_number]
      exact hFound
  · intro workers hWorkers other
    rw [ScanPool.yields_iff _ _ _ _ hWorkers, hHarvest]
    simp only [map_number]

end

/-
  A scan of a project with rules that can change every text
  accounts for all of its scripts, unless a path below the
  root is too long for the file system.  Neither the order in
  which entries are listed nor the number of workers makes a
  difference.
-/
theorem scan_accounts_for_scripts
    {scanner : Scanner}
    (hRules : ∀ rule ∈ scanner.rules, rule.Total)
    {tree : FileTree}
    (hTree : tree.WellFormed)
    {root : Path}
    (hRoot : tree.isDirectory root = .ok true)
    (hProject : tree.isProject root = .ok true)
    (idName : Nat → String)
    (next : Nat) :
    ((∃ names, (root.below names).isTooLong = true ∧
        scanner.scan tree root idName next =
          .error (.project (.file
            (.system .nameTooLong (root.below names))))) ∨
      ∃ report place scripts,
        scanner.scan tree root idName next = .ok report ∧
          tree.locate root = .ok place ∧
          scanner.Accounts tree root place scripts report ∧
          ∀ workers, 0 < workers → ∀ harvest,
            ScanPool.Yields scanner tree root
                (scripts.map (ScriptFile.path root)) workers
                harvest ↔
              harvest = .ok
                ⟨report.findings.map Finding.toOccurrence,
                  report.skipped⟩) ∧
      ∀ other, tree.Same other →
        scanner.scan other root idName next =
          scanner.scan tree root idName next := by
  refine ⟨?_, fun other hSame =>
    scanner.scan_eq_of_same hSame root idName next⟩
  rcases scan_cases hRoot hProject with
    ⟨names, hLong, hFault⟩ | ⟨place, modules, version, hReach⟩
  · exact Or.inl ⟨names, hLong, hFault scanner idName next⟩
  · rcases accounts_of_inReach hRules hTree hReach idName
        next with
      ⟨report, scripts, hScan, hAccounts, hWorkers⟩
    exact Or.inr ⟨report, place, scripts, hScan,
      hReach.located, hAccounts, hWorkers⟩

/-
  A project with a script in its root, one that is not a text
  in a module, and one in a directory that is left out.
-/
def mixedProject : FileTree where
  directory := ⟨.slash, []⟩
  entries :=
    [([Workspace.singleProject], .directory),
     ([Workspace.singleProject, ⟨"m", by decide⟩], .directory),
     ([Workspace.singleProject, ⟨"m", by decide⟩,
        ⟨"deep.gradle", by decide⟩], .file [0xFF]),
     ([Workspace.singleProject, ⟨"build", by decide⟩],
      .directory),
     ([Workspace.singleProject, ⟨"build", by decide⟩,
        ⟨"deep.gradle", by decide⟩], .file []),
     ([Workspace.singleProject, Workspace.singleScript],
      .file (Utf8.encode
        "x = sourceSets.main.output.classesDir".toList))]
  distinct := by
    decide +kernel

/- A scanner for it. -/
def mixedScanner
    (rules : List Rule) : Scanner where
  rules := rules
  excludes := ["build"]

/- No path of the project is too long. -/
theorem inReach_mixedProject :
    mixedProject.InReach (.parse "/p")
      [Workspace.singleProject] [] Project.unknownVersion := by
  have hPlace : mixedProject.locate (.parse "/p") =
      .ok [Workspace.singleProject] := by
    decide +kernel
  have hDirectory :
      mixedProject.get? [Workspace.singleProject] =
        some .directory := by
    decide +kernel
  have hShort : ∀ pair ∈ mixedProject.entriesBelow
      [Workspace.singleProject],
      ((Path.parse "/p").below pair.1).isTooLong = false := by
    decide +kernel
  rcases FileTree.filesBelow_cases hPlace hDirectory with
    ⟨names, entry, hNames, hEntry, hLong, _⟩ | ⟨hAll, hFiles⟩
  · rw [hShort (names, entry)
      (FileTree.mem_entriesBelow.mpr ⟨hNames, hEntry⟩)]
      at hLong
    cases hLong
  · exact ⟨by decide +kernel, hPlace, hDirectory,
      by decide +kernel, by decide +kernel, hAll, hFiles⟩

/- So a scan of it comes to an end. -/
theorem scan_mixedProject
    {scanner : Scanner}
    (hRules : ∀ rule ∈ scanner.rules, rule.Total) :
    ∃ report, scanner.scan mixedProject (.parse "/p")
      toString 0 = .ok report := by
  have hReach := inReach_mixedProject
  rcases hReach.exists_scripts scanner with ⟨files, hFiles⟩
  rcases scanFiles_of_total hRules mixedProject (.parse "/p")
      files with
    ⟨harvest, hHarvest⟩
  exact ⟨_, scan_of_harvest hReach.isDirectory hReach.isProject
    hReach.modules hReach.version hFiles hHarvest toString 0⟩

/- A rule of the catalog to look for. -/
theorem exists_rule_of_entry
    {entry : RuleEntry}
    (hEntry : entry ∈ Builtin.entries)
    (hBuild : entry.build.toOption.isSome = true) :
    ∃ rule, entry.build = .ok rule ∧ rule.id = entry.id ∧
      rule.Total := by
  cases hRule : entry.build with
  | error fault =>
      rw [hRule] at hBuild
      cases hBuild
  | ok rule =>
      exact ⟨rule, rfl, Registry.id_of_build hRule,
        Registry.total_of_mem_builtin
          (Registry.mem_builtin_of_build hEntry hRule)⟩

/- The bytes that are not a text are skipped. -/
theorem scan_accounts_for_mixedProject :
    mixedProject.WellFormed ∧
      ∃ rule report place scripts,
        Builtin.sourcesetOutput.build = .ok rule ∧
          (mixedScanner [rule]).scan mixedProject
            (.parse "/p") toString 0 = .ok report ∧
          (mixedScanner [rule]).Accounts mixedProject
            (.parse "/p") place scripts report ∧
          Path.parse "/p/m/deep.gradle" ∈ report.skipped ∧
          Path.parse "/p/build/deep.gradle" ∉ report.skipped := by
  have hTree : mixedProject.WellFormed := by
    decide +kernel
  refine ⟨hTree, ?_⟩
  rcases exists_rule_of_entry
      (show Builtin.sourcesetOutput ∈ _ by
        simp [Builtin.entries])
      (by rw [RuleEntry.build_eq_decoded]; decide +kernel) with
    ⟨rule, hRule, _, hTotal⟩
  have hRules :
      ∀ other ∈ (mixedScanner [rule]).rules, other.Total := by
    simpa [mixedScanner] using hTotal
  rcases scan_mixedProject hRules with ⟨report, hReport⟩
  rcases (scan_accounts_for_scripts hRules hTree
      inReach_mixedProject.isDirectory
      inReach_mixedProject.isProject toString 0).1 with
    ⟨names, _, hFault⟩ |
      ⟨other, place, scripts, hOther, hPlace, hAccounts, _⟩
  · rw [hReport] at hFault
    cases hFault
  · rw [inReach_mixedProject.located] at hPlace
    cases hPlace
    refine ⟨rule, other, _, scripts, hRule, hOther, hAccounts,
      ?_, ?_⟩
    · rw [hAccounts.skipped, List.mem_map]
      refine ⟨⟨[⟨"m", by decide⟩, ⟨"deep.gradle", by decide⟩],
        [0xFF]⟩, List.mem_filter.mpr ⟨?_, by decide +kernel⟩,
        by decide +kernel⟩
      refine (hAccounts.listed.mem _).mpr
        ⟨by decide +kernel, ⟨⟨"deep.gradle", by decide⟩, rfl,
          Or.inl (by decide +kernel)⟩, by simp [mixedScanner]⟩
    · rw [hAccounts.skipped, List.mem_map]
      rintro ⟨script, hScript, hPath⟩
      have hMem := (hAccounts.listed.mem script).mp
        (List.mem_filter.mp hScript).1
      have hNames : script.names =
          [⟨"build", by decide⟩, ⟨"deep.gradle", by decide⟩] :=
        Path.below_injective (hPath.trans
          (show Path.parse "/p/build/deep.gradle" =
            (Path.parse "/p").below _ by decide +kernel))
      rw [hNames] at hMem
      exact hMem.2.reached ⟨"build", by decide⟩ (by simp)
        (by simp [mixedScanner])

end Scanner

end GradleMigration
