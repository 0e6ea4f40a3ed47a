import GradleMigration.Config
import GradleMigration.Proofs.Data.Outcome
import GradleMigration.Proofs.Data.Schema
import GradleMigration.Proofs.File.Locate

/-
  What the settings of a configuration file are: those of its
  table as a whole, or the ones that hold without a file.

  Some files have no settings at all: what is in them is not
  UTF-8, or holds a decimal number of too many digits, or
  names a file with rules by a path with a null character.

  Main declarations:
    * `Schema.MeansInt`
    * `ConfigTable.Reads`
    * `ConfigTable.check_eq_good_iff`
    * `Config.Section`
    * `Config.Gives`, `Config.Ignored` and `Config.Stops`
    * `Config.Follows`
    * `FileTree.config_taken_whole`
-/

------------------------------------------------------------
-- Values of Settings
------------------------------------------------------------

namespace GradleMigration

namespace Schema

/- What stands for an integer, and for which one. -/
inductive MeansInt : Datum → Int → Prop where
| int
    (n : Int) :
    MeansInt (.int n) n
| yes :
    MeansInt (.bool true) 1
| no :
    MeansInt (.bool false) 0
| whole
    {n : Int}
    (h : n.natAbs < wordLimit) :
    MeansInt (.real (.whole n)) n
| text
    {s : String}
    {n : Int}
    (hText : intOfText s = some n)
    (hDigits :
      (Nat.toDigits 10 n.natAbs).length ≤ Text.maxDigits) :
    MeansInt (.text s) n

theorem int_eq_good_iff
    {datum : Datum}
    {n : Int} :
    int datum = .good n ↔ MeansInt datum n := by
  constructor
  · intro h
    unfold int at h
    split at h
    · cases h
      exact .int _
    · next b =>
        cases h
        cases b with
        | false => exact .no
        | true => exact .yes
    · split at h
      · next hWord =>
          cases h
          exact .whole hWord
      · cases h
    · cases h
    · cases h
    · split at h
      · cases h
      · next hText =>
          split at h
          · cases h
          · next hDigits =>
              cases h
              exact .text hText (Nat.le_of_not_lt hDigits)
    · cases h
  · intro h
    cases h with
    | int => rfl
    | yes => rfl
    | no => rfl
    | whole h => exact if_pos h
    | text hText hDigits =>
        rw [int]
        simp only [hText]
        exact if_neg (Nat.not_lt_of_le hDigits)

/- An integer that is not less than the bound. -/
theorem intAtLeast_eq_good_iff
    {bound : Int}
    {datum : Datum}
    {n : Int} :
    intAtLeast bound datum = .good n ↔
      MeansInt datum n ∧ bound ≤ n := by
  rw [← int_eq_good_iff, intAtLeast]
  cases int datum with
  | bad issues => simp
  | good m =>
      by_cases hLeast : bound ≤ m
      · simp only [hLeast, if_true, Checked.good.injEq]
        constructor
        · intro hEq
          exact ⟨hEq, hEq ▸ hLeast⟩
        · exact And.left
      · simp only [hLeast, if_false, Checked.issue]
        refine iff_of_false (by simp) ?_
        rintro ⟨hEq, hBound⟩
        exact hLeast (Checked.good.inj hEq ▸ hBound)

/- A text, or nothing. -/
inductive MeansTextOrNull : Datum → Option String → Prop where
| null :
    MeansTextOrNull .null none
| text
    (s : String) :
    MeansTextOrNull (.text s) (some s)

theorem textOrNull_eq_good_iff
    {datum : Datum}
    {s : Option String} :
    textOrNull datum = .good s ↔ MeansTextOrNull datum s := by
  constructor
  · intro h
    unfold textOrNull at h
    split at h
    · cases h
      exact .null
    · cases h
      exact .text _
    · cases h
  · intro h
    cases h with
    | null => rfl
    | text => rfl

end Schema

end GradleMigration

------------------------------------------------------------
-- Settings of a Table
------------------------------------------------------------

namespace GradleMigration

namespace ConfigTable

/-
  How a table is read.  Each setting stands for itself, and
  has its own default.
-/
structure Reads
    (table : Table)
    (settings : ConfigTable) : Prop where
  select :
    Schema.Stands table "select" [allKey]
      (fun datum names => datum = .list (names.map .text))
      settings.select
  ignore :
    Schema.Stands table "ignore" []
      (fun datum names => datum = .list (names.map .text))
      settings.ignore
  excludeDirs :
    Schema.Stands table "exclude_dirs" []
      (fun datum names => datum = .list (names.map .text))
      settings.excludeDirs
  rulesFile :
    Schema.Stands table "rules_file" none
      Schema.MeansTextOrNull settings.rulesFile
  workers :
    Schema.Stands table "workers" 1
      (fun datum n => Schema.MeansInt datum n ∧ 1 ≤ n)
      settings.workers

/- A table passes its check where it is read as settings. -/
theorem check_eq_good_iff
    {table : Table}
    {settings : ConfigTable} :
    check table = .good settings ↔ Reads table settings := by
  have hTexts : ∀ {name : String} {default names},
      Schema.optional table name default
          (Schema.listOf Schema.text) = .good names ↔
        Schema.Stands table name default
          (fun datum names => datum = .list (names.map .text))
          names :=
    Schema.optional_eq_good_iff
      (fun _ _ => Schema.listOf_text_eq_good_iff)
  have hRules : ∀ {rulesFile},
      Schema.optional table "rules_file" none
          Schema.textOrNull = .good rulesFile ↔
        Schema.Stands table "rules_file" none
          Schema.MeansTextOrNull rulesFile :=
    Schema.optional_eq_good_iff
      (fun _ _ => Schema.textOrNull_eq_good_iff)
  have hWorkers : ∀ {workers},
      Schema.optional table "workers" 1
          (Schema.intAtLeast 1) = .good workers ↔
        Schema.Stands table "workers" 1
          (fun datum n => Schema.MeansInt datum n ∧ 1 ≤ n)
          workers :=
    Schema.optional_eq_good_iff
      (fun _ _ => Schema.intAtLeast_eq_good_iff)
  unfold check
  constructor
  · intro h
    rcases Checked.seq_eq_good_iff.mp h with
      ⟨_, workers, h₁, hCount, rfl⟩
    rcases Checked.seq_eq_good_iff.mp h₁ with
      ⟨_, rulesFile, h₂, hFile, rfl⟩
    rcases Checked.seq_eq_good_iff.mp h₂ with
      ⟨_, excludeDirs, h₃, hDirs, rfl⟩
    rcases Checked.seq_eq_good_iff.mp h₃ with
      ⟨_, ignore, h₄, hIgnore, rfl⟩
    rcases Checked.map_eq_good_iff.mp h₄ with
      ⟨select, hSelect, rfl⟩
    exact
      { select := hTexts.mp hSelect
        ignore := hTexts.mp hIgnore
        excludeDirs := hTexts.mp hDirs
        rulesFile := hRules.mp hFile
        workers := hWorkers.mp hCount }
  · intro h
    rw [hTexts.mpr h.select, hTexts.mpr h.ignore,
      hTexts.mpr h.excludeDirs, hRules.mpr h.rulesFile,
      hWorkers.mpr h.workers]
    rfl

/- There is at least one worker. -/
theorem Reads.one_le_workers
    {table : Table}
    {settings : ConfigTable}
    (h : Reads table settings) :
    1 ≤ settings.workers := by
  rcases h.workers with ⟨-, hDefault⟩ | ⟨datum, -, -, hLeast⟩
  · exact Int.le_of_eq hDefault.symm
  · exact hLeast

end ConfigTable

end GradleMigration

------------------------------------------------------------
-- Settings of a File
------------------------------------------------------------

namespace GradleMigration

namespace Config

/-
  The part of a document that is meant for this program: an
  empty table where nothing is, also below what is no table.
-/
inductive Section
    (document : Table) : Datum → Prop where
| here
    {tool : Table}
    {datum : Datum}
    (hTool : document.get? "tool" = some (.table tool))
    (hHere : Table.get? tool "gradle-migrate" = some datum) :
    Section document datum
| noSection
    {tool : Table}
    (hTool : document.get? "tool" = some (.table tool))
    (hNone : Table.get? tool "gradle-migrate" = none) :
    Section document (.table [])
| noTool
    (hTool : ∀ tool, document.get? "tool" ≠
      some (.table tool)) :
    Section document (.table [])

theorem section?_eq_iff
    {document : Table}
    {datum : Datum} :
    (section? document = datum) ↔
      Section document datum := by
  constructor
  · rintro rfl
    unfold section?
    split
    · next tool hTool =>
        cases hHere : Table.get? tool "gradle-migrate" with
        | none => exact .noSection hTool hHere
        | some datum => exact .here hTool hHere
    · next hTool => exact .noTool hTool
  · intro h
    unfold section?
    cases h with
    | here hTool hHere => simp only [hTool, hHere, Option.getD]
    | noSection hTool hNone =>
        simp only [hTool, hNone, Option.getD]
    | noTool hTool =>
        split
        · next tool hThere => exact absurd hThere (hTool tool)
        · rfl

/- Bytes whose table is read as settings. -/
def Gives
    (bytes : List UInt8)
    (settings : ConfigTable) : Prop :=
  ∃ text document table,
    Utf8.decode bytes = .ok text ∧
      Toml.read text = .ok document ∧
      Section document (.table table) ∧
      ConfigTable.Reads table settings

/-
  Bytes of a text that is no document, or whose table cannot
  be read.
-/
def Ignored
    (bytes : List UInt8) : Prop :=
  ∃ text, Utf8.decode bytes = .ok text ∧
    (Toml.read text = .error .notToml ∨
      ∃ document, Toml.read text = .ok document ∧
        ∀ table settings,
          Section document (.table table) →
            ¬ ConfigTable.Reads table settings)

/- Bytes that stand in the way of any settings, and why. -/
inductive Stops
    (bytes : List UInt8) : ConfigFault → Prop where
| notText
    {fault : Utf8.Fault}
    (hText : Utf8.decode bytes = .error fault) :
    Stops bytes (.read (.notText fault))
| tooManyDigits
    {text : List Char}
    {count : Nat}
    (hText : Utf8.decode bytes = .ok text)
    (hRead : Toml.read text = .error (.tooManyDigits count)) :
    Stops bytes (.tooManyDigits count)
| nullInPath
    {settings : ConfigTable}
    {path : String}
    (hGives : Gives bytes settings)
    (hPath : settings.rulesFile = some path)
    (hNull : '\x00' ∈ path.toList) :
    Stops bytes .nullInPath

/- Settings that follow a table of a file, in a directory. -/
structure Follows
    (base file : Path)
    (settings : ConfigTable)
    (config : Config) : Prop where
  select : config.select = settings.select
  ignore : config.ignore = settings.ignore
  workers : config.workers = settings.workers
  oneWorker : 1 ≤ config.workers
  excludes :
    ∀ name, name ∈ config.excludes ↔
      name ∈ Project.defaultExcludes ∨
        name ∈ settings.excludeDirs
  noRules :
    settings.rulesFile = none ∨ settings.rulesFile = some "" →
      config.rulesFile = none
  rules :
    ∀ path, settings.rulesFile = some path → path ≠ "" →
      config.rulesFile =
        some (base.resolve (file.parent.child path))

/- No path in the settings holds a null character. -/
def HasPlainPath
    (settings : ConfigTable) : Prop :=
  ∀ path, settings.rulesFile = some path →
    '\x00' ∉ path.toList

/- Settings with a plain path are followed. -/
theorem exists_follows
    (base file : Path)
    {table : Table}
    {settings : ConfigTable}
    (h : ConfigTable.Reads table settings)
    (hPlain : HasPlainPath settings) :
    ∃ config, ofTable base file settings = .ok config ∧
      Follows base file settings config := by
  have hFollows : ∀ rulesFile,
      (settings.rulesFile = none ∨
          settings.rulesFile = some "" → rulesFile = none) →
      (∀ path, settings.rulesFile = some path → path ≠ "" →
        rulesFile =
          some (base.resolve (file.parent.child path))) →
      Follows base file settings
        { select := settings.select
          ignore := settings.ignore
          excludes :=
            Project.defaultExcludes ++ settings.excludeDirs
          rulesFile := rulesFile
          workers := settings.workers } := by
    intro rulesFile hNone hSome
    exact
      { select := rfl
        ignore := rfl
        workers := rfl
        oneWorker := h.one_le_workers
        excludes := fun name => List.mem_append
        noRules := hNone
        rules := hSome }
  unfold ofTable
  cases hRules : settings.rulesFile with
  | none =>
      refine ⟨_, rfl, hFollows none (fun _ => rfl) ?_⟩
      intro path hPath
      rw [hRules] at hPath
      cases hPath
  | some path =>
      by_cases hEmpty : path = ""
      · rw [rulesFileOf, if_pos hEmpty]
        refine ⟨_, rfl, hFollows none (fun _ => rfl) ?_⟩
        intro other hOther hNe
        rw [hRules] at hOther
        cases hOther
        exact absurd hEmpty hNe
      · have hNull : ¬ path.toList.contains '\x00' = true := by
          simpa using hPlain path hRules
        rw [rulesFileOf, if_neg hEmpty, if_neg hNull]
        refine ⟨_, rfl, hFollows _ ?_ ?_⟩
        · rintro (hNone | hBlank)
          · rw [hRules] at hNone
            cases hNone
          · rw [hRules] at hBlank
            exact absurd (Option.some.inj hBlank) hEmpty
        · intro other hOther _
          rw [hRules] at hOther
          cases hOther
          rfl

/- Settings with a null character in a path are not taken. -/
theorem ofTable_of_null
    (base file : Path)
    {settings : ConfigTable}
    {path : String}
    (hPath : settings.rulesFile = some path)
    (hNull : '\x00' ∈ path.toList) :
    ofTable base file settings = .error .nullInPath := by
  have hNe : path ≠ "" := by
    rintro rfl
    cases hNull
  rw [ofTable, hPath, rulesFileOf, if_neg hNe,
    if_pos (by simpa using hNull)]
  rfl

/- Bytes that give settings are taken for these settings. -/
theorem ofBytes_of_gives
    (base file : Path)
    {bytes : List UInt8}
    {settings : ConfigTable}
    (h : Gives bytes settings) :
    ofBytes base file bytes = ofTable base file settings := by
  rcases h with
    ⟨text, document, table, hText, hRead, hSection, hReads⟩
  have hCheck := ConfigTable.check_eq_good_iff.mpr hReads
  unfold ofBytes ofText
  simp only [hText, hRead, section?_eq_iff.mpr hSection,
    Schema.model, hCheck]

/- The settings that bytes give are followed. -/
theorem exists_follows_of_gives
    (base file : Path)
    {bytes : List UInt8}
    {settings : ConfigTable}
    (h : Gives bytes settings)
    (hPlain : HasPlainPath settings) :
    ∃ config, ofBytes base file bytes = .ok config ∧
      Follows base file settings config := by
  rw [ofBytes_of_gives base file h]
  rcases h with ⟨_, _, _, _, _, _, hReads⟩
  exact exists_follows base file hReads hPlain

/- Bytes that are ignored are taken for no file. -/
theorem ofBytes_of_ignored
    (base file : Path)
    {bytes : List UInt8}
    (h : Ignored bytes) :
    ofBytes base file bytes = .ok standard := by
  rcases h with ⟨text, hText, hRead | ⟨document, hRead, hNone⟩⟩
  · unfold ofBytes ofText
    simp only [hText, hRead]
  · unfold ofBytes ofText
    simp only [hText, hRead]
    split
    · rfl
    · next settings hGood =>
        unfold Schema.model at hGood
        split at hGood
        · next table hTable =>
            exact absurd
              (ConfigTable.check_eq_good_iff.mp hGood)
              (hNone _ _ (section?_eq_iff.mp hTable))
        · cases hGood

/- Bytes that stop the settings do so with their fault. -/
theorem ofBytes_of_stops
    (base file : Path)
    {bytes : List UInt8}
    {fault : ConfigFault}
    (h : Stops bytes fault) :
    ofBytes base file bytes = .error fault := by
  cases h with
  | notText hText =>
      unfold ofBytes
      simp only [hText]
  | tooManyDigits hText hRead =>
      unfold ofBytes ofText
      simp only [hText, hRead]
  | nullInPath hGives hPath hNull =>
      rw [ofBytes_of_gives base file hGives,
        ofTable_of_null base file hPath hNull]

/- All bytes stop the settings, are ignored, or give some. -/
theorem stops_or_ignored_or_gives
    (bytes : List UInt8) :
    (∃ fault, Stops bytes fault) ∨ Ignored bytes ∨
      ∃ settings, Gives bytes settings ∧
        HasPlainPath settings := by
  cases hText : Utf8.decode bytes with
  | error fault => exact Or.inl ⟨_, .notText hText⟩
  | ok text =>
      cases hRead : Toml.read text with
      | error fault =>
          cases fault with
          | notToml =>
              exact Or.inr (Or.inl ⟨text, hText, Or.inl hRead⟩)
          | tooManyDigits count =>
              exact Or.inl ⟨_, .tooManyDigits hText hRead⟩
      | ok document =>
          by_cases hSome : ∃ settings, Gives bytes settings
          · rcases hSome with ⟨settings, hGives⟩
            by_cases hPlain : HasPlainPath settings
            · exact Or.inr (Or.inr ⟨settings, hGives, hPlain⟩)
            · simp only [HasPlainPath, not_forall,
                not_not] at hPlain
              rcases hPlain with ⟨path, hPath, hNull⟩
              exact Or.inl ⟨_, .nullInPath hGives hPath hNull⟩
          · refine Or.inr (Or.inl ⟨text, hText,
              Or.inr ⟨document, hRead, ?_⟩⟩)
            intro table settings hSection hReads
            exact hSome ⟨settings, text, document, table, hText,
              hRead, hSection, hReads⟩

end Config

end GradleMigration

------------------------------------------------------------
-- Settings of a Project
------------------------------------------------------------

namespace GradleMigration

namespace FileTree

/- What a file that can be read has in it are its settings. -/
theorem config_of_read
    {tree : FileTree}
    {file : Path}
    {bytes : List UInt8}
    (h : tree.read file = .ok bytes) :
    tree.config (some file) =
      Config.ofBytes tree.directory file bytes := by
  have hHas : tree.has file = .ok true := by
    rcases read_eq_ok_iff.mp h with ⟨location, hLocation⟩
    rw [has, find?, find_eq_ok_iff.mpr ⟨location, hLocation⟩]
    rfl
  unfold config
  simp only [hHas, h]

/-
  A file is taken as a whole or not at all.  Bytes of a text
  that is no document, or whose table does not fit, count as
  no file.  Other bytes of a text give their settings, or else
  stop them for one of two reasons; what is no text does too.
-/
theorem config_taken_whole
    {tree : FileTree}
    {file : Path}
    {bytes : List UInt8}
    (h : tree.read file = .ok bytes) :
    (∀ fault,
        tree.config (some file) = .error fault ↔
          Config.Stops bytes fault) ∧
      (Config.Ignored bytes →
        tree.config (some file) = .ok .standard) ∧
      (∀ settings, Config.Gives bytes settings →
        Config.HasPlainPath settings →
          ∃ config, tree.config (some file) = .ok config ∧
            config.Follows tree.directory file settings) ∧
      ((∃ fault, Config.Stops bytes fault) ∨
        Config.Ignored bytes ∨
          ∃ settings, Config.Gives bytes settings ∧
            Config.HasPlainPath settings) ∧
      tree.config none = .ok .standard ∧
      ∀ absent, tree.has absent = .ok false →
        tree.config (some absent) = .ok .standard := by
  have hAll := Config.stops_or_ignored_or_gives bytes
  rw [config_of_read h]
  refine ⟨fun fault => ⟨?_, Config.ofBytes_of_stops _ _⟩,
    Config.ofBytes_of_ignored _ _, ?_, hAll, rfl, ?_⟩
  · intro hFault
    rcases hAll with
      ⟨other, hStops⟩ | hIgnored | ⟨settings, hGives, hPlain⟩
    · have hOther := Config.ofBytes_of_stops tree.directory
        file hStops
      rw [hFault] at hOther
      cases hOther
      exact hStops
    · rw [Config.ofBytes_of_ignored _ _ hIgnored] at hFault
      cases hFault
    · rcases Config.exists_follows_of_gives tree.directory file
        hGives hPlain with ⟨config, hConfig, _⟩
      rw [hConfig] at hFault
      cases hFault
  · intro settings hGives hPlain
    exact Config.exists_follows_of_gives _ _ hGives hPlain
  · intro absent hAbsent
    rw [config]
    simp only [hAbsent]

/- The path of a configuration file, and a tree with it. -/
def configPath : Path :=
  .parse "/conf/.gradle-migrate.toml"

def configTree
    (bytes : List UInt8) : FileTree :=
  ((empty ⟨.slash, []⟩).set [⟨"conf", by decide⟩]
    .directory).set configPath.parts (.file bytes)

/- A table in which each setting stands for something else. -/
def wholeConfig : List UInt8 :=
  Utf8.encode ("[tool.gradle-migrate]\n" ++
    "select = [\x22HIGH\x22]\n" ++
    "exclude_dirs = [\x22vendor\x22]\n" ++
    "rules_file = \x22../r.toml\x22\n" ++
    "workers = 2.0\n").toList

theorem config_taken_whole_of_wholeConfig :
    (configTree wholeConfig).read configPath =
        .ok wholeConfig ∧
      ∃ settings config,
        Config.Gives wholeConfig settings ∧
          (configTree wholeConfig).config (some configPath) =
            .ok config ∧
          config.Follows ⟨.slash, []⟩ configPath settings ∧
          config.workers = 2 ∧
          config.rulesFile = some (.parse "/r.toml") ∧
          config.excludes = ["build", ".gradle", "vendor"] := by
  have hRead : (configTree wholeConfig).read configPath =
      .ok wholeConfig := by
    decide +kernel
  have hConfig :
      (configTree wholeConfig).config (some configPath) =
        .ok
          { select := ["HIGH"]
            ignore := []
            excludes := ["build", ".gradle", "vendor"]
            rulesFile := some (.parse "/r.toml")
            workers := 2 } := by
    decide +kernel
  rcases config_taken_whole hRead with
    ⟨hStops, hIgnored, hGives, hAll, _⟩
  rcases hAll with
    ⟨fault, hFault⟩ | hNone | ⟨settings, hSome, hPlain⟩
  · have hStopped := (hStops fault).mpr hFault
    rw [hConfig] at hStopped
    cases hStopped
  · have hStandard := hIgnored hNone
    rw [hConfig] at hStandard
    exact absurd hStandard (by decide)
  · rcases hGives settings hSome hPlain with
      ⟨config, hTaken, hFollows⟩
    rw [hConfig] at hTaken
    cases hTaken
    exact ⟨hRead, settings, _, hSome, hConfig, hFollows, rfl,
      rfl, rfl⟩

/- A table that names a path with a null character. -/
def nullConfig : List UInt8 :=
  Utf8.encode ("[tool.gradle-migrate]\n" ++
    "rules_file = \x22a\\u0000b\x22\n").toList

/- A byte that is no text is not ignored, nor is this table. -/
theorem config_not_ignored :
    (configTree [0xff]).config (some configPath) =
        .error (.read (.notText ⟨0xff, 0, 1, .invalidStart⟩)) ∧
      (configTree nullConfig).config (some configPath) =
        .error .nullInPath ∧
      (configTree []).config (some configPath) =
        .ok .standard := by
  exact ⟨by decide +kernel, by decide +kernel,
    by decide +kernel⟩

end FileTree

end GradleMigration
