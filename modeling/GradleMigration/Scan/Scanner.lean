import GradleMigration.Project.Root
import GradleMigration.Rule.Registry
import GradleMigration.Scan.Script

/-
  Scanning a project for what its rules find.

  Key definitions include:
    * `Scanner`
    * `FileTree.filesBelow`
    * `Scanner.scripts`
    * `Scanner.scanFile`
    * `Scanner.scan`

  Files are looked at in the order of their paths.  A file that
  cannot be read as text is skipped and reported as such.
-/

------------------------------------------------------------
-- Scripts
------------------------------------------------------------

namespace GradleMigration

/- The rules to look for and the directories to leave out. -/
structure Scanner where
  rules : List Rule
  excludes : List String

/- The paths of entries below a root, in their order. -/
def Entries.pathsFrom
    (root : Path)
    (entries : Entries) : List Path :=
  (entries.map fun (names, _) =>
    root.below names).mergeSort Path.le

namespace FileTree

/-
  The files below a directory, in the order of their paths.
  On the way every directory is opened and every file looked
  at by its path, so none of these may be too long.
-/
def filesBelow
    (tree : FileTree)
    (root : Path) : Except FileFault (List Path) :=
  match tree.isDirectory root with
  | .error fault => .error fault
  | .ok false => .ok []
  | .ok true =>
      match tree.locate root with
      | .error cause => .error (.system cause root)
      | .ok location =>
          let below := tree.entriesBelow location
          let directories :=
            Entries.pathsFrom root (below.filter (!·.2.isFile))
          let files :=
            Entries.pathsFrom root (below.filter (·.2.isFile))
          match (directories ++ files).find? Path.isTooLong with
          | some path => .error (.system .nameTooLong path)
          | none => .ok files

end FileTree

namespace Scanner

/- The scripts of the project at a root. -/
def scripts
    (scanner : Scanner)
    (tree : FileTree)
    (root : Path) : Except FileFault (List Path) :=
  match tree.filesBelow root with
  | .error fault => .error fault
  | .ok files =>
      .ok (files.filter fun file =>
        Project.isScannable file root scanner.excludes)

end Scanner

end GradleMigration

------------------------------------------------------------
-- Scanning
------------------------------------------------------------

namespace GradleMigration

/- Why a scan comes to no end. -/
inductive ScanFault where
| project (fault : ProjectFault)
| read (fault : ReadFault)
| template (fault : TemplateFault)
deriving Repr

/- The wording of a fault. -/
def ScanFault.message : ScanFault → String
| .project fault => fault.message
| .read fault => fault.message
| .template fault => fault.message

/- What scripts have shown, and those that cannot be read. -/
structure Harvest where
  occurrences : List Occurrence
  skipped : List Path
deriving Repr

/- What a project tells about itself. -/
structure Survey where
  modules : List String
  version : String
  harvest : Harvest
deriving Repr

namespace Scanner

/- What the rules find in one file. -/
def scanFile
    (scanner : Scanner)
    (tree : FileTree)
    (file root : Path) :
    Except ScanFault (List Occurrence) :=
  match tree.readExact file with
  | .error fault => .error (.read fault)
  | .ok content =>
      let place : ScriptPlace :=
        { file := file
          moduleName := Project.moduleOf file root }
      (Script.occurrences place content
        scanner.rules).mapError .template

/- What the rules find in several files. -/
def scanFiles
    (scanner : Scanner)
    (tree : FileTree)
    (root : Path) :
    List Path → Except ScanFault Harvest
| [] => .ok ⟨[], []⟩
| file :: files =>
    match scanner.scanFile tree file root with
    | .error (.read _) =>
        (scanFiles scanner tree root files).map fun rest =>
          { rest with skipped := file :: rest.skipped }
    | .error fault => .error fault
    | .ok found =>
        (scanFiles scanner tree root files).map fun rest =>
          { rest with
            occurrences := found ++ rest.occurrences }

/- Give ids to occurrences, counting from a number. -/
def number
    (idName : Nat → String) :
    (next : Nat) → List Occurrence → List Finding
| _, [] => []
| next, occurrence :: rest =>
    { toOccurrence := occurrence, id := idName next } ::
      number idName (next + 1) rest

/- What a project tells, before its findings have ids. -/
def survey
    (scanner : Scanner)
    (tree : FileTree)
    (root : Path) : Except ScanFault Survey :=
  match tree.modules root, tree.version root,
      scanner.scripts tree root with
  | .error fault, _, _ => .error (.project (.file fault))
  | _, .error fault, _ => .error (.project (.file fault))
  | _, _, .error fault => .error (.project (.file fault))
  | .ok modules, .ok version, .ok scripts =>
      (scanner.scanFiles tree root scripts).map fun harvest =>
        ⟨modules, version, harvest⟩

/-
  The report on the project at a root.  Its findings get ids
  counted from a number.
-/
def scan
    (scanner : Scanner)
    (tree : FileTree)
    (root : Path)
    (idName : Nat → String)
    (next : Nat) : Except ScanFault Report :=
  let isRoot : Except FileFault Bool :=
    match tree.isDirectory root with
    | .error fault => .error fault
    | .ok false => .ok false
    | .ok true => tree.isProject root
  match isRoot with
  | .error fault => .error (.project (.file fault))
  | .ok false => .error (.project (.notProjectAt root))
  | .ok true =>
      (scanner.survey tree root).map fun survey =>
        { project := root
          name := root.name
          version := survey.version
          multiModule := !survey.modules.isEmpty
          modules := survey.modules
          findings :=
            number idName next survey.harvest.occurrences
          skipped := survey.harvest.skipped }

end Scanner

end GradleMigration
