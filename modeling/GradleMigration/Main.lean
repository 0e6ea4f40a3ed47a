import GradleMigration.Command.Run
import Std.Time.DateTime.Timestamp

/-
  The command line program.

  Key definitions include:
    * `Disk.load`
    * `Disk.save`
    * `runOnDisk`
    * `main`

  What a command may look at is loaded from the disk, the
  command runs on the file tree that this gives, and what it
  has changed is saved.
-/

------------------------------------------------------------
-- Loading
------------------------------------------------------------

namespace GradleMigration

namespace Disk

/- Add what is at a path on the disk, if it can be read. -/
def load
    (path : Path)
    (tree : FileTree) : IO FileTree := do
  let here ← IO.currentDir
  let place := here / path.print
  try
    if ← place.isDir then
      return (tree.makeDirectory path).toOption.getD tree
    else if ← place.pathExists then
      let bytes ← IO.FS.readBinFile place
      return (tree.put path bytes.toList).toOption.getD tree
    else
      return tree
  catch _ => return tree

/- Add everything below a directory. -/
def loadBelow
    (path : Path)
    (tree : FileTree) : IO FileTree := do
  let here ← IO.currentDir
  let mut tree ← load path tree
  if ← (here / path.print).isDir then
    for entry in ← (here / path.print).walkDir do
      tree ← load (Path.parse entry.toString) tree
  return tree

/- Add a path, the directory it is in and what is in there. -/
def loadAround
    (path : Path)
    (tree : FileTree) : IO FileTree := do
  let here ← IO.currentDir
  let mut tree ← load path.parent tree
  if ← (here / path.parent.print).isDir then
    for entry in ← (here / path.parent.print).readDir do
      tree ← load (path.parent.child entry.fileName) tree
  load path tree

/- Add what some paths lead to. -/
def loadAll
    (paths : List Path)
    (tree : FileTree) : IO FileTree :=
  paths.foldlM (fun tree path => loadAround path tree) tree

/- Add the file with rules that a configuration names. -/
def loadRules
    (file : Option Path)
    (tree : FileTree) : IO FileTree := do
  let tree ← loadAll file.toList tree
  match tree.config file with
  | .error _ => return tree
  | .ok config => loadAll config.rulesFile.toList tree

/- Add the scripts that a saved report is about. -/
def loadScripts
    (file : Path)
    (tree : FileTree) : IO FileTree := do
  let tree ← loadAround file tree
  match tree.readText file with
  | .error _ => return tree
  | .ok text =>
      match Report.parse text with
      | .bad _ => return tree
      | .good report =>
          loadAll (report.findings.map (·.file)) tree

/- Add what a command may look at. -/
def loadFor
    (command : Command)
    (tree : FileTree) : IO FileTree := do
  match command with
  | .analyze options =>
      let file :=
        Config.fileFor options.config (some options.project)
      let tree ← loadRules file tree
      let tree ← loadAll options.output.toList tree
      loadBelow (tree.directory.resolve options.project) tree
  | .fix options =>
      let file := Config.fileFor options.config options.project
      let tree ← loadRules file tree
      match options.report, options.project with
      | some report, _ => loadScripts report tree
      | none, some project =>
          loadBelow (tree.directory.resolve project) tree
      | none, none => return tree
  | .restore path target =>
      loadAll (path :: target.toList) tree
  | .rules file => loadRules file tree

end Disk

end GradleMigration

------------------------------------------------------------
-- Saving
------------------------------------------------------------

namespace GradleMigration

namespace Disk

/- The path of a location. -/
def pathOf
    (location : Location) : Path :=
  ⟨.slash, location⟩

/- Bring the disk from one tree to another. -/
def save
    (before after : FileTree) : IO Unit := do
  for (location, entry) in after.entries do
    if before.get? location != some entry then
      if let .file bytes := entry then
        IO.FS.writeBinFile (pathOf location).print
          (ByteArray.mk bytes.toArray)
  for (location, entry) in before.entries do
    if entry.isFile && (after.get? location).isNone then
      IO.FS.removeFile (pathOf location).print

/- Ids that no other run gives out. -/
def freshIds : IO (Nat → String) := do
  let bytes ← IO.getRandomBytes 12
  let salt := String.join (bytes.toList.map Utf8.hexByte)
  return fun n => s!"{salt}-{n}"

end Disk

end GradleMigration

------------------------------------------------------------
-- The Program
------------------------------------------------------------

namespace GradleMigration

/- Run one command on the disk. -/
def runOnDisk
    (arguments : List String) : IO UInt32 := do
  let here ← IO.currentDir
  let start := FileTree.empty (Path.parse here.toString)
  let bare := (start.makeDirectory start.directory).toOption
  let tree ←
    match Command.parse arguments with
    | none => pure start
    | some command =>
        Disk.loadFor command (bare.getD start)
  let now ← Std.Time.Timestamp.now
  let workspace : Workspace :=
    { tree := tree
      time := now.toMillisecondsSinceUnixEpoch.toInt
      copyFault := none
      writeFault := none
      idName := ← Disk.freshIds
      nextId := 0 }
  let (after, result) := workspace.run arguments
  Disk.save tree after.tree
  for line in result.lines do
    IO.println line
  for line in result.complaints do
    IO.eprintln line
  if let some fault := result.passedOn then
    IO.eprintln fault.message
  return result.exit.toUInt32

end GradleMigration

/- The program. -/
def main
    (arguments : List String) : IO UInt32 :=
  GradleMigration.runOnDisk arguments
