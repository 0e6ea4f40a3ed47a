import GradleMigration.File.Tree

/-
  The surroundings that commands work in.

  Key definitions include:
    * `Workspace`
    * `Workspace.writeScript`
-/

------------------------------------------------------------
-- Workspaces
------------------------------------------------------------

namespace GradleMigration

/-
  The file tree, the time in milliseconds, the faults that the
  copying of files, from or to backups, and the writing of
  scripts end with, if any, and the supply of ids for findings.
-/
structure Workspace where
  tree : FileTree
  time : Int
  copyFault : Option WriteFault
  writeFault : Option WriteFault
  idName : Nat → String
  nextId : Nat

namespace Workspace

/- The same workspace with another tree. -/
def withTree
    (workspace : Workspace)
    (tree : FileTree) : Workspace :=
  { workspace with tree := tree }

@[simp]
theorem tree_withTree
    (workspace : Workspace)
    (tree : FileTree) :
    (workspace.withTree tree).tree = tree :=
  rfl

@[simp]
theorem writeFault_withTree
    (workspace : Workspace)
    (tree : FileTree) :
    (workspace.withTree tree).writeFault =
      workspace.writeFault :=
  rfl

@[simp]
theorem withTree_withTree
    (workspace : Workspace)
    (tree other : FileTree) :
    (workspace.withTree tree).withTree other =
      workspace.withTree other :=
  rfl

/-
  Write a fixed script; what is left when that fails depends
  on the fault.
-/
def writeScript
    (workspace : Workspace)
    (path : Path)
    (text : List Char) : Workspace × Option FileFault :=
  match workspace.tree.write path (Utf8.encode text) with
  | .error fault => (workspace, some fault)
  | .ok tree =>
      match workspace.writeFault with
      | none => (workspace.withTree tree, none)
      | some fault =>
          (workspace.withTree
              (workspace.tree.leftBy tree path fault),
            some (.denied fault.message))

end Workspace

end GradleMigration
