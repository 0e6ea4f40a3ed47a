import GradleMigration.File.Tree
import GradleMigration.Text.Lines

/-
  Files as texts.

  Key definitions include:
    * `ReadFault`
    * `FileTree.readExact`
    * `FileTree.readText`
-/

------------------------------------------------------------
-- Reading Texts
------------------------------------------------------------

namespace GradleMigration

/- Why the text of a file cannot be read. -/
inductive ReadFault where
| file (fault : FileFault)
| notText (fault : Utf8.Fault)
deriving DecidableEq, Repr

/- The wording of a fault. -/
def ReadFault.message : ReadFault → String
| .file fault => fault.message
| .notText fault => fault.message

namespace FileTree

/- The text of a file, exactly as it stands there. -/
def readExact
    (tree : FileTree)
    (path : Path) : Except ReadFault (List Char) :=
  match tree.read path with
  | .error fault => .error (.file fault)
  | .ok bytes => (Utf8.decode bytes).mapError .notText

/- The text of a file with every line end a line feed. -/
def readText
    (tree : FileTree)
    (path : Path) : Except ReadFault (List Char) :=
  (tree.readExact path).map Text.unifyNewlines

end FileTree

end GradleMigration
