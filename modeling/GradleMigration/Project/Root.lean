import GradleMigration.Project.Metadata

/-
  Recognising the root of a Gradle project.

  Key definitions include:
    * `FileTree.isProject`
    * `ProjectFault`
    * `ProjectFault.message`
    * `FileTree.projectRoot`
-/

------------------------------------------------------------
-- Roots
------------------------------------------------------------

namespace GradleMigration

namespace FileTree

/- Whether one of some paths leads to a file. -/
def anyFile
    (tree : FileTree) : List Path → Except FileFault Bool
| [] => .ok false
| path :: rest =>
    match tree.isFile path with
    | .error fault => .error fault
    | .ok true => .ok true
    | .ok false => anyFile tree rest

/- Whether a directory holds a build or settings script. -/
def isProject
    (tree : FileTree)
    (root : Path) : Except FileFault Bool :=
  tree.anyFile
    ((Project.buildFiles ++ Project.settingsFiles).map
      root.child)

end FileTree

end GradleMigration

------------------------------------------------------------
-- Validation
------------------------------------------------------------

namespace GradleMigration

/- Why a path is not taken for the root of a project. -/
inductive ProjectFault where
| required
| notAbsolute
| notFound
| notProject
| notProjectAt (root : Path)
| file (fault : FileFault)
deriving DecidableEq, Repr

namespace ProjectFault

/- What is said about a directory without scripts. -/
def notProjectText : String :=
  "Not a valid Gradle project " ++
    "(missing build.gradle or settings.gradle)"

/- The wording of a fault. -/
def message : ProjectFault → String
| .required => "Project path is required"
| .notAbsolute => "Project path must be absolute"
| .notFound => "Project directory not found"
| .notProject => notProjectText
| .notProjectAt root => s!"{notProjectText}: {root.print}"
| .file fault => fault.message

end ProjectFault

namespace FileTree

/-
  The root that a given text means.  Blanks around it do not
  count.
-/
def projectRoot
    (tree : FileTree)
    (given : Option String) : Except ProjectFault Path :=
  let text := Text.trim (given.getD "").toList
  let path := Path.parse (String.ofList text)
  if text.isEmpty then
    .error .required
  else if !path.isAbsolute then
    .error .notAbsolute
  else
    match tree.isDirectory path with
    | .error fault => .error (.file fault)
    | .ok false => .error .notFound
    | .ok true =>
        match tree.isProject path with
        | .error fault => .error (.file fault)
        | .ok false => .error .notProject
        | .ok true => .ok path

end FileTree

end GradleMigration
