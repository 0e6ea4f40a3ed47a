import GradleMigration.File.Tree

/-
  What the files of a Gradle project are called.

  Key definitions include:
    * `Project.buildFiles`
    * `Project.settingsFiles`
    * `Project.wrapperPath`
    * `Project.isScriptName`
    * `Project.isScannable`
    * `Project.moduleOf`
-/

------------------------------------------------------------
-- File Names
------------------------------------------------------------

namespace GradleMigration

namespace Project

/- The names of build scripts at the root of a project. -/
def buildFiles : List String :=
  ["build.gradle", "build.gradle.kts"]

/- The names of settings scripts at the root of a project. -/
def settingsFiles : List String :=
  ["settings.gradle", "settings.gradle.kts"]

/- The name of the file that chooses the Gradle release. -/
def wrapperName : String :=
  "gradle-wrapper.properties"

/- Where a project keeps that file. -/
def wrapperPath : String :=
  "gradle/wrapper/gradle-wrapper.properties"

/- How the names of scripts end. -/
def scriptSuffixes : List String :=
  [".gradle", ".gradle.kts"]

/- Directories that never hold sources of a build. -/
def defaultExcludes : List String :=
  ["build", ".gradle"]

/- Whether a file with this name is looked into. -/
def isScriptName
    (name : String) : Bool :=
  scriptSuffixes.any (fun suffix =>
    suffix.toList.isSuffixOf name.toList) ||
    name == wrapperName

end Project

end GradleMigration

------------------------------------------------------------
-- Scripts of a Project
------------------------------------------------------------

namespace GradleMigration

namespace Project

/-
  Whether a path below a root is a script: no directory on the
  way to it is excluded.
-/
def isScannable
    (path root : Path)
    (excludes : List String) : Bool :=
  isScriptName path.name &&
    match path.relativeTo root with
    | none => false
    | some parts =>
        !parts.dropLast.any fun part =>
          excludes.contains part.text

/- The module of files that lie in no directory. -/
def rootModule : String :=
  "root"

/-
  The module of a file: the first directory on the way to it
  from the root.
-/
def moduleOf
    (path root : Path) : String :=
  match path.relativeTo root with
  | some (first :: _ :: _) => first.text
  | _ => rootModule

end Project

end GradleMigration
