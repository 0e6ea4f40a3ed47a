import GradleMigration.File.Reading
import GradleMigration.Project.Layout
import GradleMigration.Script.Lexeme
import GradleMigration.Text.Blank
import GradleMigration.Text.Digit
import GradleMigration.Text.Word

/-
  The modules of a project and the release it is built with.

  Key definitions include:
    * `Project.includedNames`
    * `Project.modulesOf`
    * `Project.versionAt`
    * `Project.versionOf`
    * `FileTree.readFirst`
    * `FileTree.modules`
    * `FileTree.version`

  Both are read as far as the files tell them.
-/

------------------------------------------------------------
-- Modules
------------------------------------------------------------

namespace GradleMigration

namespace Project

/- The lines of a text, without their line feeds. -/
def linesOf : List Char → List (List Char)
| [] => [[]]
| '\n' :: rest => [] :: linesOf rest
| c :: rest =>
    match linesOf rest with
    | [] => [[c]]
    | line :: more => (c :: line) :: more

/- The word that opens an include statement. -/
def includeWord : List Char :=
  "include".toList

/- What follows the include word of a line that has one. -/
def includeTail
    (line : List Char) : Option (List Char) :=
  let text := Text.trimLeft line
  if includeWord.isPrefixOf text then
    let tail := text.drop includeWord.length
    match tail with
    | [] => some tail
    | c :: _ => if Text.isWord c then none else some tail
  else
    none

/-
  The texts between quotes.  A pair of quotes with nothing
  between them is passed over at its first quote.  The first
  `skip` characters belong to a text that has been taken.
-/
def quotedTexts :
    (skip : Nat) → List Char → List (List Char)
| _, [] => []
| skip + 1, _ :: rest => quotedTexts skip rest
| 0, c :: rest =>
    if Script.isQuote c then
      let body := rest.takeWhile (!Script.isQuote ·)
      if body.isEmpty || body.length = rest.length then
        quotedTexts 0 rest
      else
        body :: quotedTexts (body.length + 1) rest
    else
      quotedTexts 0 rest

/- A module name without the colons in front. -/
def moduleName
    (text : List Char) : String :=
  String.ofList (text.dropWhile (· == ':'))

/- The names that the include statements of a text give. -/
def includedNames
    (settings : List Char) : List String :=
  ((linesOf settings).filterMap includeTail).flatMap
    fun tail => (quotedTexts 0 tail).map moduleName

/- Add a name unless it is empty or known. -/
def addName
    (names : List String)
    (name : String) : List String :=
  if name = "" ∨ name ∈ names then names else names ++ [name]

/- The modules of a settings script, in order. -/
def modulesOf
    (settings : List Char) : List String :=
  (includedNames settings).foldl addName []

end Project

end GradleMigration

------------------------------------------------------------
-- Versions
------------------------------------------------------------

namespace GradleMigration

namespace Project

/- The text in front of a version. -/
def versionLead : List Char :=
  "gradle-".toList

/- The version of a project that names none. -/
def unknownVersion : String :=
  "unknown"

/- A mark and the digits behind it, where both are there. -/
def markedDigits
    (mark : Char) : List Char → List Char
| [] => []
| c :: rest =>
    let digits := rest.takeWhile Text.isDigit
    if c = mark && !digits.isEmpty then
      c :: digits
    else
      []

/- The kinds of distribution, which are not qualifiers. -/
def distributionKinds : List (List Char) :=
  ["bin".toList, "all".toList]

/- The qualifier of a release, such as a candidate number. -/
def qualifier : List Char → List Char
| '-' :: rest =>
    let word := rest.takeWhile Text.isWord
    if word.isEmpty || distributionKinds.contains word then
      []
    else
      '-' :: word ++
        markedDigits '-' (rest.drop word.length)
| _ => []

/- The version that a text starts with. -/
def versionAt
    (text : List Char) : Option (List Char) :=
  let major := text.takeWhile Text.isDigit
  let rest := text.drop major.length
  let minor := markedDigits '.' rest
  if major.isEmpty || minor.isEmpty then
    none
  else
    let rest := rest.drop minor.length
    let patch := markedDigits '.' rest
    let rest := rest.drop patch.length
    some (major ++ minor ++ patch ++ qualifier rest)

/- The first version in a text. -/
def findVersion : List Char → Option (List Char)
| [] => none
| c :: rest =>
    let here :=
      if versionLead.isPrefixOf (c :: rest) then
        versionAt ((c :: rest).drop versionLead.length)
      else
        none
    match here with
    | some version => some version
    | none => findVersion rest

/- The version that a wrapper file names. -/
def versionOf
    (wrapper : List Char) : String :=
  match findVersion wrapper with
  | some version => String.ofList version
  | none => unknownVersion

end Project

end GradleMigration

------------------------------------------------------------
-- Reading from the File Tree
------------------------------------------------------------

namespace GradleMigration

namespace FileTree

/-
  What the first of some files tells, and a default where none
  is there or the first one cannot be read.
-/
def readFirst
    {α : Type}
    (tree : FileTree)
    (default : α)
    (tell : List Char → α) :
    List Path → Except FileFault α
| [] => .ok default
| path :: rest =>
    match tree.isFile path with
    | .error fault => .error fault
    | .ok false => readFirst tree default tell rest
    | .ok true =>
        match tree.readText path with
        | .error _ => .ok default
        | .ok text => .ok (tell text)

/- The modules of the project at a root. -/
def modules
    (tree : FileTree)
    (root : Path) : Except FileFault (List String) :=
  tree.readFirst [] Project.modulesOf
    (Project.settingsFiles.map root.child)

/- The release that the project at a root is built with. -/
def version
    (tree : FileTree)
    (root : Path) : Except FileFault String :=
  tree.readFirst Project.unknownVersion Project.versionOf
    [root.child Project.wrapperPath]

end FileTree

end GradleMigration
