import GradleMigration.Text.Utf8

/-
  Paths of files and directories.

  Key definitions include:
    * `IsName`
    * `Name`
    * `Anchoring`
    * `Path`
    * `Path.parse`
    * `Path.print`
    * `Path.hasNull`
    * `Path.name`
    * `Path.parent`
    * `Path.join`
    * `NameFault`
    * `Path.withName`
    * `Path.relativeTo`
    * `Path.resolve`
    * `Path.le`

  A path is a list of names, anchored at the root of the file
  tree or relative.  Repeated slashes and single dots vanish
  when a path is read; a double dot is a name like others
  until the path is resolved.  A null character may be written
  in a path as well, but such a path leads nowhere.
-/

------------------------------------------------------------
-- Names
------------------------------------------------------------

namespace GradleMigration

/-
  A text that a path can have between its slashes: not empty,
  not a single dot, and without a slash.
-/
def IsName
    (text : String) : Prop :=
  text ≠ "" ∧ text ≠ "." ∧ '/' ∉ text.toList

instance
    (text : String) :
    Decidable (IsName text) := by
  unfold IsName
  infer_instance

/- The name of an entry of a directory, as paths write it. -/
structure Name where
  text : String
  valid : IsName text
deriving DecidableEq

namespace Name

instance : Repr Name where
  reprPrec name _ := repr name.text

/- The name that a text is. -/
def ofText?
    (text : String) : Option Name :=
  if h : IsName text then some ⟨text, h⟩ else none

/- Whether a name leads to the directory above. -/
def isUp
    (name : Name) : Bool :=
  name.text == ".."

/-
  Whether a name holds a null character.  No entry of a
  directory has such a name.
-/
def hasNull
    (name : Name) : Bool :=
  name.text.toList.contains '\x00'

end Name

end GradleMigration

------------------------------------------------------------
-- Paths
------------------------------------------------------------

namespace GradleMigration

/-
  Where a path starts.  Exactly two leading slashes are kept
  apart from one.
-/
inductive Anchoring where
| relative
| slash
| doubleSlash
deriving DecidableEq, Repr

namespace Anchoring

/- The slashes in front of a path. -/
def text : Anchoring → String
| .relative => ""
| .slash => "/"
| .doubleSlash => "//"

/- The anchoring that a text begins with. -/
def ofText : List Char → Anchoring
| '/' :: '/' :: '/' :: _ => .slash
| '/' :: '/' :: _ => .doubleSlash
| '/' :: _ => .slash
| _ => .relative

end Anchoring

/- A path of names. -/
structure Path where
  anchoring : Anchoring
  parts : List Name
deriving DecidableEq

namespace Path

/- The pieces of a text between slashes. -/
def pieces : List Char → List (List Char)
| [] => [[]]
| '/' :: rest => [] :: pieces rest
| c :: rest =>
    match pieces rest with
    | [] => [[c]]
    | piece :: more => (c :: piece) :: more

/- The path that a text writes. -/
def parse
    (text : String) : Path where
  anchoring := .ofText text.toList
  parts := (pieces text.toList).filterMap fun piece =>
    Name.ofText? (String.ofList piece)

/- The texts of the names. -/
def texts
    (path : Path) : List String :=
  path.parts.map Name.text

/- The text of a path; the empty path is a single dot. -/
def print
    (path : Path) : String :=
  if path.anchoring = .relative ∧ path.parts = [] then
    "."
  else
    path.anchoring.text ++ "/".intercalate path.texts

instance : Repr Path where
  reprPrec path _ := repr path.print

/- Whether a path starts at the root of the file tree. -/
def isAbsolute
    (path : Path) : Bool :=
  path.anchoring != .relative

/- Whether a path is written with a null character. -/
def hasNull
    (path : Path) : Bool :=
  path.parts.any Name.hasNull

end Path

end GradleMigration

------------------------------------------------------------
-- Parts of a Path
------------------------------------------------------------

namespace GradleMigration

/- Why the last name of a path cannot be replaced. -/
inductive NameFault where
| noName (path : Path)
| notName (text : String)
deriving DecidableEq, Repr

namespace Path

/- The last name, empty where there is none. -/
def name
    (path : Path) : String :=
  match path.parts.getLast? with
  | none => ""
  | some last => last.text

/- The path without its last name. -/
def parent
    (path : Path) : Path :=
  { path with parts := path.parts.dropLast }

/- Names below a path. -/
def below
    (base : Path)
    (names : List Name) : Path :=
  { base with parts := base.parts ++ names }

/- Null characters below a path are its own or those added. -/
theorem hasNull_below
    (base : Path)
    (names : List Name) :
    (base.below names).hasNull =
      (base.hasNull || names.any Name.hasNull) := by
  simp [hasNull, below]

/- A path seen from another; an anchored one stays as it is. -/
def join
    (base path : Path) : Path :=
  if path.isAbsolute then path else base.below path.parts

/- The path of an entry below a directory. -/
def child
    (base : Path)
    (text : String) : Path :=
  base.join (parse text)

/- The path with another last name. -/
def withName
    (path : Path)
    (text : String) : Except NameFault Path :=
  if path.parts = [] then
    .error (.noName path)
  else
    match Name.ofText? text with
    | none => .error (.notName text)
    | some name => .ok (path.parent.below [name])

/- The names that lead from one path to another below it. -/
def relativeTo
    (path base : Path) : Option (List Name) :=
  if path.anchoring = base.anchoring &&
      base.parts.isPrefixOf path.parts then
    some (path.parts.drop base.parts.length)
  else
    none

end Path

end GradleMigration

------------------------------------------------------------
-- Order and Resolution
------------------------------------------------------------

namespace GradleMigration

namespace Path

/- Lists of texts in the order of a dictionary. -/
def textsLe : List String → List String → Bool
| [], _ => true
| _ :: _, [] => false
| a :: as, b :: bs =>
    if a = b then textsLe as bs else decide (a < b)

/- Paths are ordered name by name. -/
def le
    (a b : Path) : Bool :=
  textsLe (a.anchoring.text :: a.texts)
    (b.anchoring.text :: b.texts)

/- Go up at every double dot; the root has no parent. -/
def collapse
    (above : List Name) : List Name → List Name
| [] => above
| part :: rest =>
    if part.isUp then
      collapse above.dropLast rest
    else
      collapse (above ++ [part]) rest

/-
  The path from the root that a path means in a working
  directory, without double dots.
-/
def resolve
    (directory path : Path) : Path where
  anchoring := .slash
  parts := collapse [] (directory.join path).parts

/- The number of bytes that the text of a path takes. -/
def byteSize
    (path : Path) : Nat :=
  (Utf8.encode path.print.toList).length

end Path

end GradleMigration
