import GradleMigration.File.Path
import GradleMigration.Text.Quoted

/-
  Why an operation on a file fails.

  Key definitions include:
    * `FileCause`
    * `FileFault`
    * `FileFault.message`
    * `WriteFault`
    * `NameFault.message`
-/

------------------------------------------------------------
-- Faults
------------------------------------------------------------

namespace GradleMigration

/-
  What the file system objects to.  A path with a null
  character does not even come to it.
-/
inductive FileCause where
| missing
| taken
| notDirectory
| isDirectory
| nameTooLong
| nullInPath
deriving DecidableEq, Repr

namespace FileCause

/- The number of a cause, if it comes from the file system. -/
def number? : FileCause → Option Nat
| .missing => some 2
| .taken => some 17
| .notDirectory => some 20
| .isDirectory => some 21
| .nameTooLong => some 36
| .nullInPath => none

/- The wording of a cause. -/
def words : FileCause → String
| .missing => "No such file or directory"
| .taken => "File exists"
| .notDirectory => "Not a directory"
| .isDirectory => "Is a directory"
| .nameTooLong => "File name too long"
| .nullInPath => "embedded null byte"

/- Whether a cause only says that there is no such file. -/
def isAbsence : FileCause → Bool
| .missing => true
| .notDirectory => true
| .nullInPath => true
| _ => false

end FileCause

/-
  A failed operation: the file system refuses a path, or the
  writing of a file is denied with a message.
-/
inductive FileFault where
| system (cause : FileCause) (path : Path)
| denied (message : String)
deriving DecidableEq, Repr

/- The wording of a fault. -/
def FileFault.message : FileFault → String
| .system cause path =>
    match cause.number? with
    | none => cause.words
    | some number =>
        let shown := Text.quoted path.print
        s!"[Errno {number}] {cause.words}: {shown}"
| .denied message => message

/-
  Why a file that could be written is not.  Either it cannot
  be opened for writing, or it has been opened, and emptied,
  and no more than some bytes have come to it, for example on
  a full disk.
-/
inductive WriteFault where
| closed (message : String)
| cut (message : String) (count : Nat)
deriving DecidableEq, Repr

/- The wording of a fault. -/
def WriteFault.message : WriteFault → String
| .closed message => message
| .cut message _ => message

/- The wording of a fault of a name. -/
def NameFault.message : NameFault → String
| .noName path =>
    let shown := Text.quoted path.print
    s!"PosixPath({shown}) has an empty name"
| .notName text => s!"Invalid name {Text.quoted text}"

end GradleMigration
