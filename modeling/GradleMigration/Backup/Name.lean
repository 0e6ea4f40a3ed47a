import GradleMigration.File.Fault
import GradleMigration.Text.Digit

/-
  The names of backups.

  Key definitions include:
    * `Backup.mark`
    * `Backup.nameFor`
    * `Backup.decode`
    * `Backup.owner`

  The backup of a file is its sibling; its name is that of the
  file, a mark, and a stamp of decimal digits.
-/

------------------------------------------------------------
-- Names
------------------------------------------------------------

namespace GradleMigration

namespace Backup

/- What stands between the name of a file and a stamp. -/
def mark : List Char :=
  ".backup.".toList

/- The name of the backup of a file with a stamp. -/
def nameFor
    (name : String)
    (stamp : Int) : String :=
  name ++ String.ofList mark ++ toString stamp

/- A text without one line feed at its end. -/
def dropFinalNewline
    (text : List Char) : List Char :=
  if text.getLast? = some '\n' then text.dropLast else text

/- The digits at the end of a text. -/
def stampDigits
    (text : List Char) : List Char :=
  (text.reverse.takeWhile Text.isDigit).reverse

/-
  The name of the file and the digits of the stamp, for the
  name of a backup.  The name of the file is on one line; one
  line feed behind the digits is passed over.
-/
def decode
    (name : List Char) : Option (List Char × List Char) :=
  let text := dropFinalNewline name
  let digits := stampDigits text
  let front := text.take (text.length - digits.length)
  let file := front.take (front.length - mark.length)
  if digits.isEmpty || !mark.isSuffixOf front ||
      file.isEmpty || file.contains '\n' then
    none
  else
    some (file, digits)

/- The file that a backup belongs to. -/
def owner
    (path : Path) : Except NameFault (Option Path) :=
  match decode path.name.toList with
  | none => .ok none
  | some (file, _) =>
      (path.withName (String.ofList file)).map some

end Backup

end GradleMigration
