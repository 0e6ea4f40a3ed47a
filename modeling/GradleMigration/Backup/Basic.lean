import GradleMigration.Backup.Name
import GradleMigration.File.Glob

/-
  Making, finding and restoring backups.

  Key definitions include:
    * `BackupFault`
    * `FileTree.snapshot`
    * `FileTree.backups`
    * `FileTree.restore`

  A backup never replaces an entry: when a name is taken, the
  next stamp is tried.
-/

------------------------------------------------------------
-- Faults
------------------------------------------------------------

namespace GradleMigration

/- Why an operation on backups fails. -/
inductive BackupFault where
| name (fault : NameFault)
| file (fault : FileFault)
| doubleStar
deriving DecidableEq, Repr

/- The wording of a fault. -/
def BackupFault.message : BackupFault → String
| .name fault => fault.message
| .file fault => fault.message
| .doubleStar => GlobFault.doubleStar.message

end GradleMigration

------------------------------------------------------------
-- Making Backups
------------------------------------------------------------

namespace GradleMigration

namespace FileTree

/-
  Copy a file to its backup with the first free stamp among
  `fuel` stamps from a given one.
-/
def snapshotFrom
    (tree : FileTree)
    (path : Path)
    (stamp : Int) :
    (fuel : Nat) → Except BackupFault (FileTree × Path)
| 0 => .error (.file (.system .taken path))
| fuel + 1 =>
    match path.withName (Backup.nameFor path.name stamp) with
    | .error fault => .error (.name fault)
    | .ok backup =>
        match tree.read path with
        | .error fault => .error (.file fault)
        | .ok bytes =>
            match tree.create backup bytes with
            | .ok tree => .ok (tree, backup)
            | .error (.system .taken _) =>
                snapshotFrom tree path (stamp + 1) fuel
            | .error fault => .error (.file fault)

/-
  Copy a file to a backup and give its path.  The stamp is the
  time unless that name is taken; as many stamps are tried as
  there are entries, and one more.
-/
def snapshot
    (tree : FileTree)
    (path : Path)
    (time : Int) : Except BackupFault (FileTree × Path) :=
  tree.snapshotFrom path time (tree.entries.length + 1)

end FileTree

end GradleMigration

------------------------------------------------------------
-- Finding Backups
------------------------------------------------------------

namespace GradleMigration

namespace Backup

/- A backup in a directory: its stamp and its name. -/
structure Found where
  stamp : Nat
  name : Name
deriving DecidableEq, Repr

/- The backup that a name is, when it is one of a file. -/
def found?
    (file : String)
    (name : Name) : Option Found :=
  match decode name.text.toList with
  | none => none
  | some (owner, digits) =>
      if String.ofList owner = file then
        some ⟨Text.digitsValue digits, name⟩
      else
        none

/- Newer backups come first. -/
def Found.before
    (a b : Found) : Bool :=
  decide (b.stamp < a.stamp) ||
    (a.stamp == b.stamp &&
      decide (b.name.text ≤ a.name.text))

end Backup

namespace FileTree

/-
  The backups of a file, the newest first.  The name of the
  file is taken as a pattern when its siblings are searched.
-/
def backups
    (tree : FileTree)
    (path : Path) : Except BackupFault (List Path) :=
  let pattern := path.name.toList ++ Backup.mark ++ ['*']
  match tree.glob path.parent pattern with
  | .error .doubleStar => .error .doubleStar
  | .error (.file fault) => .error (.file fault)
  | .ok names =>
      let found := names.filterMap (Backup.found? path.name)
      let sorted := found.mergeSort Backup.Found.before
      .ok (sorted.map fun backup =>
        path.parent.below [backup.name])

end FileTree

end GradleMigration

------------------------------------------------------------
-- Restoring
------------------------------------------------------------

namespace GradleMigration

namespace FileTree

/- Where a copy to a path ends up: inside a directory. -/
def copyTarget
    (tree : FileTree)
    (source target : Path) : Path :=
  match tree.find target with
  | .ok .directory => target.child source.name
  | _ => target

/- Whether two paths lead to the same entry. -/
def isSame
    (tree : FileTree)
    (a b : Path) : Bool :=
  match tree.locate a, tree.locate b with
  | .ok here, .ok there =>
      here = there && (tree.get? here).isSome
  | _, _ => false

/-
  Copy a file over another one, but not onto itself, and tell
  whether it was done.
-/
def copyOver
    (tree : FileTree)
    (fault : Option WriteFault)
    (source target : Path) : FileTree × Bool :=
  let target := tree.copyTarget source target
  if tree.isSame source target then
    (tree, false)
  else
    match tree.read source with
    | .error _ => (tree, false)
    | .ok bytes =>
        match tree.write target bytes, fault with
        | .error _, _ => (tree, false)
        | .ok copied, none => (copied, true)
        | .ok copied, some fault =>
            (tree.leftBy copied target fault, false)

/-
  Move a file over another one and tell whether it was done:
  the file is copied, and then it is taken away.  Where only
  the second step fails, the copy stays.
-/
def moveOver
    (tree : FileTree)
    (fault : Option WriteFault)
    (source target : Path) : FileTree × Bool :=
  match tree.copyOver fault source target with
  | (left, false) => (left, false)
  | (copied, true) =>
      match copied.unlink source with
      | .error _ => (copied, false)
      | .ok rest => (rest, true)

/-
  Put a backup back over its file and take the backup away.
  Without a given file it is the one that the backup's name
  tells.  The answer says whether it was done; copying ends
  with a fault if there is one.
-/
def restore
    (tree : FileTree)
    (backup : Path)
    (given : Option Path)
    (fault : Option WriteFault) :
    Except BackupFault (FileTree × Bool) :=
  let target : Except NameFault (Option Path) :=
    match given with
    | some path => .ok (some path)
    | none => Backup.owner backup
  match target with
  | .error fault => .error (.name fault)
  | .ok none => .ok (tree, false)
  | .ok (some path) =>
      match tree.isFile backup with
      | .error fault => .error (.file fault)
      | .ok false => .ok (tree, false)
      | .ok true =>
          if path.hasNull then
            .error (.file (.system .nullInPath path))
          else
            .ok (tree.moveOver fault backup path)

end FileTree

end GradleMigration
