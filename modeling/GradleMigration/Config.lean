import GradleMigration.Data.Schema
import GradleMigration.File.Reading
import GradleMigration.Project.Layout
import GradleMigration.Rule.Registry

/-
  The configuration of a project.

  Key definitions include:
    * `Config`
    * `ConfigFault`
    * `Config.standard`
    * `Config.rulesFileOf`
    * `Config.ofTable`
    * `Config.ofText`
    * `Config.ofBytes`
    * `FileTree.config`

  A configuration is taken whole or not at all: a file that is
  not TOML, or whose table breaks the schema, counts as absent.
-/

------------------------------------------------------------
-- Settings
------------------------------------------------------------

namespace GradleMigration

/- Which rules to use on which files. -/
structure Config where
  select : List String
  ignore : List String
  excludes : List String
  rulesFile : Option Path
  workers : Int
deriving DecidableEq, Repr

/- The table of a configuration file. -/
structure ConfigTable where
  select : List String
  ignore : List String
  excludeDirs : List String
  rulesFile : Option String
  workers : Int
deriving DecidableEq, Repr

/-
  Why the settings cannot be told: the file cannot be read, a
  number in it has too many digits, or the path of the file
  with rules holds a null character.
-/
inductive ConfigFault where
| read (fault : ReadFault)
| tooManyDigits (count : Nat)
| nullInPath
deriving DecidableEq, Repr

/- The wording of a fault. -/
def ConfigFault.message : ConfigFault → String
| .read fault => fault.message
| .tooManyDigits count =>
    (Toml.Fault.tooManyDigits count).message
| .nullInPath => "embedded null byte"

namespace ConfigTable

/- The schema of the table. -/
def check
    (table : Table) : Checked ConfigTable :=
  ConfigTable.mk
    <$> Schema.optional table "select" [allKey]
      (Schema.listOf Schema.text)
    <*> Schema.optional table "ignore" []
      (Schema.listOf Schema.text)
    <*> Schema.optional table "exclude_dirs" []
      (Schema.listOf Schema.text)
    <*> Schema.optional table "rules_file" none
      Schema.textOrNull
    <*> Schema.optional table "workers" 1
      (Schema.intAtLeast 1)

end ConfigTable

namespace Config

/- The name of a project's configuration file. -/
def fileName : String :=
  ".gradle-migrate.toml"

/- The settings without a configuration file. -/
def standard : Config where
  select := [allKey]
  ignore := []
  excludes := Project.defaultExcludes
  rulesFile := none
  workers := 1

/- The part of a document that is meant for this program. -/
def section?
    (document : Table) : Datum :=
  match document.get? "tool" with
  | some (.table tool) =>
      (Table.get? tool "gradle-migrate").getD (.table [])
  | _ => .table []

/-
  The file with rules that a table names.  It is looked for
  from the directory of the configuration file.
-/
def rulesFileOf
    (base file : Path) :
    Option String → Except ConfigFault (Option Path)
| none => .ok none
| some text =>
    if text = "" then
      .ok none
    else if text.toList.contains '\x00' then
      .error .nullInPath
    else
      .ok (some (base.resolve (file.parent.child text)))

/-
  The settings of a table.  Listed directories are left out
  besides the usual ones.
-/
def ofTable
    (base file : Path)
    (table : ConfigTable) : Except ConfigFault Config :=
  (rulesFileOf base file table.rulesFile).map fun rulesFile =>
    { select := table.select
      ignore := table.ignore
      excludes := Project.defaultExcludes ++ table.excludeDirs
      rulesFile := rulesFile
      workers := table.workers }

/- The settings of the text of a configuration file. -/
def ofText
    (base file : Path)
    (text : List Char) : Except ConfigFault Config :=
  match Toml.read text with
  | .error .notToml => .ok standard
  | .error (.tooManyDigits count) =>
      .error (.tooManyDigits count)
  | .ok document =>
      match Schema.model ConfigTable.check
          (section? document) with
      | .bad _ => .ok standard
      | .good table => ofTable base file table

/- The settings of the bytes of a configuration file. -/
def ofBytes
    (base file : Path)
    (bytes : List UInt8) : Except ConfigFault Config :=
  match Utf8.decode bytes with
  | .error fault => .error (.read (.notText fault))
  | .ok text => ofText base file text

end Config

end GradleMigration

------------------------------------------------------------
-- Reading from the File Tree
------------------------------------------------------------

namespace GradleMigration

namespace FileTree

/-
  The settings of a configuration file.  One that is not there
  or cannot be opened counts as absent.
-/
def config
    (tree : FileTree)
    (file : Option Path) : Except ConfigFault Config :=
  match file with
  | none => .ok .standard
  | some file =>
      match tree.has file with
      | .error fault => .error (.read (.file fault))
      | .ok false => .ok .standard
      | .ok true =>
          match tree.read file with
          | .error _ => .ok .standard
          | .ok bytes =>
              Config.ofBytes tree.directory file bytes

end FileTree

/- The rules of a registry that a configuration enables. -/
def Config.rules
    (config : Config)
    (registry : Registry) : List Rule :=
  registry.enabled config.select config.ignore

end GradleMigration
