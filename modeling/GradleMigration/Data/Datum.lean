/-
  Data as configuration files and saved reports hold them.

  Key definitions include:
    * `RealValue`
    * `Datum`
    * `Table`
    * `Table.get?`
    * `Table.set`
-/

------------------------------------------------------------
-- Real Numbers
------------------------------------------------------------

namespace GradleMigration

/-
  What matters of a number written with a point or an
  exponent: its value when it is whole.
-/
inductive RealValue where
| whole (value : Int)
| fraction
| infinite
| undefined
deriving DecidableEq, Repr

end GradleMigration

------------------------------------------------------------
-- Data
------------------------------------------------------------

namespace GradleMigration

/-
  A piece of data.  A table lists its entries in the order in
  which their names first appear.
-/
inductive Datum where
| null
| bool (value : Bool)
| int (value : Int)
| real (value : RealValue)
| text (value : String)
| moment
| list (items : List Datum)
| table (entries : List (String × Datum))
deriving Repr

/- The entries of a table. -/
abbrev Table :=
  List (String × Datum)

namespace Table

/- The entry with a name. -/
def get?
    (table : Table)
    (name : String) : Option Datum :=
  table.lookup name

/- Replace the entry with a name, or add it at the end. -/
def set
    (name : String)
    (value : Datum) : Table → Table
| [] => [(name, value)]
| (other, old) :: rest =>
    if other = name then
      (other, value) :: rest
    else
      (other, old) :: set name value rest

end Table

end GradleMigration
