import GradleMigration.Text.Lines
import GradleMigration.Toml.Scalar

/-
  Reading TOML documents.

  Key definitions include:
    * `Toml.readKey`
    * `Toml.readValue`
    * `Toml.Document`
    * `Toml.read`
    * `Toml.parse`

  A document is read statement by statement, up to the first
  fault.  A table may be declared once, a value may be given
  once, and arrays and tables written as values can no longer
  be extended.
-/

------------------------------------------------------------
-- Keys
------------------------------------------------------------

namespace GradleMigration

namespace Toml

/- A dotted key. -/
abbrev Key :=
  List String

/- The characters of a key without quotes. -/
def isBareKeyChar
    (c : Char) : Bool :=
  c.isAlphanum || c = '-' || c = '_'

/- One part of a key. -/
def readKeyPart
    (ahead : List Char) : Read String :=
  match ahead with
  | [] => none
  | c :: rest =>
      if isBareKeyChar c then
        some
          (String.ofList (ahead.takeWhile isBareKeyChar),
            ahead.dropWhile isBareKeyChar)
      else if c = Text.apostrophe then
        (readLiteral rest).map
          fun (text, rest) => (String.ofList text, rest)
      else if c = Text.doubleQuote then
        (readBasic rest).map
          fun (text, rest) => (String.ofList text, rest)
      else
        none

/- The parts of a key; each unit of fuel pays for one. -/
def readKeyFrom :
    (fuel : Nat) → List Char → Read Key
| 0, _ => none
| fuel + 1, ahead =>
    match readKeyPart ahead with
    | none => none
    | some (part, rest) =>
        match rest.dropWhile isSpace with
        | '.' :: rest =>
            (readKeyFrom fuel (rest.dropWhile isSpace)).map
              fun (parts, rest) => (part :: parts, rest)
        | rest => some ([part], rest)

/- A key, and what follows it and the blanks behind it. -/
def readKey
    (ahead : List Char) : Option (Key × List Char) :=
  readKeyFrom (ahead.length + 1) ahead

end Toml

end GradleMigration

------------------------------------------------------------
-- Nested Tables
------------------------------------------------------------

namespace GradleMigration

namespace Toml

/-
  Change the table behind a key, creating the tables on the
  way.  With `throughLists` an array of tables stands for its
  last element.
-/
def changeNest
    (throughLists : Bool)
    (change : Table → Option Table) :
    Key → Table → Option Table
| [], table => change table
| part :: key, table =>
    match table.get? part with
    | none =>
        (changeNest throughLists change key []).map
          fun nest => table.set part (.table nest)
    | some (.table nest) =>
        (changeNest throughLists change key nest).map
          fun nest => table.set part (.table nest)
    | some (.list items) =>
        match throughLists, items.getLast? with
        | true, some (.table nest) =>
            (changeNest throughLists change key nest).map
              fun nest => table.set part
                (.list (items.dropLast ++ [.table nest]))
        | _, _ => none
    | some _ => none

/- Give a name a value, unless it has one. -/
def addEntry
    (name : String)
    (value : Datum)
    (table : Table) : Option Table :=
  if (table.get? name).isSome then
    none
  else
    some (table.set name value)

/- Add an empty table to the array behind a name. -/
def addElement
    (name : String)
    (table : Table) : Option Table :=
  match table.get? name with
  | none => some (table.set name (.list [.table []]))
  | some (.list items) =>
      some (table.set name (.list (items ++ [.table []])))
  | some _ => none

/- Whether a value can no longer be extended. -/
def isContainer : Datum → Bool
| .list _ => true
| .table _ => true
| _ => false

/- Whether a key lies in one of the closed containers. -/
def isFrozen
    (frozen : List Key)
    (key : Key) : Bool :=
  frozen.any (·.isPrefixOf key)

end Toml

end GradleMigration

------------------------------------------------------------
-- Values
------------------------------------------------------------

namespace GradleMigration

namespace Toml

/- Step over a comment, if one starts here. -/
def skipComment
    (ahead : List Char) : Option (List Char) :=
  match ahead with
  | '#' :: rest =>
      let comment := rest.takeWhile (· != '\n')
      if comment.any isIllegal then
        none
      else
        some (rest.drop comment.length)
  | _ => some ahead

/-
  Step over blanks, line feeds and comments inside an array;
  each unit of fuel pays for one comment.
-/
def skipInArray :
    (fuel : Nat) → List Char → Option (List Char)
| 0, ahead => some ahead
| fuel + 1, ahead =>
    match ahead.dropWhile isSpaceOrNewline with
    | '#' :: rest =>
        (skipComment ('#' :: rest)).bind (skipInArray fuel)
    | rest => some rest

/- Step over blanks and comments inside an array. -/
def skipArraySpace
    (ahead : List Char) : Option (List Char) :=
  skipInArray (ahead.length + 1) ahead

/- A value that holds no other value. -/
def readScalar
    (ahead : List Char) : ReadValue :=
  match skipText "true" ahead, skipText "false" ahead with
  | some rest, _ => .ok (.bool true, rest)
  | none, some rest => .ok (.bool false, rest)
  | none, none =>
      match readMoment ahead with
      | some (true, rest) => .ok (.moment, rest)
      | some (false, _) => .error .notToml
      | none =>
          orElse (readNumber ahead) (expect (readSpecial ahead))

mutual

/- A value; each unit of fuel pays for one level or step. -/
def readValueFrom :
    (fuel : Nat) → List Char → ReadValue
| 0, _ => .error .notToml
| _, [] => .error .notToml
| fuel + 1, c :: rest =>
    if c = Text.doubleQuote || c = Text.apostrophe then
      (expect (readString c rest)).map
        fun (text, rest) => (.text (String.ofList text), rest)
    else if c = '[' then
      match skipArraySpace rest with
      | none => .error .notToml
      | some (']' :: rest) => .ok (.list [], rest)
      | some rest => readElements fuel [] rest
    else if c = '\x7b' then
      match rest.dropWhile isSpace with
      | '\x7d' :: rest => .ok (.table [], rest)
      | rest => readEntries fuel [] [] rest
    else
      readScalar (c :: rest)

/- The elements of an array, those read so far reversed. -/
def readElements :
    (fuel : Nat) →
    (done : List Datum) →
    List Char → ReadValue
| 0, _, _ => .error .notToml
| fuel + 1, done, ahead =>
    match readValueFrom fuel ahead with
    | .error fault => .error fault
    | .ok (value, rest) =>
        let done := value :: done
        match skipArraySpace rest with
        | some (']' :: rest) => .ok (.list done.reverse, rest)
        | some (',' :: rest) =>
            match skipArraySpace rest with
            | none => .error .notToml
            | some (']' :: rest) =>
                .ok (.list done.reverse, rest)
            | some rest => readElements fuel done rest
        | _ => .error .notToml

/-
  The entries of a table written as a value, with the keys in
  it that can no longer be extended.
-/
def readEntries :
    (fuel : Nat) →
    (frozen : List Key) →
    (done : Table) →
    List Char → ReadValue
| 0, _, _, _ => .error .notToml
| fuel + 1, frozen, done, ahead =>
    match readKey ahead with
    | some (key, '=' :: rest) =>
        match readValueFrom fuel (rest.dropWhile isSpace) with
        | .error fault => .error fault
        | .ok (value, rest) =>
            let added :=
              if isFrozen frozen key then
                none
              else
                changeNest false
                  (addEntry (key.getLastD "") value)
                  key.dropLast done
            match added with
            | none => .error .notToml
            | some done =>
                match rest.dropWhile isSpace with
                | '\x7d' :: rest => .ok (.table done, rest)
                | ',' :: rest =>
                    let frozen :=
                      if isContainer value then
                        key :: frozen
                      else
                        frozen
                    readEntries fuel frozen done
                      (rest.dropWhile isSpace)
                | _ => .error .notToml
    | _ => .error .notToml

end

/- A value at the front of a text. -/
def readValue
    (ahead : List Char) : ReadValue :=
  readValueFrom (2 * ahead.length + 2) ahead

end Toml

end GradleMigration

------------------------------------------------------------
-- Documents
------------------------------------------------------------

namespace GradleMigration

namespace Toml

/-
  A document as far as it has been read: its data, the header
  in force, the keys that can no longer be extended, those
  that can no longer be declared, and those that can no longer
  be declared once the next header comes.
-/
structure Document where
  data : Table
  header : Key
  frozen : List Key
  declared : List Key
  pending : List Key

namespace Document

/- The document before its first statement. -/
def empty : Document :=
  ⟨[], [], [], [], []⟩

/- A header settles the keys that were waiting for it. -/
def settle
    (doc : Document) : Document :=
  { doc with
    declared := doc.pending ++ doc.declared
    pending := [] }

/- Declare a table. -/
def declareTable
    (doc : Document)
    (key : Key) : Option Document :=
  if doc.declared.contains key || isFrozen doc.frozen key then
    none
  else
    (changeNest true some key doc.data).map fun data =>
      { doc with
        data := data
        header := key
        declared := key :: doc.declared }

/- Declare one more element of an array of tables. -/
def declareElement
    (doc : Document)
    (key : Key) : Option Document :=
  if isFrozen doc.frozen key then
    none
  else
    let keep := fun (other : Key) => !key.isPrefixOf other
    (changeNest true (addElement (key.getLastD ""))
        key.dropLast doc.data).map fun data =>
      { doc with
        data := data
        header := key
        frozen := doc.frozen.filter keep
        declared := key :: doc.declared.filter keep }

/- The proper, non-empty prefixes of a key under a header. -/
def containersOf
    (header key : Key) : List Key :=
  (List.range (key.length - 1)).map fun i =>
    header ++ key.take (i + 1)

/- Give a key under the header in force a value. -/
def assign
    (doc : Document)
    (key : Key)
    (value : Datum) : Option Document :=
  let containers := containersOf doc.header key
  let parent := doc.header ++ key.dropLast
  if containers.any doc.declared.contains ||
      isFrozen doc.frozen parent then
    none
  else
    (changeNest true (addEntry (key.getLastD "") value)
        parent doc.data).map fun data =>
      { doc with
        data := data
        pending := containers ++ doc.pending
        frozen :=
          if isContainer value then
            (doc.header ++ key) :: doc.frozen
          else
            doc.frozen }

end Document

/- A statement other than a comment. -/
def readStatement
    (doc : Document)
    (ahead : List Char) :
    Except Fault (Document × List Char) :=
  match ahead with
  | '[' :: '[' :: rest => do
      let (key, rest) ← expect (readKey (rest.dropWhile isSpace))
      let doc ← expect (doc.settle.declareElement key)
      let rest ← expect (skipText "]]" rest)
      return (doc, rest)
  | '[' :: rest => do
      let (key, rest) ← expect (readKey (rest.dropWhile isSpace))
      let doc ← expect (doc.settle.declareTable key)
      let rest ← expect (skipText "]" rest)
      return (doc, rest)
  | _ => do
      let (key, rest) ← expect (readKey ahead)
      let rest ← expect (skipText "=" rest)
      let (value, rest) ← readValue (rest.dropWhile isSpace)
      let doc ← expect (doc.assign key value)
      return (doc, rest)

/- The statements of a document; fuel pays for each line. -/
def readStatements :
    (fuel : Nat) →
    Document → List Char → Except Fault Document
| 0, _, _ => .error .notToml
| fuel + 1, doc, ahead =>
    match ahead.dropWhile isSpace with
    | [] => .ok doc
    | '\n' :: rest => readStatements fuel doc rest
    | c :: rest => do
        let (doc, rest) ←
          if c = '#' then
            .ok (doc, c :: rest)
          else
            readStatement doc (c :: rest)
        let rest ←
          expect (skipComment (rest.dropWhile isSpace))
        match rest with
        | [] => return doc
        | '\n' :: rest => readStatements fuel doc rest
        | _ => .error .notToml

/- The data of a TOML text, or why it cannot be read. -/
def read
    (text : List Char) : Except Fault Table :=
  let text := Text.joinNewlines text
  (readStatements (text.length + 1) .empty text).map (·.data)

/- The data of a TOML text, or nothing when it is not read. -/
def parse
    (text : List Char) : Option Table :=
  (read text).toOption

end Toml

end GradleMigration
