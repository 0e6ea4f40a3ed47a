import GradleMigration.File.Fault

/-
  The file tree that the program works on.

  Key definitions include:
    * `Location`
    * `Entry`
    * `FileTree`
    * `FileTree.get?`
    * `FileTree.set`
    * `FileTree.erase`
    * `FileTree.locate`
    * `FileTree.read`
    * `FileTree.create`
    * `FileTree.write`
    * `FileTree.truncate`
    * `FileTree.leftBy`
    * `FileTree.unlink`
    * `FileTree.isFile`

  A tree is a finite map from locations to files and
  directories, seen through `FileTree.get?`.  What `set` and
  `erase` do to this view is said by
    * `FileTree.get?_set`
    * `FileTree.get?_erase`
-/

------------------------------------------------------------
-- Entries
------------------------------------------------------------

namespace GradleMigration

/- The names from the root of the file tree to an entry. -/
abbrev Location :=
  List Name

/- What is at a location. -/
inductive Entry where
| file (bytes : List UInt8)
| directory
deriving DecidableEq, Repr

/- Whether an entry is a file. -/
def Entry.isFile : Entry → Bool
| .file _ => true
| .directory => false

/- Entries by location. -/
abbrev Entries :=
  List (Location × Entry)

namespace Entries

/- The locations of entries. -/
def locations
    (entries : Entries) : List Location :=
  entries.map Prod.fst

/- Replace the entry at a location, or add it at the end. -/
def set
    (location : Location)
    (entry : Entry) : Entries → Entries
| [] => [(location, entry)]
| (other, old) :: rest =>
    if other = location then
      (other, entry) :: rest
    else
      (other, old) :: set location entry rest

/- Take away the entry at a location. -/
def erase
    (location : Location)
    (entries : Entries) : Entries :=
  entries.filter fun pair => pair.1 != location

/- Setting an entry adds no location but its own. -/
theorem mem_locations_set
    {location other : Location}
    {entry : Entry}
    {entries : Entries} :
    other ∈ (entries.set location entry).locations ↔
      other = location ∨ other ∈ entries.locations := by
  induction entries with
  | nil => simp [set, locations]
  | cons pair rest ih =>
      obtain ⟨key, old⟩ := pair
      simp only [locations] at ih
      by_cases h : key = location
      · simp [set, locations, h]
      · simp only [set, h, if_false, locations,
          List.map_cons, List.mem_cons, ih]
        exact or_left_comm

/- Setting an entry keeps the locations distinct. -/
theorem nodup_set
    {location : Location}
    {entry : Entry}
    {entries : Entries}
    (h : entries.locations.Nodup) :
    (entries.set location entry).locations.Nodup := by
  induction entries with
  | nil => simp [set, locations]
  | cons pair rest ih =>
      obtain ⟨key, old⟩ := pair
      have hParts := List.nodup_cons.mp h
      by_cases hKey : key = location
      · simpa [set, locations, hKey] using h
      · simp only [set, hKey, if_false, locations,
          List.map_cons]
        refine List.nodup_cons.mpr ⟨fun hMem => ?_, ih hParts.2⟩
        rcases mem_locations_set.mp hMem with hEq | hOld
        · exact hKey hEq
        · exact hParts.1 hOld

/- Erasing an entry keeps the locations distinct. -/
theorem nodup_erase
    {location : Location}
    {entries : Entries}
    (h : entries.locations.Nodup) :
    (entries.erase location).locations.Nodup :=
  h.sublist (List.filter_sublist.map _)

/- What is found after setting an entry. -/
theorem lookup_set
    (location other : Location)
    (entry : Entry)
    (entries : Entries) :
    (entries.set location entry).lookup other =
      if other = location then
        some entry
      else
        entries.lookup other := by
  induction entries with
  | nil =>
      by_cases h : other = location
      · simp [set, h]
      · simp [set, h]
  | cons pair rest ih =>
      obtain ⟨key, old⟩ := pair
      by_cases hKey : key = location
      · subst hKey
        by_cases h : other = key
        · simp [set, h]
        · have hBeq : (other == key) = false :=
            beq_eq_false_iff_ne.mpr h
          simp [set, List.lookup_cons, hBeq, h]
      · by_cases h : other = key
        · subst h
          simp [set, hKey]
        · have hBeq : (other == key) = false :=
            beq_eq_false_iff_ne.mpr h
          simp only [set, hKey, if_false, List.lookup_cons,
            hBeq, ih]

/- What is found after taking an entry away. -/
theorem lookup_erase
    (location other : Location)
    (entries : Entries) :
    (entries.erase location).lookup other =
      if other = location then
        none
      else
        entries.lookup other := by
  induction entries with
  | nil => simp [erase]
  | cons pair rest ih =>
      obtain ⟨key, old⟩ := pair
      unfold erase at ih ⊢
      by_cases hKey : key = location
      · subst hKey
        by_cases h : other = key
        · subst h
          simpa using ih
        · have hBeq : (other == key) = false :=
            beq_eq_false_iff_ne.mpr h
          simpa [List.lookup_cons, hBeq, h] using ih
      · by_cases h : other = key
        · subst h
          simp [hKey]
        · have hBeq : (other == key) = false :=
            beq_eq_false_iff_ne.mpr h
          simpa [List.filter_cons, hKey, List.lookup_cons,
            hBeq] using ih

end Entries

/-
  A file tree and the directory in which relative paths start.
  No location has two entries.
-/
structure FileTree where
  directory : Path
  entries : Entries
  distinct : entries.locations.Nodup

namespace FileTree

/- A tree with nothing but its root. -/
def empty
    (directory : Path) : FileTree where
  directory := directory
  entries := []
  distinct := List.nodup_nil

/- What is at a location; the root is always a directory. -/
def get?
    (tree : FileTree)
    (location : Location) : Option Entry :=
  if location = [] then
    some .directory
  else
    tree.entries.lookup location

/- Put an entry at a location. -/
def set
    (tree : FileTree)
    (location : Location)
    (entry : Entry) : FileTree where
  directory := tree.directory
  entries := tree.entries.set location entry
  distinct := Entries.nodup_set tree.distinct

/- Take away what is at a location. -/
def erase
    (tree : FileTree)
    (location : Location) : FileTree where
  directory := tree.directory
  entries := tree.entries.erase location
  distinct := Entries.nodup_erase tree.distinct

/- What is seen after putting an entry at a location. -/
theorem get?_set
    (tree : FileTree)
    (location other : Location)
    (entry : Entry)
    (hLocation : location ≠ []) :
    (tree.set location entry).get? other =
      if other = location then
        some entry
      else
        tree.get? other := by
  by_cases hOther : other = []
  · subst hOther
    simp [get?, Ne.symm hLocation]
  · simp only [get?, hOther, if_false, set,
      Entries.lookup_set]

/- What is seen after taking away what is at a location. -/
theorem get?_erase
    (tree : FileTree)
    (location other : Location)
    (hLocation : location ≠ []) :
    (tree.erase location).get? other =
      if other = location then
        none
      else
        tree.get? other := by
  by_cases hOther : other = []
  · subst hOther
    simp [get?, Ne.symm hLocation]
  · simp only [get?, hOther, if_false, erase,
      Entries.lookup_erase]

/- The names of the entries in the directory at a location. -/
def namesIn
    (tree : FileTree)
    (location : Location) : List Name :=
  tree.entries.filterMap fun (other, _) =>
    if other.dropLast = location then
      other.getLast?
    else
      none

/- The entries at all depths below a location. -/
def entriesBelow
    (tree : FileTree)
    (location : Location) : Entries :=
  tree.entries.filterMap fun (other, entry) =>
    if location.isPrefixOf other &&
        location.length < other.length then
      some (other.drop location.length, entry)
    else
      none

end FileTree

end GradleMigration

------------------------------------------------------------
-- Finding Entries
------------------------------------------------------------

namespace GradleMigration

/- The most bytes of a name. -/
def maxNameBytes : Nat :=
  255

/- The most bytes of a path. -/
def maxPathBytes : Nat :=
  4095

/- Whether a path has more bytes than that. -/
def Path.isTooLong
    (path : Path) : Bool :=
  decide (maxPathBytes < path.byteSize)

namespace FileTree

/- Go from a directory to the entry with a name. -/
def step
    (tree : FileTree)
    (location : Location)
    (part : Name) : Except FileCause Location :=
  match tree.get? location with
  | none => .error .missing
  | some (.file _) => .error .notDirectory
  | some .directory =>
      if part.isUp then
        .ok location.dropLast
      else if maxNameBytes <
          (Utf8.encode part.text.toList).length then
        .error .nameTooLong
      else
        .ok (location ++ [part])

/- Go along several names. -/
def walk
    (tree : FileTree) :
    Location → List Name → Except FileCause Location
| location, [] => .ok location
| location, part :: rest =>
    match tree.step location part with
    | .error cause => .error cause
    | .ok next => walk tree next rest

/-
  The location of a path.  All but the last name have to be
  directories; the last may be missing.
-/
def locate
    (tree : FileTree)
    (path : Path) : Except FileCause Location :=
  if path.hasNull then
    .error .nullInPath
  else if maxPathBytes < path.byteSize then
    .error .nameTooLong
  else
    tree.walk [] (tree.directory.join path).parts

/- The entry of a path. -/
def find
    (tree : FileTree)
    (path : Path) : Except FileCause Entry :=
  match tree.locate path with
  | .error cause => .error cause
  | .ok location =>
      match tree.get? location with
      | none => .error .missing
      | some entry => .ok entry

/- The entry of a path, if there is one. -/
def find?
    (tree : FileTree)
    (path : Path) : Except FileFault (Option Entry) :=
  match tree.find path with
  | .ok entry => .ok (some entry)
  | .error cause =>
      if cause.isAbsence then
        .ok none
      else
        .error (.system cause path)

/- Whether a path leads to a file. -/
def isFile
    (tree : FileTree)
    (path : Path) : Except FileFault Bool :=
  (tree.find? path).map (·.any Entry.isFile)

/- Whether a path leads to a directory. -/
def isDirectory
    (tree : FileTree)
    (path : Path) : Except FileFault Bool :=
  (tree.find? path).map (· == some .directory)

/- Whether a path leads anywhere. -/
def has
    (tree : FileTree)
    (path : Path) : Except FileFault Bool :=
  (tree.find? path).map Option.isSome

end FileTree

end GradleMigration

------------------------------------------------------------
-- Files
------------------------------------------------------------

namespace GradleMigration

namespace FileTree

/- The bytes of a file. -/
def read
    (tree : FileTree)
    (path : Path) : Except FileFault (List UInt8) :=
  match tree.find path with
  | .error cause => .error (.system cause path)
  | .ok .directory => .error (.system .isDirectory path)
  | .ok (.file bytes) => .ok bytes

/- Make a file that is not there yet. -/
def create
    (tree : FileTree)
    (path : Path)
    (bytes : List UInt8) : Except FileFault FileTree :=
  match tree.locate path with
  | .error cause => .error (.system cause path)
  | .ok location =>
      match tree.get? location with
      | some _ => .error (.system .taken path)
      | none => .ok (tree.set location (.file bytes))

/- Make a file or replace what it holds. -/
def write
    (tree : FileTree)
    (path : Path)
    (bytes : List UInt8) : Except FileFault FileTree :=
  match tree.locate path with
  | .error cause => .error (.system cause path)
  | .ok location =>
      match tree.get? location with
      | some .directory =>
          .error (.system .isDirectory path)
      | _ => .ok (tree.set location (.file bytes))

/- Keep no more than the first bytes of a file. -/
def truncate
    (tree : FileTree)
    (path : Path)
    (count : Nat) : FileTree :=
  match tree.locate path with
  | .error _ => tree
  | .ok location =>
      match tree.get? location with
      | some (.file bytes) =>
          tree.set location (.file (bytes.take count))
      | _ => tree

/-
  What a fault leaves, given the tree before and the tree that
  there would be if all bytes had come to the file.
-/
def leftBy
    (before written : FileTree)
    (path : Path) : WriteFault → FileTree
| .closed _ => before
| .cut _ count => written.truncate path count

/- Take a file away. -/
def unlink
    (tree : FileTree)
    (path : Path) : Except FileFault FileTree :=
  match tree.locate path with
  | .error cause => .error (.system cause path)
  | .ok location =>
      match tree.get? location with
      | none => .error (.system .missing path)
      | some .directory =>
          .error (.system .isDirectory path)
      | some (.file _) => .ok (tree.erase location)

/- Make the directories on the way along some names. -/
def makeAlong
    (tree : FileTree)
    (location : Location) :
    List Name → Except FileCause FileTree
| [] => .ok tree
| part :: rest =>
    match tree.step location part with
    | .error cause => .error cause
    | .ok next =>
        match tree.get? next with
        | some (.file _) =>
            .error
              (if rest.isEmpty then .taken else .notDirectory)
        | some .directory => makeAlong tree next rest
        | none => makeAlong (tree.set next .directory) next rest

/- Make a directory and those above it. -/
def makeDirectory
    (tree : FileTree)
    (path : Path) : Except FileFault FileTree :=
  if path.hasNull then
    .error (.system .nullInPath path)
  else
    match tree.makeAlong []
        (tree.directory.join path).parts with
    | .error cause => .error (.system cause path)
    | .ok tree => .ok tree

/- Write a file, making the directories above it. -/
def put
    (tree : FileTree)
    (path : Path)
    (bytes : List UInt8) : Except FileFault FileTree :=
  match tree.makeDirectory path.parent with
  | .error fault => .error fault
  | .ok tree => tree.write path bytes

end FileTree

end GradleMigration
