import GradleMigration.Proofs.File.Change
import GradleMigration.Proofs.File.Order
import GradleMigration.Scan.Scanner

/-
  The scripts that a scan looks into: which files they are,
  where they lie, and what can become of a tree without a
  change to the list of its scripts.

  Main declarations:
    * `FileTree.Regular`
    * `FileTree.locate_below`
    * `FileTree.mem_entriesBelow`
    * `FileTree.ShortBelow`
    * `FileTree.filesBelow_cases`
    * `Scanner.anchoring_of_scripts`
    * `Scanner.parts_ne_nil_of_scripts`
    * `Scanner.Listing`
    * `Scanner.listing_of_scripts`
    * `Scanner.Listing.unique`
    * `Scanner.scripts_of_changes`
-/

------------------------------------------------------------
-- Places Below a Directory
------------------------------------------------------------

namespace GradleMigration

namespace FileTree

/- No entry has a name that leads to the directory above. -/
def Regular
    (tree : FileTree) : Prop :=
  ∀ location ∈ tree.entries.locations,
    ∀ name ∈ location, name.isUp = false

instance
    (tree : FileTree) : Decidable tree.Regular :=
  inferInstanceAs (Decidable
    (∀ location ∈ tree.entries.locations,
      ∀ name ∈ location, name.isUp = false))

/- A walk goes along one part of its names and the other. -/
theorem walk_append
    (tree : FileTree)
    (location : Location)
    (front back : List Name) :
    tree.walk location (front ++ back) =
      match tree.walk location front with
      | .error cause => .error cause
      | .ok place => tree.walk place back := by
  induction front generalizing location with
  | nil => rfl
  | cons part rest ih =>
      rw [List.cons_append, walk, walk]
      cases tree.step location part with
      | error cause => rfl
      | ok next => exact ih next

/- A walk that never goes up ends below its start. -/
theorem walk_down
    {tree : FileTree}
    {names : List Name}
    (hNames : ∀ name ∈ names, name.isUp = false)
    {place last : Location}
    (h : tree.walk place names = .ok last) :
    last = place ++ names := by
  induction names generalizing place with
  | nil =>
      cases h
      simp
  | cons name rest ih =>
      unfold walk at h
      split at h
      · cases h
      · next next hStep =>
          have hLast := ih
            (fun other hOther =>
              hNames other (List.mem_cons_of_mem _ hOther)) h
          have hNext : next = place ++ [name] := by
            have hTaken := (step_eq_ok_iff.mp hStep).2.2
            rw [hNames name List.mem_cons_self] at hTaken
            exact hTaken
          rw [hLast, hNext, List.append_assoc]
          rfl

/- Names below a path come behind its own. -/
theorem parts_join_below
    (base folder : Path)
    (names : List Name) :
    (base.join (folder.below names)).parts =
      (base.join folder).parts ++ names := by
  unfold Path.join
  have hAbsolute :
      (folder.below names).isAbsolute = folder.isAbsolute := rfl
  rw [hAbsolute]
  split
  · rfl
  · simp [Path.below, List.append_assoc]

/- A path is located along its front and then its names. -/
theorem of_locate_below
    {tree : FileTree}
    {root : Path}
    {location : Location}
    {names : List Name}
    (hNames : ∀ name ∈ names, name.isUp = false)
    (h : tree.locate (root.below names) = .ok location) :
    ∃ place,
      tree.walk [] (tree.directory.join root).parts =
          .ok place ∧
        location = place ++ names := by
  have hWalk := (locate_eq_ok_iff.mp h).2.2
  rw [parts_join_below, walk_append] at hWalk
  split at hWalk
  · cases hWalk
  · next place hPlace =>
      exact ⟨place, hPlace, walk_down hNames hWalk⟩

/- A path below a directory lies below its place. -/
theorem locate_below
    {tree : FileTree}
    {root : Path}
    {place location : Location}
    {names : List Name}
    (hNames : ∀ name ∈ names, name.isUp = false)
    (hRoot : tree.locate root = .ok place)
    (h : tree.locate (root.below names) = .ok location) :
    location = place ++ names := by
  rcases of_locate_below hNames h with
    ⟨other, hOther, hLocation⟩
  have hWalk := (locate_eq_ok_iff.mp hRoot).2.2
  rw [hOther] at hWalk
  cases hWalk
  exact hLocation

/- A path ends where its last name is. -/
theorem getLast?_of_locate
    {tree : FileTree}
    {parent : Path}
    {name : Name}
    {location : Location}
    (hName : name.isUp = false)
    (h : tree.locate (parent.below [name]) = .ok location) :
    location.getLast? = some name := by
  have hNames : ∀ other ∈ [name], other.isUp = false := by
    intro other hOther
    rw [List.mem_singleton.mp hOther]
    exact hName
  rcases of_locate_below hNames h with ⟨place, _, hLocation⟩
  rw [hLocation, List.getLast?_concat]

end FileTree

/- Where no location comes twice, each entry is found. -/
theorem Entries.lookup_eq_some_iff
    {entries : Entries}
    (h : entries.locations.Nodup)
    {location : Location}
    {entry : Entry} :
    entries.lookup location = some entry ↔
      (location, entry) ∈ entries := by
  induction entries with
  | nil => simp
  | cons pair rest ih =>
      rcases pair with ⟨other, old⟩
      rcases List.nodup_cons.mp h with ⟨hOther, hRest⟩
      by_cases hEq : location = other
      · subst hEq
        have hAbsent : (location, entry) ∉ rest := by
          intro hMem
          exact hOther (List.mem_map.mpr ⟨_, hMem, rfl⟩)
        simp [hAbsent, eq_comm]
      · rw [List.lookup_cons, beq_false_of_ne hEq, ih hRest]
        simp [hEq]

namespace FileTree

/- A file that is found is one of the entries. -/
theorem mem_locations_of_get?
    {tree : FileTree}
    {location : Location}
    {bytes : List UInt8}
    (h : tree.get? location = some (.file bytes)) :
    location ∈ tree.entries.locations := by
  unfold get? at h
  split at h
  · cases h
  · have hMem := (Entries.lookup_eq_some_iff tree.distinct).mp h
    exact List.mem_map.mpr ⟨_, hMem, rfl⟩

/- The names that lead to a file never lead up. -/
theorem not_isUp_of_get?
    {tree : FileTree}
    (hTree : tree.Regular)
    {location : Location}
    {bytes : List UInt8}
    (h : tree.get? location = some (.file bytes)) :
    ∀ name ∈ location, name.isUp = false :=
  hTree location (mem_locations_of_get? h)

/- The entries below a location, by where they are. -/
theorem mem_entriesBelow
    {tree : FileTree}
    {place : Location}
    {names : List Name}
    {entry : Entry} :
    (names, entry) ∈ tree.entriesBelow place ↔
      names ≠ [] ∧
        tree.get? (place ++ names) = some entry := by
  have hGet :
      names ≠ [] →
        (tree.get? (place ++ names) = some entry ↔
          (place ++ names, entry) ∈ tree.entries) := by
    intro hNames
    unfold get?
    rw [if_neg (by simp [hNames])]
    exact Entries.lookup_eq_some_iff tree.distinct
  unfold entriesBelow
  rw [List.mem_filterMap]
  constructor
  · rintro ⟨⟨other, found⟩, hMem, hSome⟩
    simp only at hSome
    split at hSome
    · next hBelow =>
        cases hSome
        rw [Bool.and_eq_true, decide_eq_true_eq] at hBelow
        rcases List.isPrefixOf_iff_prefix.mp hBelow.1 with
          ⟨rest, hRest⟩
        subst hRest
        rw [List.drop_left] at hGet ⊢
        have hNames : rest ≠ [] := by
          intro hNil
          rw [hNil] at hBelow
          simp at hBelow
        exact ⟨hNames, (hGet hNames).mpr hMem⟩
    · cases hSome
  · rintro ⟨hNames, hEntry⟩
    refine ⟨(place ++ names, entry), (hGet hNames).mp hEntry, ?_⟩
    have hLength := List.length_pos_iff.mpr hNames
    have hBelow :
        (place.isPrefixOf (place ++ names) &&
          decide (place.length <
            (place ++ names).length)) = true := by
      rw [Bool.and_eq_true, decide_eq_true_eq,
        List.length_append]
      exact ⟨List.isPrefixOf_iff_prefix.mpr
        (List.prefix_append _ _), by omega⟩
    simp only
    rw [if_pos hBelow, List.drop_left]

/- No entry below a location comes twice. -/
theorem nodup_entriesBelow
    (tree : FileTree)
    (place : Location) :
    ((tree.entriesBelow place).map (·.1)).Nodup := by
  have hDistinct := tree.distinct
  unfold Entries.locations List.Nodup at hDistinct
  unfold List.Nodup entriesBelow
  rw [List.pairwise_map] at hDistinct ⊢
  rw [List.pairwise_filterMap]
  refine hDistinct.imp ?_
  rintro ⟨a, entryA⟩ ⟨b, entryB⟩ hNe x hX y hY hEq
  simp only at hX hY
  split at hX
  · next hA =>
      split at hY
      · next hB =>
          cases hX
          cases hY
          rw [Bool.and_eq_true] at hA hB
          rcases List.isPrefixOf_iff_prefix.mp hA.1 with
            ⟨restA, hRestA⟩
          rcases List.isPrefixOf_iff_prefix.mp hB.1 with
            ⟨restB, hRestB⟩
          apply hNe
          rw [← hRestA, ← hRestB] at hEq ⊢
          rw [List.drop_left, List.drop_left] at hEq
          exact congrArg (place ++ ·) hEq
      · cases hY
  · cases hX

end FileTree

end GradleMigration

------------------------------------------------------------
-- Files Below a Directory
------------------------------------------------------------

namespace GradleMigration

/- The paths of entries are those below the root. -/
theorem Entries.mem_pathsFrom
    {root path : Path}
    {entries : Entries} :
    path ∈ Entries.pathsFrom root entries ↔
      ∃ names entry, (names, entry) ∈ entries ∧
        root.below names = path := by
  unfold pathsFrom
  rw [List.mem_mergeSort, List.mem_map]
  constructor
  · rintro ⟨⟨names, entry⟩, hMem, hPath⟩
    exact ⟨names, entry, hMem, hPath⟩
  · rintro ⟨names, entry, hMem, hPath⟩
    exact ⟨(names, entry), hMem, hPath⟩

namespace FileTree

/- No path of an entry below a root is too long. -/
def ShortBelow
    (tree : FileTree)
    (root : Path)
    (place : Location) : Prop :=
  ∀ names entry, names ≠ [] →
    tree.get? (place ++ names) = some entry →
      (root.below names).isTooLong = false

/- The paths of the files below a place, in their order. -/
def filePaths
    (tree : FileTree)
    (root : Path)
    (place : Location) : List Path :=
  Entries.pathsFrom root
    ((tree.entriesBelow place).filter (·.2.isFile))

/- The paths of all entries that are looked at on the way. -/
def pathsOnTheWay
    (tree : FileTree)
    (root : Path)
    (place : Location) : List Path :=
  Entries.pathsFrom root
    ((tree.entriesBelow place).filter (!·.2.isFile)) ++
      tree.filePaths root place

/- Every entry below a place is looked at. -/
theorem mem_pathsOnTheWay
    {tree : FileTree}
    {root path : Path}
    {place : Location} :
    path ∈ tree.pathsOnTheWay root place ↔
      ∃ names entry, names ≠ [] ∧
        tree.get? (place ++ names) = some entry ∧
        root.below names = path := by
  unfold pathsOnTheWay filePaths
  rw [List.mem_append, Entries.mem_pathsFrom,
    Entries.mem_pathsFrom]
  simp only [List.mem_filter, mem_entriesBelow]
  constructor
  · rintro (⟨names, entry, ⟨⟨hNames, hEntry⟩, _⟩, hPath⟩ |
      ⟨names, entry, ⟨⟨hNames, hEntry⟩, _⟩, hPath⟩)
    · exact ⟨names, entry, hNames, hEntry, hPath⟩
    · exact ⟨names, entry, hNames, hEntry, hPath⟩
  · rintro ⟨names, entry, hNames, hEntry, hPath⟩
    cases hKind : entry.isFile with
    | false =>
        exact Or.inl ⟨names, entry,
          ⟨⟨hNames, hEntry⟩, by simp [hKind]⟩, hPath⟩
    | true =>
        exact Or.inr ⟨names, entry,
          ⟨⟨hNames, hEntry⟩, hKind⟩, hPath⟩

/- What comes of listing the files below a directory. -/
theorem filesBelow_eq
    {tree : FileTree}
    {root : Path}
    {place : Location}
    (hRoot : tree.locate root = .ok place)
    (hPlace : tree.get? place = some .directory) :
    tree.filesBelow root =
      match (tree.pathsOnTheWay root place).find?
          Path.isTooLong with
      | some path => .error (.system .nameTooLong path)
      | none => .ok (tree.filePaths root place) := by
  unfold filesBelow
  rw [isDirectory_eq_true_iff.mpr ⟨place, hRoot, hPlace⟩, hRoot]
  rfl

/-
  The files below a directory are listed, unless a path on the
  way is too long.
-/
theorem filesBelow_cases
    {tree : FileTree}
    {root : Path}
    {place : Location}
    (hRoot : tree.locate root = .ok place)
    (hPlace : tree.get? place = some .directory) :
    (∃ names entry, names ≠ [] ∧
      tree.get? (place ++ names) = some entry ∧
      (root.below names).isTooLong = true ∧
      tree.filesBelow root =
        .error (.system .nameTooLong (root.below names))) ∨
    (tree.ShortBelow root place ∧
      tree.filesBelow root =
        .ok (tree.filePaths root place)) := by
  rw [filesBelow_eq hRoot hPlace]
  cases hFind : (tree.pathsOnTheWay root place).find?
      Path.isTooLong with
  | some path =>
      rcases mem_pathsOnTheWay.mp
          (List.mem_of_find?_eq_some hFind) with
        ⟨names, entry, hNames, hEntry, hPath⟩
      subst hPath
      exact Or.inl ⟨names, entry, hNames, hEntry,
        List.find?_some hFind, rfl⟩
  | none =>
      refine Or.inr ⟨?_, rfl⟩
      intro names entry hNames hEntry
      have hNot := List.find?_eq_none.mp hFind _
        (mem_pathsOnTheWay.mpr
          ⟨names, entry, hNames, hEntry, rfl⟩)
      exact Bool.eq_false_iff.mpr hNot

end FileTree

end GradleMigration

------------------------------------------------------------
-- Listings
------------------------------------------------------------

namespace GradleMigration

/- The last name of a path below another one. -/
theorem Path.name_below
    (root : Path)
    {names : List Name}
    {last : Name}
    (h : names.getLast? = some last) :
    (root.below names).name = last.text := by
  unfold Path.name Path.below
  simp [List.getLast?_append, h]

/- Paths below a directory are told apart by their names. -/
theorem Path.below_injective
    {root : Path}
    {a b : List Name}
    (h : root.below a = root.below b) :
    a = b := by
  have hParts := congrArg Path.parts h
  exact List.append_cancel_left hParts

namespace Scanner

/- The files that are listed before scripts are chosen. -/
theorem of_scripts
    {scanner : Scanner}
    {tree : FileTree}
    {root : Path}
    {place : Location}
    {files : List Path}
    (hRoot : tree.locate root = .ok place)
    (hPlace : tree.get? place = some .directory)
    (h : scanner.scripts tree root = .ok files) :
    tree.ShortBelow root place ∧
      files = (tree.filePaths root place).filter fun file =>
        Project.isScannable file root scanner.excludes := by
  unfold scripts at h
  rcases FileTree.filesBelow_cases hRoot hPlace with
    ⟨_, _, _, _, _, hLong⟩ | ⟨hShort, hFiles⟩
  · rw [hLong] at h
    cases h
  · rw [hFiles] at h
    cases h
    exact ⟨hShort, rfl⟩

/- The scripts of a project lie below its root. -/
theorem anchoring_of_scripts
    {scanner : Scanner}
    {tree : FileTree}
    {root : Path}
    {files : List Path}
    (h : scanner.scripts tree root = .ok files)
    {file : Path}
    (hFile : file ∈ files) :
    file.anchoring = root.anchoring := by
  unfold scripts FileTree.filesBelow at h
  split at h
  · cases h
  · next below hBelow =>
      cases h
      have hMem := (List.mem_filter.mp hFile).1
      split at hBelow
      · cases hBelow
      · cases hBelow
        cases hMem
      · split at hBelow
        · cases hBelow
        · simp only at hBelow
          split at hBelow
          · cases hBelow
          · cases hBelow
            rcases Entries.mem_pathsFrom.mp hMem with
              ⟨names, _, _, hEq⟩
            rw [← hEq]
            rfl

/- The scripts of a project have names. -/
theorem parts_ne_nil_of_scripts
    {scanner : Scanner}
    {tree : FileTree}
    {root : Path}
    {files : List Path}
    (h : scanner.scripts tree root = .ok files)
    {file : Path}
    (hFile : file ∈ files) :
    file.parts ≠ [] := by
  unfold scripts at h
  split at h
  · cases h
  · cases h
    have hScan := (List.mem_filter.mp hFile).2
    unfold Project.isScannable at hScan
    rw [Bool.and_eq_true] at hScan
    intro hNil
    have hName : file.name = "" := by
      unfold Path.name
      rw [hNil]
      rfl
    rw [hName] at hScan
    exact absurd hScan.1 (by decide)

/-
  A list of the scripts below a root: each file with the name
  of a script in a directory that is not left out, once, in
  the order of paths.
-/
structure Listing
    (scanner : Scanner)
    (tree : FileTree)
    (root : Path)
    (place : Location)
    (files : List Path) : Prop where
  mem : ∀ file, file ∈ files ↔
    ∃ names bytes, names ≠ [] ∧ file = root.below names ∧
      tree.get? (place ++ names) = some (.file bytes) ∧
      Project.isScannable file root scanner.excludes = true
  nodup : files.Nodup
  sorted : files.Pairwise fun a b => a.le b = true

/- What is scanned is the list of the scripts. -/
theorem listing_of_scripts
    {scanner : Scanner}
    {tree : FileTree}
    {root : Path}
    {place : Location}
    {files : List Path}
    (hRoot : tree.locate root = .ok place)
    (hPlace : tree.get? place = some .directory)
    (h : scanner.scripts tree root = .ok files) :
    scanner.Listing tree root place files := by
  rcases of_scripts hRoot hPlace h with ⟨_, hFiles⟩
  subst hFiles
  refine
    { mem := ?_
      nodup := ?_
      sorted := ?_ }
  · intro file
    rw [List.mem_filter, FileTree.filePaths,
      Entries.mem_pathsFrom]
    constructor
    · rintro ⟨⟨names, entry, hMem, hFile⟩, hScan⟩
      rw [List.mem_filter, FileTree.mem_entriesBelow] at hMem
      rcases hMem with ⟨⟨hNames, hEntry⟩, hIsFile⟩
      cases entry with
      | directory => cases hIsFile
      | file bytes =>
          exact ⟨names, bytes, hNames, hFile.symm, hEntry, hScan⟩
    · rintro ⟨names, bytes, hNames, hFile, hEntry, hScan⟩
      refine ⟨⟨names, .file bytes, ?_, hFile.symm⟩, hScan⟩
      rw [List.mem_filter, FileTree.mem_entriesBelow]
      exact ⟨⟨hNames, hEntry⟩, rfl⟩
  · apply List.Nodup.sublist List.filter_sublist
    unfold FileTree.filePaths Entries.pathsFrom
    rw [(List.mergeSort_perm _ _).nodup_iff]
    have hBelow := tree.nodup_entriesBelow place
    unfold List.Nodup at hBelow ⊢
    rw [List.pairwise_map] at hBelow ⊢
    refine (hBelow.filter _).imp ?_
    rintro ⟨a, entryA⟩ ⟨b, entryB⟩ hNe hEq
    exact hNe (Path.below_injective hEq)
  · exact (List.pairwise_mergeSort Path.le_trans
      Path.le_total _).filter _

/- A script lies in a directory below the root. -/
theorem Listing.exists_last
    {scanner : Scanner}
    {tree : FileTree}
    (hTree : tree.Regular)
    {root : Path}
    {place : Location}
    {files : List Path}
    (h : scanner.Listing tree root place files)
    {file : Path}
    (hFile : file ∈ files) :
    ∃ names last, (∀ name ∈ names, name.isUp = false) ∧
      file = root.below (names ++ [last]) := by
  rcases (h.mem file).mp hFile with
    ⟨own, bytes, hOwn, hPath, hEntry, _⟩
  refine ⟨own.dropLast, own.getLast hOwn, ?_, ?_⟩
  · intro name hName
    exact FileTree.not_isUp_of_get? hTree hEntry name
      (List.mem_append_right _
        ((List.dropLast_sublist own).subset hName))
  · rw [List.dropLast_concat_getLast hOwn, hPath]

/- Different scripts of a project are in different places. -/
theorem Listing.eq_of_locate
    {scanner : Scanner}
    {tree : FileTree}
    (hTree : tree.Regular)
    {root : Path}
    {place : Location}
    (hRoot : tree.locate root = .ok place)
    {files : List Path}
    (h : scanner.Listing tree root place files)
    {file other : Path}
    (hFile : file ∈ files)
    (hOther : other ∈ files)
    {location : Location}
    (hThere : tree.locate file = .ok location)
    (hToo : tree.locate other = .ok location) :
    file = other := by
  have hDown : ∀ names bytes,
      tree.get? (place ++ names) = some (.file bytes) →
        ∀ name ∈ names, name.isUp = false :=
    fun _ _ hEntry name hName =>
      FileTree.not_isUp_of_get? hTree hEntry name
        (List.mem_append_right _ hName)
  rcases (h.mem file).mp hFile with
    ⟨a, bytesA, _, hA, hEntryA, _⟩
  rcases (h.mem other).mp hOther with
    ⟨b, bytesB, _, hB, hEntryB, _⟩
  subst hA hB
  have hPlaceA := FileTree.locate_below (hDown a _ hEntryA)
    hRoot hThere
  have hPlaceB := FileTree.locate_below (hDown b _ hEntryB)
    hRoot hToo
  rw [List.append_cancel_left (hPlaceA.symm.trans hPlaceB)]

/- There is only one list of the scripts. -/
theorem Listing.unique
    {scanner : Scanner}
    {first second : FileTree}
    {root : Path}
    {place : Location}
    {files others : List Path}
    (hFiles : scanner.Listing first root place files)
    (hOthers : scanner.Listing second root place others)
    (h : ∀ file, file ∈ files ↔ file ∈ others) :
    files = others := by
  apply List.Perm.eq_of_pairwise
    (fun _ _ _ _ => Path.le_antisymm) hFiles.sorted
    hOthers.sorted
  exact (List.perm_ext_iff_of_nodup hFiles.nodup
    hOthers.nodup).mpr h

/-
  Rewriting files and adding files that are no scripts, under
  paths that are not too long, changes nothing about the list
  of the scripts.
-/
theorem scripts_of_changes
    (scanner : Scanner)
    {before after : FileTree}
    {root : Path}
    {place : Location}
    (hLocate : before.locate root = .ok place)
    (hPlace : before.get? place = some .directory)
    {files : List Path}
    (hFiles : scanner.scripts before root = .ok files)
    {changed added : List Location}
    (h : before.Changes after changed added)
    (hChanged : ∀ location ∈ changed, ∃ bytes,
      before.get? location = some (.file bytes))
    (hAdded : ∀ location ∈ added, ∃ last,
      location.getLast? = some last ∧
        Project.isScriptName last.text = false)
    (hNew : ∀ names, place ++ names ∈ added →
      (root.below names).isTooLong = false) :
    scanner.scripts after root = .ok files := by
  have hSame := h.sameDirectories
  have hLocate' :=
    FileTree.locate_of_sameDirectories hSame hLocate
  have hPlace' := (hSame.directories place).mpr hPlace
  have hShort := (of_scripts hLocate hPlace hFiles).1
  have hOthers : ∃ others,
      scanner.scripts after root = .ok others := by
    unfold scripts
    rcases FileTree.filesBelow_cases hLocate' hPlace' with
      ⟨names, entry, hNames, hEntry, hLong, _⟩ | ⟨_, hListed⟩
    · -- What is there was there before, or is new and short.
      have hOld : (root.below names).isTooLong = false := by
        by_cases hMade : place ++ names ∈ added
        · exact hNew names hMade
        · cases hWas : before.get? (place ++ names) with
          | some old => exact hShort names old hNames hWas
          | none =>
              have hRewritten : place ++ names ∉ changed := by
                intro hMem
                rcases hChanged _ hMem with ⟨bytes, hBytes⟩
                rw [hWas] at hBytes
                cases hBytes
              rw [h.kept _ hRewritten hMade, hWas] at hEntry
              cases hEntry
      rw [hLong] at hOld
      cases hOld
    · rw [hListed]
      exact ⟨_, rfl⟩
  rcases hOthers with ⟨others, hOthers⟩
  have hBefore := listing_of_scripts hLocate hPlace hFiles
  have hAfter := listing_of_scripts hLocate' hPlace' hOthers
  rw [hOthers]
  congr 1
  refine (hBefore.unique hAfter ?_).symm
  intro file
  rw [hBefore.mem, hAfter.mem]
  constructor
  · rintro ⟨names, bytes, hNames, hFile, hEntry, hScan⟩
    by_cases hRewritten : place ++ names ∈ changed
    · rcases (h.rewritten _ hRewritten).2 with
        ⟨other, hOther⟩
      exact ⟨names, other, hNames, hFile, hOther, hScan⟩
    · have hOld : place ++ names ∉ added := by
        intro hMem
        rw [(h.made _ hMem).1] at hEntry
        cases hEntry
      exact ⟨names, bytes, hNames, hFile,
        (h.kept _ hRewritten hOld).trans hEntry, hScan⟩
  · rintro ⟨names, bytes, hNames, hFile, hEntry, hScan⟩
    by_cases hRewritten : place ++ names ∈ changed
    · rcases hChanged _ hRewritten with ⟨other, hOther⟩
      exact ⟨names, other, hNames, hFile, hOther, hScan⟩
    · by_cases hMade : place ++ names ∈ added
      · -- A new file does not have the name of a script.
        rcases hAdded _ hMade with ⟨last, hLast, hName⟩
        have hOwn : names.getLast? = some last := by
          rw [List.getLast?_append] at hLast
          cases hOwn : names.getLast? with
          | none =>
              exact absurd (List.getLast?_eq_none_iff.mp hOwn)
                hNames
          | some own => simpa [hOwn] using hLast
        unfold Project.isScannable at hScan
        rw [hFile, Path.name_below root hOwn, hName] at hScan
        cases hScan
      · exact ⟨names, bytes, hNames, hFile,
          (h.kept _ hRewritten hMade).symm.trans hEntry, hScan⟩

end Scanner

end GradleMigration
