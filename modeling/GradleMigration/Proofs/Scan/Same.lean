import GradleMigration.Proofs.Fix.Local
import GradleMigration.Proofs.Scan.Listing

/-
  A scan depends on what is in a tree, not on the order in
  which its entries are listed.

  Main declarations:
    * `FileTree.Same.locate_eq`
    * `FileTree.Same.perm_entriesBelow`
    * `Entries.pathsFrom_eq_of_perm`
    * `FileTree.Same.filesBelow_eq`
    * `Scanner.scan_eq_of_same`
-/

------------------------------------------------------------
-- Looking Things Up
------------------------------------------------------------

namespace GradleMigration

namespace FileTree

namespace Same

variable {a b : FileTree}

theorem step_eq
    (h : a.Same b)
    (location : Location)
    (part : Name) :
    b.step location part = a.step location part := by
  unfold step
  rw [h.view]

theorem walk_eq
    (h : a.Same b)
    (location : Location)
    (parts : List Name) :
    b.walk location parts = a.walk location parts := by
  induction parts generalizing location with
  | nil => rfl
  | cons part rest ih =>
      rw [walk, walk, h.step_eq]
      cases a.step location part with
      | error cause => rfl
      | ok next => exact ih next

theorem locate_eq
    (h : a.Same b)
    (path : Path) :
    b.locate path = a.locate path := by
  unfold locate
  rw [h.start, h.walk_eq]

theorem find_eq
    (h : a.Same b)
    (path : Path) :
    b.find path = a.find path := by
  unfold find
  rw [h.locate_eq]
  cases a.locate path with
  | error cause => rfl
  | ok location =>
      simp only
      rw [h.view]

theorem find?_eq
    (h : a.Same b)
    (path : Path) :
    b.find? path = a.find? path := by
  unfold find?
  rw [h.find_eq]

theorem isFile_eq
    (h : a.Same b)
    (path : Path) :
    b.isFile path = a.isFile path := by
  unfold isFile
  rw [h.find?_eq]

theorem isDirectory_eq
    (h : a.Same b)
    (path : Path) :
    b.isDirectory path = a.isDirectory path := by
  unfold isDirectory
  rw [h.find?_eq]

theorem readExact_eq
    (h : a.Same b)
    (path : Path) :
    b.readExact path = a.readExact path := by
  unfold readExact read
  rw [h.find_eq]

end Same

end FileTree

end GradleMigration

------------------------------------------------------------
-- Listing Files
------------------------------------------------------------

namespace GradleMigration

/- The order of entries does not show in their paths. -/
theorem Entries.pathsFrom_eq_of_perm
    (root : Path)
    {first second : Entries}
    (h : first.Perm second) :
    pathsFrom root first = pathsFrom root second := by
  unfold pathsFrom
  apply List.Perm.eq_of_pairwise
    (fun _ _ _ _ => Path.le_antisymm)
    (List.pairwise_mergeSort Path.le_trans Path.le_total _)
    (List.pairwise_mergeSort Path.le_trans Path.le_total _)
  exact ((List.mergeSort_perm _ _).trans (h.map _)).trans
    (List.mergeSort_perm _ _).symm

namespace FileTree

namespace Same

variable {a b : FileTree}

/- The same entries are below a place, in some order. -/
theorem perm_entriesBelow
    (h : a.Same b)
    (place : Location) :
    (b.entriesBelow place).Perm (a.entriesBelow place) := by
  refine (List.perm_ext_iff_of_nodup
    (b.nodup_entriesBelow place).of_map
    (a.nodup_entriesBelow place).of_map).mpr ?_
  rintro ⟨names, entry⟩
  rw [mem_entriesBelow, mem_entriesBelow, h.view]

/- The same files are found below a directory. -/
theorem filesBelow_eq
    (h : a.Same b)
    (root : Path) :
    b.filesBelow root = a.filesBelow root := by
  unfold filesBelow
  rw [h.isDirectory_eq, h.locate_eq]
  cases a.isDirectory root with
  | error fault => rfl
  | ok answer =>
      cases answer with
      | false => rfl
      | true =>
          cases a.locate root with
          | error cause => rfl
          | ok place =>
              have hPerm := h.perm_entriesBelow place
              simp only
              rw [Entries.pathsFrom_eq_of_perm root
                  (hPerm.filter (!·.2.isFile)),
                Entries.pathsFrom_eq_of_perm root
                  (hPerm.filter (·.2.isFile))]

end Same

end FileTree

end GradleMigration

------------------------------------------------------------
-- Scanning
------------------------------------------------------------

namespace GradleMigration

namespace FileTree

namespace Same

variable {a b : FileTree}

theorem anyFile_eq
    (h : a.Same b)
    (paths : List Path) :
    b.anyFile paths = a.anyFile paths := by
  induction paths with
  | nil => rfl
  | cons path rest ih =>
      unfold anyFile
      rw [h.isFile_eq, ih]

theorem readFirst_eq
    {α : Type}
    (h : a.Same b)
    (default : α)
    (tell : List Char → α)
    (paths : List Path) :
    b.readFirst default tell paths =
      a.readFirst default tell paths := by
  induction paths with
  | nil => rfl
  | cons path rest ih =>
      unfold readFirst readText
      rw [h.isFile_eq, ih, h.readExact_eq]

end Same

end FileTree

namespace Scanner

variable {a b : FileTree}

theorem scanFiles_eq_of_same
    (scanner : Scanner)
    (h : a.Same b)
    (root : Path)
    (files : List Path) :
    scanner.scanFiles b root files =
      scanner.scanFiles a root files := by
  induction files with
  | nil => rfl
  | cons file rest ih =>
      unfold scanFiles scanFile
      rw [h.readExact_eq, ih]

/- Trees that look the same give the same report. -/
theorem scan_eq_of_same
    (scanner : Scanner)
    (h : a.Same b)
    (root : Path)
    (idName : Nat → String)
    (next : Nat) :
    scanner.scan b root idName next =
      scanner.scan a root idName next := by
  have hScripts :
      scanner.scripts b root = scanner.scripts a root := by
    unfold scripts
    rw [h.filesBelow_eq]
  have hSurvey :
      scanner.survey b root = scanner.survey a root := by
    unfold survey FileTree.modules FileTree.version
    rw [h.readFirst_eq, h.readFirst_eq, hScripts]
    simp only [scanner.scanFiles_eq_of_same h]
  unfold scan FileTree.isProject
  rw [h.isDirectory_eq, h.anyFile_eq, hSurvey]

end Scanner

end GradleMigration
