import FunctionCatalog.Harvest.Queue
import FunctionCatalog.Proofs.FileTree.Overwrite
import Mathlib.Data.List.Basic

/-!
# Around an opened file

A file is opened where there was a file or nothing. Paths that lead elsewhere lead to the same
places as before, and at most one directory has one more name, which stands for the file. So there
are the same directories in every directory, and a harvest has the same units wherever its output
lies.

## Main results

* `FileTree.find_openEmpty_iff` — paths to other places than the file.
* `FileTree.names_put` — the names in a directory once something has been written.
* `FileTree.member?_openEmpty` — other files in a directory.
* `FileTree.units_openEmpty` — the units of a root.
-/

namespace FunctionCatalog

namespace FileTree

variable {tree opened : FileTree} {output : Path} {location : Location}

/-! ## Paths -/

theorem find_eq_ok_iff {path : Path} {place : Place} :
    tree.find path = .ok place ↔
      tree.resolve .finding path = .ok place ∧ ∀ vacancy, place ≠ .vacant vacancy := by
  unfold find
  cases tree.resolve .finding path with
  | error cause => simp
  | ok found => cases found <;> simp <;> rintro rfl <;> simp

/-- Paths to other places than the opened file lead there as before. -/
theorem find_openEmpty_iff (h : tree.openEmpty output = .ok (location, opened)) {path : Path}
    {place : Place} (hOther : writtenAt? place ≠ some location) :
    opened.find path = .ok place ↔ tree.find path = .ok place := by
  obtain ⟨-, hFree⟩ := get?_of_openEmpty h
  obtain ⟨-, rfl⟩ := openEmpty_eq_ok_iff.1 h
  rw [find_eq_ok_iff, find_eq_ok_iff, resolve_put_iff hFree hOther]

/-! ## Directories -/

/-- A directory has at most one more name once something has been written. -/
theorem names_put (tree : FileTree) (location : Location) (entry : Entry) (directory : Location) :
    (tree.put location entry).names directory =
      if location ∈ tree.entries.map Prod.fst then tree.names directory
      else tree.names directory ++ (nameIn? directory location).toList := by
  rw [names_eq, names_eq, put, keys_putIn]
  split
  · rfl
  · rw [List.filterMap_append]
    cases hName : nameIn? directory location <;> simp [hName]

private theorem member?_link {here : Location} {path : Path} {name : String} {target : Path}
    {place : Place} (hEntry : tree.get? (here ++ [name]) = some (.link target)) :
    tree.member? here path name = some place ↔
      tree.find path = .ok place ∧ place ≠ .directory here := by
  rw [member?, hEntry]
  cases tree.find path with
  | error cause => simp
  | ok found =>
      cases found with
      | directory location => by_cases hHere : location = here <;> grind
      | file location source => simp; rintro rfl; simp
      | vacant location => simp; rintro rfl; simp

/-- A name stands for other places than the opened file as before. -/
theorem member?_openEmpty_iff (h : tree.openEmpty output = .ok (location, opened)) {here : Location}
    {path : Path} {name : String} {place : Place} (hOther : writtenAt? place ≠ some location) :
    opened.member? here path name = some place ↔ tree.member? here path name = some place := by
  obtain ⟨hRoot, hFree⟩ := get?_of_openEmpty h
  have hOpened := (openEmpty_eq_ok_iff.1 h).2
  by_cases hHere : here ++ [name] = location
  · -- the name is that of the opened file, before and after, if it stood for something before
    have hFile : opened.get? (here ++ [name]) = some (.file .empty) := by
      rw [hHere, hOpened, get?_put_self _ _ hRoot]
    have hNot : ∀ source, some (Place.file (here ++ [name]) source) ≠ some place := by
      rintro source hPlace
      rw [← Option.some.inj hPlace, hHere] at hOther
      exact hOther rfl
    rw [← hHere] at hFree
    rw [member?, member?, hFile]
    rcases hFree with hNone | ⟨old, hOld⟩
    · rw [hNone]
      exact ⟨fun hPlace => absurd hPlace (hNot _), nofun⟩
    · rw [hOld]
      exact ⟨fun hPlace => absurd hPlace (hNot _), fun hPlace => absurd hPlace (hNot _)⟩
  · have hSame : opened.get? (here ++ [name]) = tree.get? (here ++ [name]) := by
      rw [hOpened, get?_put_ne _ _ hHere]
    cases hEntry : tree.get? (here ++ [name]) with
    | none => rw [member?, member?, hSame, hEntry]
    | some entry =>
        cases entry with
        | link target =>
            rw [member?_link (hSame.trans hEntry), member?_link hEntry,
              find_openEmpty_iff h hOther]
        | file source => rw [member?, member?, hSame, hEntry]
        | directory => rw [member?, member?, hSame, hEntry]

/-! ## Units -/

/-- The unit that a name in a root stands for. -/
def unit? (tree : FileTree) (root : Path) (here : Location) (name : String) : Option WorkUnit :=
  match tree.member? here (root.join name) name with
  | some (.directory _) => some (.inRoot root name)
  | _ => none

private theorem unit?_eq_some_iff {root : Path} {here : Location} {name : String}
    {unit : WorkUnit} :
    tree.unit? root here name = some unit ↔
      (∃ location, tree.member? here (root.join name) name = some (.directory location)) ∧
        .inRoot root name = unit := by
  rw [unit?]
  cases tree.member? here (root.join name) name with
  | none => simp
  | some place => cases place <;> simp

/-- A name that stands for a file or for nothing is no unit. -/
theorem unit?_of_free (root : Path) {here : Location} {name : String}
    (hFree : tree.get? (here ++ [name]) = none ∨
      ∃ source, tree.get? (here ++ [name]) = some (.file source)) :
    tree.unit? root here name = none := by
  rw [unit?, member?]
  rcases hFree with hNone | ⟨source, hFile⟩
  · rw [hNone]
  · rw [hFile]

private theorem units_of_directory {root : Path} {here : Location}
    (h : tree.find root = .ok (.directory here)) :
    tree.units root = .ok ((tree.names here).filterMap (tree.unit? root here)) := by
  rw [units, isDirectory, members, h]
  simp only [bind, Except.bind, List.filterMap_filterMap]
  refine congrArg Except.ok (List.filterMap_congr fun name _ => ?_)
  rw [unit?]
  cases tree.member? here (root.join name) name with
  | none => rfl
  | some place => cases place <;> rfl

private theorem units_of_not_directory {root : Path}
    (h : ∀ here, tree.find root ≠ .ok (.directory here)) :
    tree.units root = .error (.noRoot root) := by
  rw [units, isDirectory]
  cases hFind : tree.find root with
  | error cause => rfl
  | ok place =>
      cases place with
      | directory here => exact absurd hFind (h here)
      | file location source => rfl
      | vacant location => rfl

/-- Opening a file for writing leaves the units of every root as they are. -/
theorem units_openEmpty (h : tree.openEmpty output = .ok (location, opened)) (root : Path) :
    opened.units root = tree.units root := by
  have hRoot : ∀ here, opened.find root = .ok (.directory here) ↔
      tree.find root = .ok (.directory here) := fun here => find_openEmpty_iff h nofun
  by_cases hDirectory : ∃ here, tree.find root = .ok (.directory here)
  · obtain ⟨here, hHere⟩ := hDirectory
    have hUnit : opened.unit? root here = tree.unit? root here := by
      funext name
      refine Option.ext fun unit => ?_
      rw [unit?_eq_some_iff, unit?_eq_some_iff]
      exact and_congr_left' (exists_congr fun _ => member?_openEmpty_iff h nofun)
    have hNames : (opened.names here).filterMap (tree.unit? root here) =
        (tree.names here).filterMap (tree.unit? root here) := by
      obtain ⟨-, hOpened⟩ := openEmpty_eq_ok_iff.1 h
      rw [hOpened, names_put]
      split
      · rfl
      · -- a name that is new stands for the opened file
        rw [List.filterMap_append, List.append_right_eq_self]
        refine List.filterMap_eq_nil_iff.2 fun name hName => unit?_of_free root ?_
        rw [Option.mem_toList, nameIn?_eq_some_iff] at hName
        exact hName ▸ (get?_of_openEmpty h).2
    rw [units_of_directory hHere, units_of_directory ((hRoot here).2 hHere), hUnit, hNames]
  · rw [not_exists] at hDirectory
    rw [units_of_not_directory hDirectory,
      units_of_not_directory fun here hHere => hDirectory here ((hRoot here).1 hHere)]

end FileTree

end FunctionCatalog
