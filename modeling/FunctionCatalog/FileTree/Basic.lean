import FunctionCatalog.Path
import FunctionCatalog.Tree.Node

/-!
# File trees

A file system as a value: what stands at each location. A location is given by the names on the way
to it from the root, so it is free of links, dots and slashes. The view of a tree is `get?`; writing
changes it at one location only.

## Main results

* `get?_put_self`, `get?_put_ne` — a write is seen at its location and nowhere else.
-/

namespace FunctionCatalog

/-! ## Sources

What is in a file. Parsing is the work of a grammar's parser, which is no part of this library: a
source brings the tree that such a parser gives for it. -/

/-- The contents of a file: its bytes, and the syntax tree that a parser of its language gives for
them once their linkage guards are masked. A file that no parser was run on has no tree. -/
structure Source where
  /-- The bytes. -/
  bytes : Bytes
  /-- The tree of the masked bytes. -/
  tree? : Option Node := none
deriving Repr

/-- The source of an empty file. Every grammar takes it for a translation unit of no items. -/
def Source.empty : Source where
  bytes := []
  tree? := some {
    kind := .other "translation_unit"
    start := 0
    stop := 0
    isNamed := true
    hasError := false
    field? := none
    children := [] }

/-! ## Errors of the file system -/

/-- Why an operation on a file fails. -/
inductive FileError where
  /-- There is nothing at the path. -/
  | notFound
  /-- The path leads through something that is no directory. -/
  | notDirectory
  /-- There is a directory where a file is needed. -/
  | isDirectory
  /-- A part of the path is too long for a name, or the path as a whole. -/
  | nameTooLong
  /-- The path leads through too many links. -/
  | tooManyLinks
  /-- The path holds a NUL, which no name can. -/
  | nulInName
deriving DecidableEq, Repr

/-- The text of an error. -/
def FileError.message : FileError → String
  | notFound => "No such file or directory (os error 2)"
  | notDirectory => "Not a directory (os error 20)"
  | isDirectory => "Is a directory (os error 21)"
  | nameTooLong => "File name too long (os error 36)"
  | tooManyLinks => "Too many levels of symbolic links (os error 40)"
  | nulInName => "file name contained an unexpected NUL byte"

/-! ## Locations and entries -/

/-- The names on the way from the root. -/
abbrev Location := List String

/-- What stands at a location. -/
inductive Entry where
  /-- A file. -/
  | file (source : Source)
  /-- A directory. -/
  | directory
  /-- A link to a path, which counts from the directory that the link stands in. -/
  | link (target : Path)
deriving Repr

/-! ## Tables with one entry a location -/

namespace FileTree

/-- A table with the entry at a location replaced, or added at the end. -/
def putIn (location : Location) (entry : Entry) : List (Location × Entry) → List (Location × Entry)
  | [] => [(location, entry)]
  | (other, old) :: rest =>
    if other = location then (location, entry) :: rest
    else (other, old) :: putIn location entry rest

theorem keys_putIn (location : Location) (entry : Entry) (table : List (Location × Entry)) :
    (putIn location entry table).map Prod.fst =
      if location ∈ table.map Prod.fst then table.map Prod.fst
      else table.map Prod.fst ++ [location] := by
  induction table with
  | nil => simp [putIn]
  | cons head rest ih =>
    obtain ⟨other, old⟩ := head
    by_cases h : other = location
    · simp [putIn, h]
    · simp only [putIn, if_neg h, List.map_cons, List.mem_cons, ih, Ne.symm h, false_or]
      split <;> simp

private theorem lookup_cons (key other : Location) (entry : Entry)
    (rest : List (Location × Entry)) :
    ((key, entry) :: rest).lookup other =
      if other = key then some entry else rest.lookup other := by
  rw [List.lookup_cons]
  by_cases h : other = key
  · rw [if_pos h, h, beq_self_eq_true]
  · rw [if_neg h, beq_eq_false_iff_ne.2 h]

theorem lookup_putIn (location other : Location) (entry : Entry)
    (table : List (Location × Entry)) :
    (putIn location entry table).lookup other =
      if other = location then some entry else table.lookup other := by
  induction table with
  | nil => rw [putIn, lookup_cons]
  | cons head rest ih =>
    obtain ⟨key, old⟩ := head
    rw [putIn]
    split
    · next hkey =>
      rw [lookup_cons, lookup_cons, hkey]
      split <;> rfl
    · next hkey =>
      rw [lookup_cons, lookup_cons, ih]
      by_cases h : other = key
      · subst h
        simp [hkey]
      · simp [h]

end FileTree

/-! ## Trees -/

/-- A file system, and the directory in it that relative paths start from. -/
structure FileTree where
  /-- What stands where. The root is a directory without an entry of its own. -/
  entries : List (Location × Entry) := []
  /-- Where relative paths start. -/
  workingDirectory : Location := []
  /-- Nothing stands where something else does. -/
  nodup : (entries.map Prod.fst).Nodup := by simp

namespace FileTree

/-- What stands at a location. -/
def get? (tree : FileTree) (location : Location) : Option Entry :=
  if location = [] then some .directory else tree.entries.lookup location

/-- Puts an entry at a location, in place of what stood there. -/
def put (tree : FileTree) (location : Location) (entry : Entry) : FileTree where
  entries := putIn location entry tree.entries
  workingDirectory := tree.workingDirectory
  nodup := by
    have h := tree.nodup
    rw [keys_putIn]
    split
    · exact h
    · next hmem =>
      exact List.nodup_append.2 ⟨h, by simp, fun a ha b hb hab => hmem (by
        rw [List.mem_singleton] at hb
        rwa [hab, hb] at ha)⟩

/-- The name of a location in a directory, if it stands right inside. -/
def nameIn? (directory location : Location) : Option String :=
  if location.dropLast = directory then location.getLast? else none

theorem nameIn?_eq_some_iff {directory location : Location} {name : String} :
    nameIn? directory location = some name ↔ location = directory ++ [name] := by
  unfold nameIn?
  constructor
  · intro h
    split at h
    · next hdirectory =>
      obtain ⟨front, rfl⟩ := List.getLast?_eq_some_iff.1 h
      rw [← hdirectory, List.dropLast_concat]
    · cases h
  · rintro rfl
    simp

/-- The names in a directory. -/
def names (tree : FileTree) (directory : Location) : List String :=
  tree.entries.filterMap fun (location, _) => nameIn? directory location

@[simp] theorem get?_root (tree : FileTree) : tree.get? [] = some .directory := by
  simp [get?]

@[simp] theorem workingDirectory_put (tree : FileTree) (location : Location) (entry : Entry) :
    (tree.put location entry).workingDirectory = tree.workingDirectory := rfl

/-- What was put is what is found. -/
theorem get?_put_self (tree : FileTree) {location : Location} (entry : Entry)
    (h : location ≠ []) : (tree.put location entry).get? location = some entry := by
  simp [get?, put, lookup_putIn, h]

/-- Other locations keep what they had. -/
theorem get?_put_ne (tree : FileTree) {location other : Location} (entry : Entry)
    (h : other ≠ location) : (tree.put location entry).get? other = tree.get? other := by
  simp [get?, put, lookup_putIn, h]

theorem names_eq (tree : FileTree) (directory : Location) :
    tree.names directory = (tree.entries.map Prod.fst).filterMap (nameIn? directory) := by
  rw [names, List.filterMap_map]
  rfl

end FileTree

end FunctionCatalog
