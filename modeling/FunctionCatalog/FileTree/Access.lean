import FunctionCatalog.FileTree.Resolve

/-!
# Reading and writing

What a program does with a file tree: read a file, list what stands in a directory, and write a
file. A file is written in two steps. Opening it empties it, or creates it empty, and from then on
it is known by its location; writing fills it.
-/

namespace FunctionCatalog

namespace FileTree

/-- What a path leads to, which has to be there. -/
def find (tree : FileTree) (path : Path) : Except FileError Place :=
  match tree.resolve .finding path with
  | .ok (.vacant _) => .error .notFound
  | result => result

/-- Whether a path leads to a directory. -/
def isDirectory (tree : FileTree) (path : Path) : Bool :=
  match tree.find path with
  | .ok (.directory _) => true
  | _ => false

/-- The contents of the file at a path. -/
def read (tree : FileTree) (path : Path) : Except FileError Source := do
  match ← tree.find path with
  | .file _ source => .ok source
  | .directory _ => .error .isDirectory
  | .vacant _ => .error .notFound

/-! ## Listing -/

/-- What a name in a directory stands for, where `path` is the path of the name and `here` the
location of the directory. A link stands for what it leads to; one that leads nowhere, or back to
the directory itself, stands for nothing. -/
def member? (tree : FileTree) (here : Location) (path : Path) (name : String) : Option Place :=
  match tree.get? (here ++ [name]) with
  | none => none
  | some .directory => some (.directory (here ++ [name]))
  | some (.file source) => some (.file (here ++ [name]) source)
  | some (.link _) =>
    match tree.find path with
    | .ok (.directory location) => if location = here then none else some (.directory location)
    | .ok place => some place
    | .error _ => none

/-- The names in the directory at a path, with what they stand for. A file holds no names. -/
def members (tree : FileTree) (path : Path) : Except FileError (List (String × Place)) := do
  match ← tree.find path with
  | .directory here =>
    .ok ((tree.names here).filterMap fun name =>
      (tree.member? here (path.join name) name).map (name, ·))
  | _ => .ok []

/-! ## Writing -/

/-- Opens the file at a path for writing: its location, and the tree in which it is empty. -/
def openEmpty (tree : FileTree) (path : Path) : Except FileError (Location × FileTree) := do
  match ← tree.resolve .writing path with
  | .directory _ => .error .isDirectory
  | .file location _ => .ok (location, tree.put location (.file .empty))
  | .vacant location => .ok (location, tree.put location (.file .empty))

/-- Fills the file at a location. -/
def fill (tree : FileTree) (location : Location) (bytes : Bytes) : FileTree :=
  tree.put location (.file (if bytes = [] then .empty else { bytes }))

end FileTree

end FunctionCatalog
