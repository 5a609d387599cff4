import FunctionCatalog.FileTree.Access

/-!
# Building file trees

Adding directories, files and links by their paths. Parents that are missing are made. There is no
result where a path leads through a file, nowhere, or to something that is in the way.
-/

namespace FunctionCatalog

namespace FileTree

/-- Makes a directory whose parent is there, unless there is one already. -/
def makeDirectory (tree : FileTree) (path : Path) : Option FileTree :=
  match tree.resolve .finding path with
  | .ok (.directory _) => some tree
  | .ok (.vacant location) => some (tree.put location .directory)
  | _ => none

/-- The paths on the way along some parts, below `path`. -/
def pathsAlong (path : Path) : List String → List Path
  | [] => []
  | part :: rest =>
    let next := if path.text = "" ∧ part = "" then ⟨"/"⟩ else path.join part
    next :: pathsAlong next rest

/-- Makes the directories along some parts. -/
def addDirectories (tree : FileTree) (parts : List String) : Option FileTree :=
  (pathsAlong ⟨""⟩ parts).foldlM makeDirectory tree

/-- Makes the directory at a path. -/
def addDirectory? (tree : FileTree) (path : Path) : Option FileTree :=
  tree.addDirectories path.parts

/-- Writes the file at a path. -/
def addFile? (tree : FileTree) (path : Path) (source : Source) : Option FileTree := do
  let tree ← tree.addDirectories path.parts.dropLast
  let (location, tree) ← (tree.openEmpty path).toOption
  some (tree.put location (.file source))

/-- Makes a link at a path that nothing has yet. -/
def addLink? (tree : FileTree) (path target : Path) : Option FileTree := do
  let tree ← tree.addDirectories path.parts.dropLast
  let name ← path.fileName?
  let .ok (.directory here) := tree.find path.parent | none
  if (tree.get? (here ++ [name])).isSome then none
  else some (tree.put (here ++ [name]) (.link target))

end FileTree

end FunctionCatalog
