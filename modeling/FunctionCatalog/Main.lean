import FunctionCatalog.FileTree.Build
import FunctionCatalog.Program
import FunctionCatalog.Tree.Interchange

/-!
# The command line

Everything below the directory that the program is started in is read into a file tree, the program
runs on it, and the file that it wrote is written back. Parsing is left to a parser of the language:
the syntax tree of a file is kept beside it, as JSON, under the name of the file with `.tree` at the
end. A link is kept with what it leads to.
-/

namespace FunctionCatalog

/-- The end of the names of files that hold syntax trees. -/
def treeEnding : String := ".tree"

/-- The file at a path, with the syntax tree that is kept beside it. -/
def loadSource (path : String) : IO Source := do
  let bytes := (← IO.FS.readBinFile path).toList
  let text ← (IO.FS.readFile (path ++ treeEnding)).toBaseIO
  let tree? :=
    match text with
    | .ok text => (Json.parse? text.toList).bind Node.ofJson?
    | .error _ => none
  return { bytes, tree? }

/-- Adds everything below a directory to a file tree. -/
partial def loadBelow (tree : FileTree) (directory : Path) : IO FileTree := do
  let here ← IO.currentDir
  let mut tree := tree
  for entry in ← (here / directory.text).readDir do
    let path := directory.join entry.fileName
    if !entry.fileName.endsWith treeEnding then
      match (← entry.path.symlinkMetadata).type with
      | .dir =>
        tree ← loadBelow ((tree.addDirectory? path).getD tree) path
      | .file => tree := (tree.addFile? path (← loadSource path.text)).getD tree
      | .symlink =>
        if let .ok target ← (IO.FS.realPath entry.path).toBaseIO then
          tree := (tree.addLink? path ⟨target.toString⟩).getD tree
      | .other => pure ()
  return tree

/-- The file tree below the working directory. -/
def loadTree : IO FileTree := do
  let here : Path := ⟨(← IO.currentDir).toString⟩
  let root := (FileTree.addDirectory? {} here).getD {}
  loadBelow { root with workingDirectory := here.parts.filter (· != "") } ⟨"."⟩

end FunctionCatalog

open FunctionCatalog in
/-- Runs the program. -/
def main (arguments : List String) : IO UInt32 := do
  let outcome := runProgram (← loadTree) arguments (← IO.getEnv "SIGHARVEST_CONFIG")
  if let some path := outcome.written? then
    if let .ok source := outcome.tree.read path then
      IO.FS.writeBinFile path.text ⟨source.bytes.toArray⟩
  for line in outcome.output do
    IO.println line
  for line in outcome.errors do
    IO.eprintln line
  return UInt32.ofNat outcome.exitCode
