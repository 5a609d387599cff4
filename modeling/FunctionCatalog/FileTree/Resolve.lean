import FunctionCatalog.FileTree.Basic

/-!
# Where a path leads

A path is walked part by part. Links are followed wherever they stand, the last part included, and
the parts of a link's target take the place of the link. Empty parts and dots stay where they are;
two dots lead to the parent, and from the root to the root. What stands in the middle of a path has
to be a directory, and a slash at the end asks for one too.

A walk ends because every link that is followed is counted and there is a limit to their number.
-/

namespace FunctionCatalog

/-- Where a path leads. -/
inductive Place where
  /-- To a directory. -/
  | directory (location : Location)
  /-- To a file. -/
  | file (location : Location) (source : Source)
  /-- To a name in a directory that nothing has yet. -/
  | vacant (location : Location)
deriving Repr

/-- What a path is walked for. -/
inductive Purpose where
  /-- To use what is there. -/
  | finding
  /-- To write a file. A path that ends in a slash names a directory, so it is refused whether or
  not there is something. -/
  | writing
deriving DecidableEq, Repr

namespace FileTree

/-- The number of links that one path may lead through. -/
def maxLinks : Nat := 40

/-- The number of bytes that a name may have. -/
def maxNameSize : Nat := 255

/-- The number of bytes that a path may have. -/
def maxPathSize : Nat := 4095

/-- The location that the first part of a path is looked up in: the root for an absolute path, and
`here` for any other. -/
def origin (path : Path) (here : Location) : Location :=
  if path.isAbsolute then [] else here

/-- Walks the parts of a path, starting in the directory `here`, through at most `links` links. -/
def walk (tree : FileTree) (purpose : Purpose) :
    (links : Nat) → (here : Location) → (parts : List String) → Except FileError Place
  | _, here, [] => .ok (.directory here)
  | links, here, part :: rest =>
    if part = "" ∨ part = "." then tree.walk purpose links here rest
    else if part = ".." then tree.walk purpose links here.dropLast rest
    else if purpose = .writing ∧ rest ≠ [] ∧ rest.all (· = "") then .error .isDirectory
    else if maxNameSize < part.utf8ByteSize then .error .nameTooLong
    else
      match tree.get? (here ++ [part]) with
      | none => if rest = [] then .ok (.vacant (here ++ [part])) else .error .notFound
      | some .directory => tree.walk purpose links (here ++ [part]) rest
      | some (.file source) =>
        if rest = [] then .ok (.file (here ++ [part]) source) else .error .notDirectory
      | some (.link target) =>
        match links with
        | 0 => .error .tooManyLinks
        | links + 1 => tree.walk purpose links (origin target here) (target.parts ++ rest)
termination_by links _ parts => (links, parts.length)

/-- Where a path leads, for a purpose. -/
def resolve (tree : FileTree) (purpose : Purpose) (path : Path) : Except FileError Place :=
  if path.text.toList.contains '\x00' then .error .nulInName
  else if path.text = "" then .error .notFound
  else if maxPathSize < path.text.utf8ByteSize then .error .nameTooLong
  else tree.walk purpose maxLinks (origin path tree.workingDirectory) path.parts

end FileTree

end FunctionCatalog
