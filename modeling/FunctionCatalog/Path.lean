import FunctionCatalog.Text.Quoted

/-!
# Paths

A path is kept as it was written, since that is how it is shown. What it means is read off its
parts, the texts between slashes: an empty part and a `.` stay where they are. Paths are texts, so
names of files whose bytes are not UTF-8 have no path here.
-/

namespace FunctionCatalog

/-- A path as it was written. -/
structure Path where
  /-- The text of the path. -/
  text : String
deriving DecidableEq, Repr

namespace Path

/-- The texts between the slashes. -/
def parts (path : Path) : List String :=
  path.text.splitOn "/"

/-- The part that names what the path leads to, unless the path ends with `..` or names nothing. -/
def fileName? (path : Path) : Option String :=
  ((path.parts.filter fun part => part != "" && part != ".").getLast?).filter (· != "..")

/-- What follows the last dot of a name, if something stands in front of that dot. -/
def extensionOf? (name : List Char) : Option (List Char) :=
  match name.reverse.dropWhile (· != '.') with
  | _ :: _ :: _ => some (name.reverse.takeWhile (· != '.')).reverse
  | _ => none

/-- The extension of the file that the path names. -/
def extension? (path : Path) : Option (List Char) :=
  path.fileName?.bind fun name => extensionOf? name.toList

/-- Whether the path starts at the root of the file system. -/
def isAbsolute (path : Path) : Bool :=
  path.text.startsWith "/"

/-- The path of a name below a directory. An absolute name stands for itself. -/
def join (directory : Path) (name : String) : Path :=
  if name.startsWith "/" || directory.text = "" then ⟨name⟩
  else if directory.text.endsWith "/" then ⟨directory.text ++ name⟩
  else ⟨directory.text ++ "/" ++ name⟩

/-- The path of the directory that a path's last part is looked up in. -/
def parent (path : Path) : Path :=
  match path.parts.dropLast with
  | [] => ⟨"."⟩
  | [""] => ⟨"/"⟩
  | parts => ⟨"/".intercalate parts⟩

/-- The path in double quotes. -/
def quoted (path : Path) : String :=
  FunctionCatalog.quoted path.text

end Path

end FunctionCatalog
