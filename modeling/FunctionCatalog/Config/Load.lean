import FunctionCatalog.FileTree.Access
import FunctionCatalog.Toml.Document

/-!
# Loading a configuration

A configuration is kept in a file, as a document in TOML. Without a file everything has its default.
-/

namespace FunctionCatalog

/-- Why a configuration cannot be loaded. -/
inductive ConfigError where
  /-- The file cannot be read. -/
  | unreadable (path : Path) (cause : FileError)
  /-- The file is not UTF-8. -/
  | notText (path : Path)
  /-- The file is no document, or its settings are not of the right types. -/
  | malformed (path : Path)
deriving DecidableEq, Repr

namespace ConfigError

/-- The text of an error. -/
def message : ConfigError → String
  | unreadable path _ | notText path => "Failed to read config file: " ++ path.quoted
  | malformed path => "Failed to parse config file: " ++ path.quoted

/-- The texts of what is behind an error. -/
def causes : ConfigError → List String
  | unreadable _ cause => [cause.message]
  | notText _ => ["stream did not contain valid UTF-8"]
  | malformed _ => []

end ConfigError

namespace Config

/-- The configuration in the text of a file. -/
def ofText? (text : List Char) : Option Config :=
  (Toml.document? text).bind (ofSetting? .ignored)

/-- The configuration in the file at a path, or the default without one. -/
def load (tree : FileTree) : Option Path → Except ConfigError Config
  | none => .ok {}
  | some path =>
    match tree.read path with
    | .error cause => .error (.unreadable path cause)
    | .ok source =>
      match Utf8.decode source.bytes with
      | none => .error (.notText path)
      | some text =>
        match ofText? text with
        | none => .error (.malformed path)
        | some config => .ok config

end Config

end FunctionCatalog
