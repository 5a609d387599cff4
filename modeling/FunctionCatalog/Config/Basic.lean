import FunctionCatalog.Tree.Kind
import FunctionCatalog.Path
import FunctionCatalog.Text.Lowercase

/-!
# Configuration

Which files are read, by which grammar, what becomes of files with syntax errors, and what further
type names stand for. The grammar is chosen by the extension of a file's name: its lower case is
looked for among the configured extensions, where the case of ASCII letters does not count. C comes
first for an extension listed twice.
-/

namespace FunctionCatalog

/-- The extensions of each language, without the dot. -/
structure Extensions where
  /-- The extensions of C. -/
  c : List String := ["c", "h"]
  /-- The extensions of C++. -/
  cpp : List String := ["cc", "cpp", "cxx", "c++", "hh", "hpp", "hxx", "h++"]
deriving DecidableEq, Repr

/-- The settings of a run. -/
structure Config where
  /-- Which files are read by which grammar. -/
  extensions : Extensions := {}
  /-- Whether declarations without errors are kept from files with syntax errors. -/
  recoverPartial : Bool := true
  /-- The time allowed for parsing one file, in milliseconds. Zero sets no limit. -/
  parseTimeout : Nat := 0
  /-- Further type names, with the spelling of the type that each stands for. -/
  typeAliases : List (String × String) := []
deriving DecidableEq, Repr

/-- Whether two texts differ at most in the case of ASCII letters. -/
def equalUpToAsciiCase (a b : List Char) : Bool :=
  a.map Char.toLower == b.map Char.toLower

namespace Config

/-- The limit on the time for parsing one file, if there is one. -/
def parseTimeout? (config : Config) : Option Nat :=
  if config.parseTimeout = 0 then none else some config.parseTimeout

/-- Whether an extension in lower case is among the given ones. -/
def lists (extensions : List String) (lower : List Char) : Bool :=
  extensions.any fun extension => equalUpToAsciiCase extension.toList lower

/-- The language whose grammar reads files with the given extension. -/
def languageOfExtension? (config : Config) (extension : List Char) : Option Language :=
  let lower := lowercase extension
  if lists config.extensions.c lower then some .c
  else if lists config.extensions.cpp lower then some .cpp
  else none

/-- The language whose grammar reads the file at a path. There is none for an extension that is not
UTF-8, which the extension of a `Path` always is. -/
def languageFor? (config : Config) (path : Path) : Option Language :=
  path.extension?.bind config.languageOfExtension?

end Config

end FunctionCatalog
