import FunctionCatalog.Config.Basic
import FunctionCatalog.Extraction.Walk
import FunctionCatalog.FileTree.Access
import FunctionCatalog.LinkageGuard

/-!
# Extracting a file

A file is chosen by its extension, its linkage guards are masked, and the tree of the masked bytes
is walked. Syntax errors fail the whole file unless partial recovery is on and something could be
kept.
-/

namespace FunctionCatalog

/-- Why a file gives no records. -/
inductive ExtractionError where
  /-- No grammar is configured for the extension of the path. -/
  | unsupportedExtension (path : Path)
  /-- The file cannot be read. -/
  | unreadable (path : Path) (cause : FileError)
  /-- There is no tree for the file. -/
  | noTree (path : Path)
  /-- The file has syntax errors and nothing could be kept. -/
  | malformed (path : Path)
deriving DecidableEq, Repr

namespace ExtractionError

/-- The text of an error. -/
def message : ExtractionError → String
  | unsupportedExtension path => "Unsupported file extension: " ++ path.quoted
  | unreadable path cause => "Failed to read " ++ path.quoted ++ ": " ++ cause.message
  | noTree path => "Parser produced no tree for " ++ path.quoted
  | malformed path => "Syntax errors in " ++ path.quoted

/-- Whether the file never was a candidate. -/
def isSkip : ExtractionError → Bool
  | unsupportedExtension _ => true
  | _ => false

/-- The error of the file system behind an error. -/
def cause? : ExtractionError → Option FileError
  | unreadable _ cause => some cause
  | _ => none

end ExtractionError

namespace Config

/-- The names that every file in a language starts with. -/
def naming (config : Config) (lang : Language) : Naming where
  lang := lang
  aliases := .ofList config.typeAliases

/-- The records of a tree whose file is given by its masked bytes. -/
def recordsOfTree (config : Config) (lang : Language) (masked : Bytes) (root : Node) :
    List FunctionRecord :=
  (root.walkItems masked (config.naming lang)).records

/-- The records of the functions declared in a file, in source order. -/
def extractFile (config : Config) (path : Path) (source : Source) :
    Except ExtractionError (List FunctionRecord) :=
  match config.languageFor? path with
  | none => .error (.unsupportedExtension path)
  | some lang =>
    match source.tree? with
    | none => .error (.noTree path)
    | some root =>
      if root.hasError && !config.recoverPartial then .error (.malformed path)
      else
        let records := config.recordsOfTree lang (maskLinkageGuards source.bytes) root
        if root.hasError && records.isEmpty then .error (.malformed path) else .ok records

end Config

/-! ## Extracting what is at a path

The extension is looked at first, so a file that no grammar reads is not even touched. -/

/-- The records of the functions declared in the file at a path, in source order. -/
def Config.extractPath (config : Config) (tree : FileTree) (path : Path) :
    Except ExtractionError (List FunctionRecord) :=
  match config.languageFor? path with
  | none => .error (.unsupportedExtension path)
  | some _ =>
    match tree.read path with
    | .error cause => .error (.unreadable path cause)
    | .ok source => config.extractFile path source

end FunctionCatalog
