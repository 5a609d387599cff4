import FunctionCatalog.Harvest.Summary
import FunctionCatalog.Record.Format

/-!
# A run

A harvest whose records are written to a file. The output is opened first, so that it is known to be
writable before any work is done. It is empty from then on, and so it is when the harvest
comes across it.
-/

namespace FunctionCatalog

/-! ## Written records

Records are written one a line. Different records may have the same line, and no line is written
twice. -/

/-- The first occurrences of the items of a list that are not in `seen`. -/
def firstOccurrences (seen : Std.HashSet String) : List String → List String
  | [] => []
  | item :: rest =>
    if seen.contains item then firstOccurrences seen rest
    else item :: firstOccurrences (seen.insert item) rest

/-- The distinct lines of some records, in the order in which they come up. -/
def RecordFormat.lineSet (format : RecordFormat) (records : List FunctionRecord) : List String :=
  firstOccurrences ∅ (records.map format.encode)

/-- Lines as bytes, each with a line end. -/
def encodeLines (lines : List String) : Bytes :=
  lines.flatMap fun line => Utf8.encode line ++ [0x0A]

/-- Opens the output at a path. -/
def FileTree.openOutput (tree : FileTree) (output : Path) :
    Except HarvestError (Location × FileTree) :=
  (tree.openEmpty output).mapError (.noOutput output)

/-- Fills an output with some records. With the number of lines. -/
def FileTree.writeRecords (tree : FileTree) (location : Location) (format : RecordFormat)
    (records : List FunctionRecord) : Nat × FileTree :=
  let lines := format.lineSet records
  (lines.length, tree.fill location (encodeLines lines))

/-! ## Runs -/

/-- What a run is asked to do. -/
structure RunOptions where
  /-- The directory whose directories are the units. -/
  root : Path
  /-- The file that is written. -/
  output : Path
  /-- The pool. -/
  pool : Pool
  /-- How records are written. -/
  format : RecordFormat

/-- A harvest whose records are written to a file, and the file tree after it. In the summary,
`records` is the number of lines written. -/
def run (config : Config) (tree : FileTree) (options : RunOptions) :
    Except HarvestError Summary × FileTree :=
  match tree.openOutput options.output with
  | .error error => (.error error, tree)
  | .ok (location, tree) =>
    match harvest config tree options.root options.pool with
    | .error error => (.error error, tree)
    | .ok (records, summary) =>
      let (written, tree) := tree.writeRecords location options.format records.toList
      (.ok { summary with records := written }, tree)

end FunctionCatalog
