import FunctionCatalog.CommandLine.Arguments
import FunctionCatalog.Config.Load

/-!
# The program

The program as a function of its arguments and the file tree: what it prints, its exit code, and the
file tree after it. The configuration is loaded before any command is run.
-/

namespace FunctionCatalog

/-- What comes of running the program. -/
structure Outcome where
  /-- The exit code: zero, or one for a failure, or two for wrong arguments. -/
  exitCode : Nat := 0
  /-- The lines on standard output. -/
  output : List String := []
  /-- The lines on standard error. -/
  errors : List String := []
  /-- The file tree. -/
  tree : FileTree
  /-- The file that was opened for writing. -/
  written? : Option Path := none

/-! ## Failures -/

/-- What went wrong, and what was behind it, the outermost cause first. -/
structure Failure where
  /-- What went wrong. -/
  message : String
  /-- What was behind it. -/
  causes : List String := []
deriving DecidableEq, Repr

/-- The lines that report a failure. Causes are numbered if there is more than one. -/
def Failure.lines (failure : Failure) : List String :=
  ("Error: " ++ failure.message) ::
    match failure.causes with
    | [] => []
    | [cause] => ["", "Caused by:", "    " ++ cause]
    | causes =>
      "" :: "Caused by:" :: causes.zipIdx.map fun (cause, place) => s!"    {place}: " ++ cause

/-- The failure to load a configuration. -/
def ConfigError.failure (error : ConfigError) : Failure where
  message := error.message
  causes := error.causes

/-- The failure to extract a file. -/
def ExtractionError.failure (target : Path) (error : ExtractionError) : Failure where
  message := "Failed to extract " ++ target.quoted
  causes := error.message :: (error.cause?.map FileError.message).toList

/-- The failure of a run. -/
def HarvestError.failure (root : Path) (error : HarvestError) : Failure where
  message := "Extraction from " ++ root.quoted ++ " failed"
  causes := error.message :: (error.cause?.map FileError.message).toList

/-! ## Commands -/

/-- The lines that report a run. Numbers of what went wrong are left out if they are zero. -/
def Summary.lines (summary : Summary) (output : Path) : List String :=
  let unlessZero := fun (number : Nat) (line : String) => if number = 0 then [] else [line]
  ["✓ Extraction complete",
    s!"  Work units: {summary.units}",
    s!"  Workers: {summary.workers}",
    s!"  Files parsed: {summary.filesParsed}"]
  ++ unlessZero summary.filesFailed s!"  Files skipped (parse failure): {summary.filesFailed}"
  ++ unlessZero summary.unitsFailed s!"  Units skipped (unreadable): {summary.unitsFailed}"
  ++ unlessZero summary.missingReports s!"  ⚠ Workers lost: {summary.missingReports}"
  ++ [s!"  Unique records: {summary.records}", "  Output: " ++ output.quoted]

/-- Writes the records of a root to a file. -/
def extract (config : Config) (tree : FileTree) (options : RunOptions) : Outcome :=
  match run config tree options with
  | (.ok summary, after) =>
    { output := summary.lines options.output, tree := after, written? := some options.output }
  | (.error error, after) =>
    { exitCode := 1
      errors := (error.failure options.root).lines
      tree := after
      written? := if error.cause?.isSome then none else some options.output }

/-- Prints the records of a file, with a warning if some of their lines are ambiguous. -/
def inspect (config : Config) (tree : FileTree) (target : Path) (format : RecordFormat) :
    Outcome :=
  match config.extractPath tree target with
  | .error error => { exitCode := 1, errors := (error.failure target).lines, tree }
  | .ok records =>
    let conflicts := (records.filter (·.hasDelimiterConflict)).length
    { output := records.map format.encode
      errors :=
        if conflicts = 0 ∨ format ≠ .lines then []
        else
          [s!"Warning: {conflicts} record(s) contain ',' or '|' in a field; "
            ++ "use --format jsonl for an unambiguous encoding"]
      tree }

/-! ## The program -/

/-- The name of the program. -/
def programName : String := "sigharvest"

/-- The version of the program. -/
def programVersion : String := "0.1.0"

/-- The name that a scope goes by. -/
def Scope.title : Scope → String
  | program => programName
  | extract => programName ++ "-extract"
  | inspect => programName ++ "-inspect"

/-- How the program is used. -/
def usage : List String :=
  ["Usage: " ++ programName ++ " [-v] [-c CONFIG] COMMAND",
    "",
    "Commands:",
    "  extract --path-in DIR --file FILE --num-threads N --num-processes N [--format FORMAT]",
    "  inspect TARGET [--format FORMAT]",
    "",
    "Formats: lines, jsonl"]

/-- The text of an error in the arguments. -/
def UsageError.message : UsageError → String
  | noArguments | noCommand => "a command is missing"
  | unknownCommand => "there is no such command"
  | unknownArgument => "an argument is not known"
  | missingOption => "an option is missing"
  | repeated => "an option is given twice"
  | invalidValue => "the value of an option is missing or not allowed"
  | invalidNumber => "a number is not between 1 and 65535"
  | valueOfSwitch => "a switch is given a value"

/-- What the program does instead of running a command. -/
def Notice.outcome (tree : FileTree) : Notice → Outcome
  | help => { output := usage, tree }
  | version scope => { output := [scope.title ++ " " ++ programVersion], tree }
  | misuse error => { exitCode := 2, errors := ("error: " ++ error.message) :: "" :: usage, tree }

/-- Runs an invocation. -/
def Invocation.outcome (invocation : Invocation) (tree : FileTree) : Outcome :=
  match Config.load tree invocation.config? with
  | .error error => { exitCode := 1, errors := error.failure.lines, tree }
  | .ok config =>
    match invocation.command with
    | .extract options => extract config tree options
    | .inspect target format => inspect config tree target format

/-- Runs the program on its arguments. The fallback is the path of a configuration for when they
name none. -/
def runProgram (tree : FileTree) (arguments : List String) (fallback? : Option String) : Outcome :=
  match Invocation.ofArguments arguments fallback? with
  | .error notice => notice.outcome tree
  | .ok invocation => invocation.outcome tree

end FunctionCatalog
