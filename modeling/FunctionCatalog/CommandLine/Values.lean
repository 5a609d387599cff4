import FunctionCatalog.CommandLine.Basic

/-!
# Values of options

An option can be given once in its scope. Which values it takes depends on the option: a path may
not be empty, a number of workers is written in decimal digits and has sixteen bits, and a format
goes by its name.
-/

namespace FunctionCatalog

/-- An option, which has a value. -/
inductive ValueOption where
  /-- The file of the configuration. -/
  | config
  /-- The root of the units. -/
  | pathIn
  /-- The output. -/
  | file
  /-- The number of workers in each outer context. -/
  | numThreads
  /-- The number of outer contexts. -/
  | numProcesses
  /-- How records are written. -/
  | format
  /-- The file whose records are printed. It goes by its place and has no name. -/
  | target
deriving DecidableEq, Repr

/-- A switch, which has no value. -/
inductive Switch where
  /-- More is to be logged. -/
  | verbose
  /-- How the program is used. -/
  | help
  /-- Which version it is. -/
  | version
deriving DecidableEq, Repr

/-- A number of something that there has to be at least one of. -/
abbrev Count := { number : UInt16 // 0 < number }

theorem Count.toUInt64_pos (count : Count) : 0 < count.val.toUInt64 := by
  rw [UInt64.lt_iff_toNat_lt, UInt16.toNat_toUInt64]
  exact UInt16.lt_iff_toNat_lt.1 count.property

/-- The values that have been given in a scope. -/
structure Values where
  /-- Whether more is to be logged. -/
  isVerbose : Bool := false
  /-- The file of the configuration. -/
  config? : Option Path := none
  /-- The root of the units. -/
  pathIn? : Option Path := none
  /-- The output. -/
  file? : Option Path := none
  /-- The number of workers in each outer context. -/
  numThreads? : Option Count := none
  /-- The number of outer contexts. -/
  numProcesses? : Option Count := none
  /-- How records are written. -/
  format? : Option RecordFormat := none
  /-- The file whose records are printed. -/
  target? : Option Path := none

/-! ## Reading values -/

/-- A path. -/
def readPath (text : String) : Except Notice Path :=
  if text = "" then .error (.misuse .invalidValue) else .ok ⟨text⟩

/-- A format. -/
def readFormat (text : String) : Except Notice RecordFormat :=
  if text = "lines" then .ok .lines
  else if text = "jsonl" then .ok .jsonl
  else .error (.misuse .invalidValue)

/-- The digits of a number, which may have a plus in front. -/
def countDigits (text : String) : List Char :=
  match text.toList with
  | '+' :: digits => digits
  | digits => digits

/-- The number that decimal digits write. -/
def countOfDigits (digits : List Char) : Nat :=
  digits.foldl (fun value c => 10 * value + (c.toNat - '0'.toNat)) 0

/-- A number of workers. -/
def readCount (text : String) : Except Notice Count :=
  let digits := countDigits text
  let number := UInt16.ofNat (countOfDigits digits)
  if h : 0 < number then
    if digits.all Char.isDigit ∧ countOfDigits digits < UInt16.size then .ok ⟨number, h⟩
    else .error (.misuse .invalidNumber)
  else .error (.misuse .invalidNumber)

/-- A value that may not have been given before. -/
def onlyOnce {α : Type} (before? : Option α) (value : Except Notice α) :
    Except Notice (Option α) :=
  if before?.isSome then .error (.misuse .repeated) else value.map some

namespace Values

/-- Takes in the value of an option. -/
def give (values : Values) (text : String) : ValueOption → Except Notice Values
  | .config => do
    .ok { values with config? := ← onlyOnce values.config? (readPath text) }
  | .pathIn => do
    .ok { values with pathIn? := ← onlyOnce values.pathIn? (readPath text) }
  | .file => do
    .ok { values with file? := ← onlyOnce values.file? (readPath text) }
  | .numThreads => do
    .ok { values with numThreads? := ← onlyOnce values.numThreads? (readCount text) }
  | .numProcesses => do
    .ok { values with numProcesses? := ← onlyOnce values.numProcesses? (readCount text) }
  | .format => do
    .ok { values with format? := ← onlyOnce values.format? (readFormat text) }
  | .target => do
    .ok { values with target? := ← onlyOnce values.target? (readPath text) }

/-- Takes in a switch. -/
def turnOn (values : Values) (scope : Scope) : Switch → Except Notice Values
  | .help => .error .help
  | .version => .error (.version scope)
  | .verbose =>
    if values.isVerbose then .error (.misuse .repeated) else .ok { values with isVerbose := true }

/-- Takes in a fallback for the path of the configuration, where the arguments give none. -/
def giveFallback (values : Values) (fallback? : Option String) : Except Notice Values :=
  match values.config?, fallback? with
  | none, some text => values.give text .config
  | _, _ => .ok values

/-- The command of a scope that values have been given for. -/
def command (values : Values) : Scope → Except Notice Command
  | .program => .error (.misuse .noCommand)
  | .extract =>
    match values.pathIn?, values.file?, values.numThreads?, values.numProcesses? with
    | some root, some output, some threads, some processes =>
      .ok (.extract {
        root
        output
        pool := {
          processes := processes.val.toUInt64
          threads := threads.val.toUInt64
          processes_pos := processes.toUInt64_pos
          threads_pos := threads.toUInt64_pos }
        format := values.format?.getD .lines })
    | _, _, _, _ => .error (.misuse .missingOption)
  | .inspect =>
    match values.target? with
    | some target => .ok (.inspect target (values.format?.getD .lines))
    | none => .error (.misuse .missingOption)

end Values

end FunctionCatalog
