import FunctionCatalog.CommandLine.Values

/-!
# Reading arguments

Arguments are read one by one. Two dashes start the full name of an option or switch, one dash
starts short names, each a single letter. The value of an option follows after an equals sign, right
after a short name, or as the next argument, unless that one starts with a dash. Two dashes alone
end the names. A command takes over all arguments after it.

The value in an argument of its own is looked at only when the next name or value begins, or at the
end. So of two mistakes a later one may be the one that is noticed: a name that is not known is
noticed before the value in front of it.
-/

namespace FunctionCatalog

/-! ## Names -/

/-- What a name stands for. -/
inductive Named where
  /-- A switch. -/
  | switch (switch : Switch)
  /-- An option. -/
  | option (option : ValueOption)
deriving DecidableEq, Repr

/-- What a full name stands for in a scope. -/
def Named.ofLong? (scope : Scope) (name : List Char) : Option Named :=
  match String.ofList name, scope with
  | "verbose", _ => some (.switch .verbose)
  | "help", _ => some (.switch .help)
  | "version", _ => some (.switch .version)
  | "config", _ => some (.option .config)
  | "path-in", .extract => some (.option .pathIn)
  | "file", .extract => some (.option .file)
  | "num-threads", .extract => some (.option .numThreads)
  | "num-processes", .extract => some (.option .numProcesses)
  | "format", .extract => some (.option .format)
  | "format", .inspect => some (.option .format)
  | _, _ => none

/-- What a short name stands for. -/
def Named.ofShort? (name : Char) : Option Named :=
  match name with
  | 'v' => some (.switch .verbose)
  | 'h' => some (.switch .help)
  | 'V' => some (.switch .version)
  | 'c' => some (.option .config)
  | _ => none

/-- The commands. -/
def Scope.ofCommand? (name : String) : Option Scope :=
  if name = "extract" then some .extract
  else if name = "inspect" then some .inspect
  else none

/-- The command that shows how the program is used. -/
def helpCommand : String := "help"

/-! ## One argument -/

/-- The arguments of a scope that have been read. -/
structure Reading where
  /-- The values that have been looked at. -/
  values : Values := {}
  /-- The option given last with its value, or without one as long as that is still to come. -/
  pending? : Option (ValueOption × Option String) := none
  /-- Whether the names have ended. -/
  namesEnded : Bool := false

namespace Reading

/-- Looks at the option given last. -/
def settle (reading : Reading) : Except Notice Reading :=
  match reading.pending? with
  | none => .ok reading
  | some (_, none) => .error (.misuse .invalidValue)
  | some (option, some text) => do
    .ok { reading with values := ← reading.values.give text option, pending? := none }

/-- The option whose value is to be the next argument, if that does not start with a dash. -/
def awaiting? (reading : Reading) : Option ValueOption :=
  match reading.pending? with
  | some (option, none) => if reading.namesEnded then none else some option
  | _ => none

/-- Reads a switch. -/
def turnOn (reading : Reading) (scope : Scope) (switch : Switch) : Except Notice Reading := do
  let reading ← reading.settle
  .ok { reading with values := ← reading.values.turnOn scope switch }

/-- Reads an option whose value is in the same argument. -/
def give (reading : Reading) (option : ValueOption) (text : List Char) :
    Except Notice Reading := do
  let reading ← reading.settle
  .ok { reading with values := ← reading.values.give (String.ofList text) option }

/-- Reads an option whose value is to come. -/
def await (reading : Reading) (option : ValueOption) : Except Notice Reading := do
  let reading ← reading.settle
  .ok { reading with pending? := some (option, none) }

/-- Reads a full name, with a value if there is an equals sign. -/
def readLong (reading : Reading) (scope : Scope) (text : List Char) : Except Notice Reading :=
  match Named.ofLong? scope (text.takeWhile (· != '=')), text.dropWhile (· != '=') with
  | none, _ => .error (.misuse .unknownArgument)
  | some (.switch switch), [] => reading.turnOn scope switch
  | some (.switch _), _ => .error (.misuse .valueOfSwitch)
  | some (.option option), [] => reading.await option
  | some (.option option), _ :: value => reading.give option value

/-- Reads short names. What follows an option is its value, with or without an equals sign. -/
def readShort (scope : Scope) : Reading → List Char → Except Notice Reading
  | reading, [] => .ok reading
  | reading, name :: rest =>
    match Named.ofShort? name with
    | none => .error (.misuse .unknownArgument)
    | some (.switch switch) => do readShort scope (← reading.turnOn scope switch) rest
    | some (.option option) =>
      match rest with
      | [] => reading.await option
      | '=' :: value => reading.give option value
      | value => reading.give option value

/-- Whether the target has been given. -/
def hasTarget (reading : Reading) : Bool :=
  reading.values.target?.isSome || (reading.pending?.map Prod.fst) == some .target

/-- Reads an argument without a name. -/
def readPlace (reading : Reading) (scope : Scope) (text : String) : Except Notice Reading :=
  match scope with
  | .inspect =>
    if reading.hasTarget then .error (.misuse .unknownArgument)
    else do .ok { ← reading.settle with pending? := some (.target, some text) }
  | .extract => .error (.misuse .unknownArgument)
  | .program =>
    if reading.namesEnded ∧ ((Scope.ofCommand? text).isSome ∨ text = helpCommand) then
      .error (.misuse .unknownArgument)
    else .error (.misuse .unknownCommand)

/-- Reads one argument. -/
def read (scope : Scope) (reading : Reading) (text : String) : Except Notice Reading :=
  match reading.namesEnded, text.toList with
  | false, ['-', '-'] => .ok { reading with namesEnded := true }
  | false, '-' :: '-' :: long => reading.readLong scope long
  | false, '-' :: c :: short => readShort scope reading (c :: short)
  | _, _ =>
    match reading.awaiting? with
    | some option => .ok { reading with pending? := some (option, some text) }
    | none => reading.readPlace scope text

/-- The values of a scope whose arguments have all been read. -/
def finish (reading : Reading) : Except Notice Values :=
  reading.settle.map Reading.values

end Reading

/-! ## All arguments -/

/-- Reads the arguments after the command that shows how the program is used. They name commands, of
which none has commands of its own. -/
def readHelp : List String → Notice
  | [] => .help
  | [name] =>
    if (Scope.ofCommand? name).isSome ∨ name = helpCommand then .help else .misuse .unknownCommand
  | _ => .misuse .unknownCommand

/-- Reads the arguments of a command. What is given in the scope of the command goes before what is
given in front of it, and both go before the fallback. -/
def readCommand (scope : Scope) (program : Reading) (fallback? : Option String)
    (arguments : List String) : Except Notice Invocation := do
  let own ← (← arguments.foldlM (Reading.read scope) {}).finish
  let command ← (← own.giveFallback fallback?).command scope
  let outer ← (← program.finish).giveFallback fallback?
  .ok {
    isVerbose := outer.isVerbose || own.isVerbose
    config? := own.config?.or outer.config?
    command }

/-- Reads arguments from where the program's own ones have been read. -/
def readArguments (fallback? : Option String) :
    Reading → List String → Except Notice Invocation
  | program, [] => do
    let values ← (← program.finish).giveFallback fallback?
    if values.isVerbose ∨ values.config?.isSome then .error (.misuse .noCommand)
    else .error (.misuse .noArguments)
  | program, text :: rest => do
    if program.namesEnded ∨ program.awaiting?.isSome then
      readArguments fallback? (← program.read .program text) rest
    else if text = helpCommand then .error (readHelp rest)
    else
      match Scope.ofCommand? text with
      | some scope => readCommand scope program fallback? rest
      | none => readArguments fallback? (← program.read .program text) rest

/-- The invocation that arguments ask for. The fallback is the path of a configuration for when they
name none. -/
def Invocation.ofArguments (arguments : List String) (fallback? : Option String) :
    Except Notice Invocation :=
  readArguments fallback? {} arguments

end FunctionCatalog
