import FunctionCatalog.Harvest.Run

/-!
# Invocations

What the program can be asked to do, and what it says when it is asked for something else.
-/

namespace FunctionCatalog

/-- A command of the program. -/
inductive Command where
  /-- Write the records of all units of a root to a file. -/
  | extract (options : RunOptions)
  /-- Print the records of one file. -/
  | inspect (target : Path) (format : RecordFormat)

/-- A command with what goes for all of them. -/
structure Invocation where
  /-- Whether more is to be logged. -/
  isVerbose : Bool
  /-- The file of the configuration. -/
  config? : Option Path
  /-- The command. -/
  command : Command

/-- What arguments belong to. -/
inductive Scope where
  /-- The program itself. -/
  | program
  /-- The command that writes records. -/
  | extract
  /-- The command that prints records. -/
  | inspect
deriving DecidableEq, Repr

/-- What is wrong with arguments. -/
inductive UsageError where
  /-- There are none. -/
  | noArguments
  /-- There is no command. -/
  | noCommand
  /-- A command is not known. -/
  | unknownCommand
  /-- An argument is not known, or there is no place for it. -/
  | unknownArgument
  /-- An option that has to be given is not. -/
  | missingOption
  /-- An option or switch is given twice. -/
  | repeated
  /-- An option has no value, or none that it can have. -/
  | invalidValue
  /-- A value is no number, or out of its range. -/
  | invalidNumber
  /-- A switch has a value. -/
  | valueOfSwitch
deriving DecidableEq, Repr

/-- What is said in place of running a command. -/
inductive Notice where
  /-- How the program is used. -/
  | help
  /-- Which version it is. -/
  | version (scope : Scope)
  /-- What is wrong with the arguments. -/
  | misuse (error : UsageError)
deriving DecidableEq, Repr

end FunctionCatalog
