import FunctionCatalog.Text.Basic
import FunctionCatalog.Tree.Kind

/-!
# Spelled-out type names

Type names that are given by their spelling: the normal form that a spelling is brought to, and the
names of library types that stand for others.
-/

namespace FunctionCatalog

/-! ## Normal form of spelled-out type names

A name such as `std::map< int,int >` has the normal form `std::map<int, int>`: white space becomes
single blanks, none stands at the ends, after an opening bracket or before a closing one, and a
comma is followed by one blank and preceded by none.

The text is read once, with a look back at what has been written of its normal form, which is held
with the last character first. -/

namespace NormalSpelling

/-- Drops the blanks at the end of the text written so far. -/
def dropBlanks (written : List Char) : List Char :=
  written.dropWhile (· == ' ')

/-- Whether a blank may follow the text written so far. -/
def admitsBlank : List Char → Bool
  | [] => false
  | last :: _ => !(last == ' ' || last == '<' || last == '(' || last == '[')

/-- Writes one character after the text written so far. -/
def write (written : List Char) (c : Char) : List Char :=
  if c = ',' then ' ' :: ',' :: dropBlanks written
  else if c = '>' ∨ c = ')' ∨ c = ']' then c :: dropBlanks written
  else if c = ' ' ∧ admitsBlank written = false then written
  else c :: written

end NormalSpelling

/-- The normal form of a spelled-out name. -/
def normalizeSpelling (text : String) : String :=
  let collapsed := " ".intercalate (words text)
  String.ofList
    (NormalSpelling.dropBlanks (collapsed.toList.foldl NormalSpelling.write [])).reverse

/-! ## Names of library types

Type names of the standard library that a file may use without showing their definition, with the
builtin types that they stand for where `long` and pointers have 64 bits. A configuration may add
names to this table and replace those in it. -/

/-- The builtin type that a name of the standard library stands for. -/
def libraryAlias? (lang : Language) (name : String) : Option String :=
  match name with
  | "size_t" | "uintptr_t" | "uintmax_t" | "uint64_t" | "uint_fast64_t" | "uint_least64_t" =>
    some "unsigned long"
  | "ssize_t" | "ptrdiff_t" | "intptr_t" | "intmax_t" | "int64_t" | "int_fast64_t"
  | "int_least64_t" | "off_t" | "time_t" | "clock_t" | "suseconds_t" => some "long"
  | "int8_t" | "int_least8_t" | "int_fast8_t" => some "signed char"
  | "uint8_t" | "uint_least8_t" | "uint_fast8_t" => some "unsigned char"
  | "int16_t" | "int_least16_t" => some "short"
  | "uint16_t" | "uint_least16_t" => some "unsigned short"
  | "int32_t" | "int_least32_t" | "pid_t" => some "int"
  | "uint32_t" | "uint_least32_t" | "uid_t" | "gid_t" | "mode_t" | "socklen_t" =>
    some "unsigned int"
  | "bool" => match lang with | .c => some "_Bool" | .cpp => none
  | "wchar_t" => match lang with | .c => some "int" | .cpp => none
  | "char16_t" => match lang with | .c => some "unsigned short" | .cpp => none
  | "char32_t" => match lang with | .c => some "unsigned int" | .cpp => none
  | "FILE" => match lang with | .c => some "struct _IO_FILE" | .cpp => some "_IO_FILE"
  | _ => none

/-- The configured type names, each with the normal form of its spelling. -/
structure TypeAliases where
  /-- The pairs of name and spelling. -/
  entries : List (String × String) := []
deriving Repr

namespace TypeAliases

/-- The aliases that pair each name with the normal form of the given spelling. -/
def ofList (overrides : List (String × String)) : TypeAliases where
  entries := overrides.map fun (name, spelling) => (name, normalizeSpelling spelling)

/-- The type that a name stands for: the configured one, else the one of the standard library. -/
def resolve? (aliases : TypeAliases) (lang : Language) (name : String) : Option String :=
  match aliases.entries.lookup name with
  | some spelling => some spelling
  | none => libraryAlias? lang name

end TypeAliases

end FunctionCatalog
