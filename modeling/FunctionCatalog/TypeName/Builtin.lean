import FunctionCatalog.Text.Basic

/-!
# Builtin types of several words

`long unsigned int` and `unsigned long` name one type. The words of a specifier are sorted into
the sign, the size and a base, from which the canonical name is put together again: `int` is left
out beside a size, and `signed` wherever it is the default, which it is for all bases but `char`.
-/

namespace FunctionCatalog

/-- What one word of a builtin type's specifier says. -/
inductive BuiltinWord where
  /-- The word `unsigned`. -/
  | unsigned
  /-- The word `signed`, in any of its three spellings. -/
  | signed
  /-- The word `short`. -/
  | short
  /-- The word `long`. -/
  | long
  /-- The word `int`. -/
  | int
  /-- Any other word, which names the base. -/
  | base (word : String)
deriving DecidableEq, Repr

/-- The meaning of a word. -/
def BuiltinWord.ofString (word : String) : BuiltinWord :=
  match word with
  | "unsigned" => unsigned
  | "signed" | "__signed" | "__signed__" => signed
  | "short" => short
  | "long" => long
  | "int" => int
  | other => base other

/-- What the words of a specifier say together. -/
structure BuiltinWords where
  /-- One of the words is `unsigned`. -/
  isUnsigned : Bool := false
  /-- One of the words is a spelling of `signed`. -/
  isSigned : Bool := false
  /-- One of the words is `short`. -/
  isShort : Bool := false
  /-- How many of the words are `long`. -/
  longs : Nat := 0
  /-- The last word that is none of the keywords. -/
  base? : Option String := none
deriving DecidableEq, Repr

namespace BuiltinWords

/-- Takes in one more word. -/
def add (ws : BuiltinWords) : BuiltinWord → BuiltinWords
  | .unsigned => { ws with isUnsigned := true }
  | .signed => { ws with isSigned := true }
  | .short => { ws with isShort := true }
  | .long => { ws with longs := ws.longs + 1 }
  | .int => ws
  | .base word => { ws with base? := some word }

/-- What a list of words says. -/
def ofWords (list : List String) : BuiltinWords :=
  list.foldl (fun ws word => ws.add (.ofString word)) {}

/-- The name of the integer type of the given size. -/
def integerName (ws : BuiltinWords) : String :=
  if ws.isShort then "short"
  else if 2 ≤ ws.longs then "long long"
  else if ws.longs = 1 then "long"
  else "int"

/-- The canonical name of the type that the words say. -/
def name (ws : BuiltinWords) : String :=
  match ws.base? with
  | none => if ws.isUnsigned then "unsigned " ++ ws.integerName else ws.integerName
  | some base =>
    if base = "char" ∧ ws.isUnsigned then "unsigned char"
    else if base = "char" ∧ ws.isSigned then "signed char"
    else if base = "double" ∧ 0 < ws.longs then "long double"
    else if ws.isUnsigned then "unsigned " ++ base
    else base

end BuiltinWords

/-- The canonical name of a builtin type written in several words. -/
def canonicalBuiltin (text : String) : String :=
  (BuiltinWords.ofWords (words text)).name

end FunctionCatalog
