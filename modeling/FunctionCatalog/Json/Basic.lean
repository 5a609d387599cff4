import FunctionCatalog.Text.Basic

/-!
# JSON values

A value keeps the members of an object in order, repeated keys included, and a number as it is
written. A string need not be text, since an escape can name one half of a surrogate pair; such a
string is kept as `none`.
-/

namespace FunctionCatalog

/-- A JSON value. -/
inductive Json where
  /-- The value `null`. -/
  | null
  /-- A truth value. -/
  | bool (value : Bool)
  /-- A number, as it is written. -/
  | number (literal : String)
  /-- A string, if it is text. -/
  | string (text? : Option String)
  /-- An array. -/
  | array (items : List Json)
  /-- An object. -/
  | object (members : List (Option String × Json))
deriving Repr

namespace Json

/-- The text of a string. -/
def text? : Json → Option String
  | string text? => text?
  | _ => none

/-- The items of an array. -/
def items? : Json → Option (List Json)
  | array items => some items
  | _ => none

/-- The members of an object. -/
def members? : Json → Option (List (Option String × Json))
  | object members => some members
  | _ => none

/-- The texts in an array of strings. -/
def texts? (value : Json) : Option (List String) :=
  value.items?.bind (·.mapM text?)

/-- The value of a literal that is a natural number in decimal digits. -/
def nat? : Json → Option Nat
  | number literal => if literal.toList.all Char.isDigit then literal.toNat? else none
  | _ => none

/-- The value of the last member with a key. -/
def get? (value : Json) (key : String) : Option Json :=
  value.members?.bind fun members =>
    (members.reverse.find? (·.1 == some key)).map (·.2)

end Json

/-! ## Strings in JSON

A string stands in double quotes. A quote and a backslash get a backslash in front, five control
characters have a letter, and the other characters below U+0020 are written as four hexadecimal
digits. All else stands for itself. -/

namespace Json

/-- A character as it stands inside a string. -/
def encodeChar (c : Char) : List Char :=
  if c = '\"' then ['\\', '\"']
  else if c = '\\' then ['\\', '\\']
  else if c = '\x08' then ['\\', 'b']
  else if c = '\x0c' then ['\\', 'f']
  else if c = '\n' then ['\\', 'n']
  else if c = '\r' then ['\\', 'r']
  else if c = '\t' then ['\\', 't']
  else if c.toNat < 0x20 then
    ['\\', 'u', '0', '0', hexDigit (c.toNat / 16), hexDigit (c.toNat % 16)]
  else [c]

/-- A text as a string. -/
def quote (text : String) : List Char :=
  '\"' :: text.toList.flatMap encodeChar ++ ['\"']

end Json

end FunctionCatalog
