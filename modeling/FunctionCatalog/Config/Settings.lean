import FunctionCatalog.Config.Basic

/-!
# Settings as a document

A configuration is read from a document of named values. Every setting may be left out and then has
its default; a name that is no setting is passed over. A value of another type than the setting's is
an error. A group of settings may also be given as a list of their values, in order, where the last
ones may be missing; whether there may be too many is up to the format of the document.
-/

namespace FunctionCatalog

/-- A value in a document. -/
inductive Setting where
  /-- A truth value. -/
  | bool (value : Bool)
  /-- A whole number. -/
  | integer (value : Int)
  /-- A text. -/
  | text (value : String)
  /-- A list of values. -/
  | list (items : List Setting)
  /-- Values by name. No name is repeated. -/
  | table (entries : List (String × Setting))
  /-- A value of a type that no setting has. -/
  | other
deriving Repr

/-- What becomes of the values in a list that are more than a group has settings. -/
inductive Surplus where
  /-- They are an error. -/
  | refused
  /-- They are passed over. -/
  | ignored
deriving DecidableEq, Repr

namespace Setting

/-- The truth value of a setting. -/
def bool? : Setting → Option Bool
  | bool value => some value
  | _ => none

/-- The largest number of milliseconds that a limit can have. -/
def maxLimit : Nat := 18446744073709551615

/-- The number of milliseconds of a setting. -/
def limit? : Setting → Option Nat
  | integer value =>
    if 0 ≤ value ∧ value.toNat ≤ maxLimit then some value.toNat else none
  | _ => none

/-- The text of a setting. -/
def text? : Setting → Option String
  | text value => some value
  | _ => none

/-- The texts in a list. -/
def texts? : Setting → Option (List String)
  | list items => items.mapM text?
  | _ => none

/-- The texts in a table, with their names. -/
def textTable? : Setting → Option (List (String × String))
  | table entries => entries.mapM fun (name, value) => value.text?.map (name, ·)
  | _ => none

/-- The values of the settings with the given names: those of a table by name, and those of a list
by position. -/
def fields? (surplus : Surplus) (names : List String) : Setting → Option (List (Option Setting))
  | table entries => some (names.map fun name => entries.lookup name)
  | list items =>
    if surplus = .refused ∧ names.length < items.length then none
    else some (names.zipIdx.map fun (_, place) => items[place]?)
  | _ => none

/-- What `read?` makes of a value, or the default where there is none. -/
def readOr? {α : Type} (read? : Setting → Option α) (default : α) : Option Setting → Option α
  | none => some default
  | some value => read? value

end Setting

/-- The extensions that a setting gives. -/
def Extensions.ofSetting? (surplus : Surplus) (setting : Setting) : Option Extensions := do
  let [c, cpp] ← setting.fields? surplus ["c", "cpp"] | none
  let standard : Extensions := {}
  some {
    c := ← Setting.readOr? Setting.texts? standard.c c
    cpp := ← Setting.readOr? Setting.texts? standard.cpp cpp }

/-- The configuration that a document gives. -/
def Config.ofSetting? (surplus : Surplus) (setting : Setting) : Option Config := do
  let [extensions, recoverPartial, parseTimeout, typeAliases] ←
    setting.fields? surplus ["extensions", "recover_partial", "parse_timeout_ms", "type_aliases"]
    | none
  let standard : Config := {}
  some {
    extensions := ← Setting.readOr? (Extensions.ofSetting? surplus) standard.extensions extensions
    recoverPartial := ← Setting.readOr? Setting.bool? standard.recoverPartial recoverPartial
    parseTimeout := ← Setting.readOr? Setting.limit? standard.parseTimeout parseTimeout
    typeAliases := ← Setting.readOr? Setting.textTable? standard.typeAliases typeAliases }

end FunctionCatalog
