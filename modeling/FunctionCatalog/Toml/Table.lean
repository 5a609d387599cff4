import FunctionCatalog.Config.Settings

/-!
# Tables of TOML

A table can be opened by a header, or come about because a header or a dotted key leads through it.
How it came about decides what may be added to it. A header opens a table only once, and never one
that a dotted key made; a dotted key adds only to tables that a dotted key made. A table in braces
is closed for good.
-/

namespace FunctionCatalog

namespace Toml

/-- How a table came about. -/
inductive Origin where
  /-- It has a header of its own. -/
  | header
  /-- A longer header leads through it. -/
  | passed
  /-- A dotted key leads through it. -/
  | dotted
deriving DecidableEq, Repr

/-- What a key stands for. -/
inductive Item where
  /-- A value that nothing can be added to. -/
  | value (value : Setting)
  /-- A table. -/
  | table (origin : Origin) (members : List (String × Item))
  /-- A list of tables, each with a header. Only the last one can be added to. -/
  | tables (closed : List Setting) (last : List (String × Item))

/-- The items of a table, by key. -/
abbrev Members := List (String × Item)

mutual

/-- The value of an item. -/
def Item.setting : Item → Setting
  | .value value => value
  | .table _ members => .table (settingsOf members)
  | .tables closed last => .list (closed ++ [.table (settingsOf last)])

/-- The values of the items of a table. -/
def settingsOf : List (String × Item) → List (String × Setting)
  | [] => []
  | (key, item) :: rest => (key, item.setting) :: settingsOf rest

end

namespace Members

/-- The items with the one of a key replaced, or added at the end. -/
def put (members : Members) (key : String) (item : Item) : Members :=
  if (members.lookup key).isSome then
    members.map fun (other, old) => if other = key then (other, item) else (other, old)
  else members ++ [(key, item)]

/-- Adds a new key. -/
def add? (key : String) (value : Setting) (members : Members) : Option Members :=
  if (members.lookup key).isSome then none else some (members ++ [(key, .value value)])

/-- Adds a new key to the table that a dotted key leads to. The keys in front of the last one lead
through tables that dotted keys made, the last of which it is added to. On the way to that one there
may also be a table that a header leads through, or a list of tables. -/
def addAt? (key : String) (value : Setting) : List String → Members → Option Members
  | [], members => add? key value members
  | part :: path, members => do
    match members.lookup part with
    | none => some (put members part (.table .dotted (← addAt? key value path [])))
    | some (.table .dotted inner) =>
      some (put members part (.table .dotted (← addAt? key value path inner)))
    | some (.table .passed inner) =>
      if path = [] then none
      else some (put members part (.table .passed (← addAt? key value path inner)))
    | some (.tables closed last) =>
      if path = [] then none
      else some (put members part (.tables closed (← addAt? key value path last)))
    | some (.table .header _) | some (.value _) => none

/-- Changes the table that the keys of a header lead to. Of a list of tables they lead to the last
one, and what is missing on the way is made. -/
def within? (change : Members → Option Members) : List String → Members → Option Members
  | [], members => change members
  | part :: path, members => do
    match members.lookup part with
    | none => some (put members part (.table .passed (← within? change path [])))
    | some (.table origin inner) =>
      some (put members part (.table origin (← within? change path inner)))
    | some (.tables closed last) =>
      some (put members part (.tables closed (← within? change path last)))
    | some (.value _) => none

/-- Opens a table. It may have come about on the way to another one. -/
def open? (key : String) (members : Members) : Option Members :=
  match members.lookup key with
  | none => some (put members key (.table .header []))
  | some (.table .passed inner) => some (put members key (.table .header inner))
  | _ => none

/-- Opens a further table of a list. -/
def openNext? (key : String) (members : Members) : Option Members :=
  match members.lookup key with
  | none => some (put members key (.tables [] []))
  | some (.tables closed last) =>
    some (put members key (.tables (closed ++ [.table (settingsOf last)]) []))
  | _ => none

end Members

/-- A key, whose parts stand between dots. -/
structure Key where
  /-- The parts in front of the last one. -/
  path : List String
  /-- The last part. -/
  last : String
deriving DecidableEq, Repr

/-- Adds a value to a table. -/
def Members.addValue? (key : Key) (value : Setting) (members : Members) : Option Members :=
  addAt? key.last value key.path members

end Toml

end FunctionCatalog
