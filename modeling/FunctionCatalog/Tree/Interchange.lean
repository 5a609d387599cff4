import FunctionCatalog.Json.Basic
import FunctionCatalog.Tree.Node

/-!
# Syntax trees as JSON

A parser hands a tree over as nested arrays: `[kind, start, stop, flags, field]` for a node without
children, and the array of its children as a sixth item otherwise. The first bit of the flags says
that the node is named, the third that it has an error; the field is a string or `null`.
-/

namespace FunctionCatalog

namespace Node

/-- Whether a bit of the flags is set. -/
def hasFlag (flags bit : Nat) : Bool :=
  flags / bit % 2 == 1

/-- The field that an item names, if declarations are read by it. -/
def fieldOfJson? (item : Json) : Option Field :=
  item.text?.bind Field.ofString?

/-- A node from the items before its children. -/
def ofItems? (kind start stop flags field : Json) (children : List Node) : Option Node := do
  let flags ← flags.nat?
  some {
    kind := .ofString (← kind.text?)
    start := ← start.nat?
    stop := ← stop.nat?
    isNamed := hasFlag flags 1
    hasError := hasFlag flags 4
    field? := fieldOfJson? field
    children }

mutual

/-- The node that a JSON value describes. -/
def ofJson? : Json → Option Node
  | .array [kind, start, stop, flags, field] => ofItems? kind start stop flags field []
  | .array [kind, start, stop, flags, field, .array children] => do
    ofItems? kind start stop flags field (← ofJsons? children)
  | _ => none

/-- The nodes that JSON values describe. -/
def ofJsons? : List Json → Option (List Node)
  | [] => some []
  | value :: rest => do
    let node ← ofJson? value
    let nodes ← ofJsons? rest
    some (node :: nodes)

end

end Node

end FunctionCatalog
