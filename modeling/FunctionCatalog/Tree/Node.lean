import FunctionCatalog.Text.Utf8
import FunctionCatalog.Tree.Kind

/-!
# Syntax trees

The tree of a source file, as a parser of the file's language gives it. A node covers a range of
the file's bytes, and says whether something below it could not be parsed. Children stand in source
order; tokens without a name of their own are among them.
-/

namespace FunctionCatalog

/-- A node of a syntax tree. -/
structure Node where
  /-- What the node is. -/
  kind : Kind
  /-- The offset of the first byte. -/
  start : Nat
  /-- The offset just past the last byte. -/
  stop : Nat
  /-- Whether the grammar has a name for the node, as it has for all but fixed tokens. -/
  isNamed : Bool
  /-- Whether the node, or one below it, is the trace of a syntax error. -/
  hasError : Bool
  /-- The role of the node in its parent, if declarations are read by it. -/
  field? : Option Field
  /-- The children, in source order. -/
  children : List Node
deriving Repr

/-- The bytes from `start` to just before `stop`. -/
def Bytes.slice (bytes : Bytes) (start stop : Nat) : Bytes :=
  (bytes.drop start).take (stop - start)

/-- The number of line ends before an offset. -/
def Bytes.row (bytes : Bytes) (offset : Nat) : Nat :=
  (bytes.take offset).count 0x0A

namespace Node

/-- The bytes that a node covers. -/
def bytes (source : Bytes) (node : Node) : Bytes :=
  Bytes.slice source node.start node.stop

/-- The text that a node covers, if it is text. -/
def text? (source : Bytes) (node : Node) : Option String :=
  Utf8.text? (node.bytes source)

/-- The first child with a field. -/
def child? (node : Node) (field : Field) : Option Node :=
  node.children.find? (·.field? == some field)

/-- The children with a field. -/
def childrenWith (node : Node) (field : Field) : List Node :=
  node.children.filter (·.field? == some field)

/-- The children that the grammar has names for. -/
def namedChildren (node : Node) : List Node :=
  node.children.filter (·.isNamed)

end Node

end FunctionCatalog
