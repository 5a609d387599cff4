import FunctionCatalog.Text.Basic
import FunctionCatalog.Tree.Node

/-!
# Comments

Which comment belongs to a declaration, and the tokens that are kept of it.
-/

namespace FunctionCatalog

/-! ## Tokens of a comment

A comment is compared by its words alone: the maximal runs of ASCII letters and digits. Markers,
punctuation and letters beyond ASCII separate them. -/

/-- Whether a character is an ASCII letter or digit. -/
def isTokenChar (c : Char) : Bool :=
  c.isAlphanum

/-- The tokens of a comment's text. -/
def commentTokens (text : List Char) : List String :=
  (runs isTokenChar text).map String.ofList

/-! ## The comment of a declaration

The comment of a node is the run of comment nodes directly in front of it. Only white space may
stand between its members and before the node; two members are at most one line apart. A comment
that begins on the line on which the item before it ends belongs to that item: it is trailing, and
the run stops there.

Siblings in front of a node are given as a list that starts with the nearest one. -/

/-- Whether a byte is ASCII white space, which the vertical tab is not part of. -/
def isAsciiBlank (b : UInt8) : Bool :=
  b == 0x20 || b == 0x09 || b == 0x0A || b == 0x0C || b == 0x0D

/-- Whether an offset is the first of its row. -/
def Bytes.startsRow (bytes : Bytes) (offset : Nat) : Bool :=
  (bytes.take offset).getLast?.getD 0x0A == 0x0A

namespace Node

/-- The row of a node's first byte. -/
def firstRow (source : Bytes) (node : Node) : Nat :=
  Bytes.row source node.start

/-- The row of a node's last character. A node that owns the end of its line ends at the start of
the row after it. -/
def lastRow (source : Bytes) (node : Node) : Nat :=
  let row := Bytes.row source node.stop
  if Bytes.startsRow source node.stop && node.firstRow source < row then row - 1 else row

/-- Whether a comment after the given siblings begins on the row on which an item ends. -/
def isTrailing (source : Bytes) (comment : Node) (before : List Node) : Bool :=
  match before with
  | [] => false
  | previous :: _ =>
    previous.kind != .comment && previous.lastRow source == comment.firstRow source

/-- Whether a comment belongs to a run that goes on at offset `next`; `hasMember` says whether a
comment of the run follows it. -/
def joinsRun (source : Bytes) (comment : Node) (before : List Node) (next : Nat)
    (hasMember : Bool) : Bool :=
  let gap := Bytes.slice source comment.stop next
  comment.kind == .comment && gap.all isAsciiBlank && !(hasMember && 1 < gap.count 0x0A)
    && !comment.isTrailing source before

/-- The comments attached in front of offset `next`, the last one first. -/
def attachedRun (source : Bytes) (hasMember : Bool) (next : Nat) : List Node → List Node
  | [] => []
  | comment :: before =>
    if comment.joinsRun source before next hasMember then
      comment :: attachedRun source true comment.start before
    else []

/-- The bytes from the first to the last comment attached to a node, if there is one. -/
def attachedComment? (source : Bytes) (before : List Node) (node : Node) : Option Bytes :=
  match attachedRun source false node.start before with
  | [] => none
  | last :: rest => some (Bytes.slice source ((last :: rest).getLastD last).start last.stop)

/-- The tokens of the comment attached to a node. A comment that is no text counts as none. -/
def commentTokens (source : Bytes) (before : List Node) (node : Node) : List String :=
  match (node.attachedComment? source before).bind Utf8.decode with
  | some text => FunctionCatalog.commentTokens text
  | none => []

end Node

end FunctionCatalog
