import FunctionCatalog.Proofs.Comment.Trailing
import FunctionCatalog.Proofs.Tree.Agreement

/-!
# Bytes inserted into a source

Bytes put in somewhere move everything behind them by their number. A node that has moved along
is read as before, and stands as many rows further down as there are line ends in what was
put in.

## Main results

* `Node.alikeInOrder_shifted` — a node that has moved along is read alike.
* `Node.lastRow_shifted`, `Node.lastRow_around` — where the last row of a node is that has moved, or
  has become longer.
-/

namespace FunctionCatalog

/-! ## Ranges and rows -/

namespace Bytes

variable {front back : Bytes} {start stop offset : Nat} (inserted : Bytes)

theorem slice_inserted (hStart : front.length ≤ start) :
    slice (front ++ inserted ++ back) (start + inserted.length) (stop + inserted.length) =
      slice (front ++ back) start stop := by
  obtain ⟨index, rfl⟩ := Nat.exists_eq_add_of_le hStart
  have hBehind : front.length + index + inserted.length = (front ++ inserted).length + index := by
    rw [List.length_append]
    omega
  rw [slice, slice, Nat.add_sub_add_right, hBehind, List.drop_length_add_append,
    List.drop_length_add_append]

private theorem row_inserted (hOffset : front.length ≤ offset) :
    row (front ++ inserted ++ back) (offset + inserted.length) =
      row (front ++ back) offset + inserted.count 0x0A := by
  obtain ⟨index, rfl⟩ := Nat.exists_eq_add_of_le hOffset
  have hBehind : front.length + index + inserted.length = (front ++ inserted).length + index := by
    rw [List.length_append]
    omega
  rw [row, row, hBehind, List.take_length_add_append, List.take_length_add_append,
    List.count_append, List.count_append, List.count_append]
  omega

end Bytes

namespace Node

/-! ## Last rows -/

section LastRow

variable {source : Bytes} {node : Node}

/-- The last row of a node is that of its last byte. -/
theorem lastRow_eq_row (hSome : node.start < node.stop) (hStop : node.stop ≤ source.length) :
    node.lastRow source = Bytes.row source (node.stop - 1) := by
  obtain ⟨last, hLast⟩ : ∃ last, node.stop = last + 1 := ⟨node.stop - 1, by omega⟩
  have hLt : last < source.length := by omega
  have hTake : source.take node.stop = source.take last ++ [source[last]] := by
    rw [hLast, List.take_add_one, List.getElem?_eq_getElem hLt, Option.toList_some]
  have hRow : Bytes.row source node.stop =
      Bytes.row source last + [source[last]].count 0x0A := by
    rw [Bytes.row, hTake, List.count_append, Bytes.row]
  have hStarts : Bytes.startsRow source node.stop = (source[last] == 0x0A) := by
    rw [Bytes.startsRow, hTake, List.getLast?_concat, Option.getD_some]
  have hFirst : node.firstRow source ≤ Bytes.row source last :=
    Bytes.row_le_row source (by omega)
  rw [lastRow, hStarts, hRow, List.count_singleton, hLast, Nat.add_sub_cancel]
  cases source[last] == 0x0A with
  | true =>
      rw [if_pos]
      · simp
      · simp only [Bool.true_and, decide_eq_true_eq, if_true]
        omega
  | false => simp

/-- The last row of a node without bytes is the one that it stands on. -/
theorem lastRow_of_empty (hNone : node.start = node.stop) :
    node.lastRow source = Bytes.row source node.stop := by
  rw [lastRow, firstRow, hNone]
  simp

end LastRow

/-! ## Nodes that have moved -/

mutual

/-- A node that has moved along with the source, with all that is below it. -/
def shifted (width : Nat) : Node → Node
  | ⟨kind, start, stop, isNamed, hasError, field?, children⟩ =>
    ⟨kind, start + width, stop + width, isNamed, hasError, field?, allShifted width children⟩

/-- Nodes that have moved along with the source. -/
def allShifted (width : Nat) : List Node → List Node
  | [] => []
  | node :: rest => node.shifted width :: allShifted width rest

end

theorem allShifted_eq_map (width : Nat) (nodes : List Node) :
    allShifted width nodes = nodes.map (shifted width) := by
  induction nodes with
  | nil => rfl
  | cons node rest ih => rw [allShifted, ih, List.map_cons]

section Shifted

variable (width : Nat) (node : Node)

private theorem shifted_eq : node.shifted width =
    { node with
      start := node.start + width
      stop := node.stop + width
      children := allShifted width node.children } := by
  obtain ⟨kind, start, stop, isNamed, hasError, field?, children⟩ := node
  rfl

@[simp] theorem shifted_kind : (node.shifted width).kind = node.kind := by
  rw [shifted_eq]

@[simp] theorem shifted_start : (node.shifted width).start = node.start + width := by
  rw [shifted_eq]

@[simp] theorem shifted_stop : (node.shifted width).stop = node.stop + width := by
  rw [shifted_eq]

@[simp] theorem shifted_isNamed : (node.shifted width).isNamed = node.isNamed := by
  rw [shifted_eq]

@[simp] theorem shifted_hasError : (node.shifted width).hasError = node.hasError := by
  rw [shifted_eq]

@[simp] theorem shifted_field? : (node.shifted width).field? = node.field? := by
  rw [shifted_eq]

@[simp] theorem shifted_children :
    (node.shifted width).children = allShifted width node.children := by
  rw [shifted_eq]

end Shifted

variable {front inserted back : Bytes} {low high : Nat} {node : Node}

theorem firstRow_shifted (hStart : front.length ≤ node.start) :
    (node.shifted inserted.length).firstRow (front ++ inserted ++ back) =
      node.firstRow (front ++ back) + inserted.count 0x0A := by
  rw [firstRow, firstRow, shifted_start, Bytes.row_inserted inserted hStart]

/-- A node that reaches over the place where something is put in, or beyond, has its last row moved
as far as a node has that begins there. -/
theorem lastRow_around {node' : Node} (hStop : front.length < node.stop)
    (hHigh : node.stop ≤ (front ++ back).length) (hSome : node.start < node.stop)
    (hStop' : node'.stop = node.stop + inserted.length) (hSome' : node'.start < node'.stop) :
    node'.lastRow (front ++ inserted ++ back) =
      node.lastRow (front ++ back) + inserted.count 0x0A := by
  have hHigh' : node'.stop ≤ (front ++ inserted ++ back).length := by
    simp only [List.length_append] at hHigh ⊢
    omega
  have hLast : node'.stop - 1 = node.stop - 1 + inserted.length := by omega
  rw [lastRow_eq_row hSome hHigh, lastRow_eq_row hSome' hHigh', hLast,
    Bytes.row_inserted inserted (by omega)]

theorem lastRow_shifted (hStart : front.length ≤ node.start) (hOrder : node.start ≤ node.stop)
    (hHigh : node.stop ≤ (front ++ back).length) :
    (node.shifted inserted.length).lastRow (front ++ inserted ++ back) =
      node.lastRow (front ++ back) + inserted.count 0x0A := by
  rcases Nat.eq_or_lt_of_le hOrder with hNone | hSome
  · rw [lastRow_of_empty hNone, lastRow_of_empty (by simp [hNone]), shifted_stop,
      Bytes.row_inserted inserted (by omega)]
  · exact lastRow_around (by omega) hHigh hSome (shifted_stop ..) (by simpa using hSome)

mutual

/-- A node that has moved along is read alike. -/
theorem alikeInOrder_shifted : ∀ {low high : Nat} {node : Node}, node.LiesIn low high →
    front.length ≤ low →
      AlikeInOrder (front ++ back) (front ++ inserted ++ back) node (node.shifted inserted.length)
  | low, high, ⟨kind, start, stop, isNamed, hasError, field?, children⟩, hNode, hLow => by
      have hStart : front.length ≤ start := Nat.le_trans hLow hNode.low_le_start
      refine .of_children rfl rfl rfl rfl ?_ (allAlikeInOrder_shifted hNode.children hStart)
      rw [text?, text?, Node.bytes, Node.bytes]
      exact congrArg Utf8.text? (Bytes.slice_inserted inserted hStart).symm

theorem allAlikeInOrder_shifted : ∀ {low high : Nat} {nodes : List Node},
    LieInOrder low high nodes → front.length ≤ low →
      List.Forall₂ (AlikeInOrder (front ++ back) (front ++ inserted ++ back)) nodes
        (allShifted inserted.length nodes)
  | _, _, [], _, _ => .nil
  | _, _, _ :: _, ⟨hNode, hRest⟩, hLow =>
      .cons (alikeInOrder_shifted hNode hLow) (allAlikeInOrder_shifted hRest
        (Nat.le_trans hLow (Nat.le_trans hNode.low_le_start hNode.start_le_stop)))

end

end Node

end FunctionCatalog
