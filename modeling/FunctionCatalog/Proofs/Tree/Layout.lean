import FunctionCatalog.Proofs.Tree.Paths
import Mathlib.Data.List.Induction

/-!
# How a tree lies in its source

In a tree that a parser gives, a node lies in the range of its parent, and siblings lie one behind
the other.

## Main results

* `Node.itemAt?_liesIn` — whatever is found in a tree lies in order, and so does what is in front of
  it.
* `Node.liesIn_of_mem_fileItems` — so does whatever a walk comes to.
-/

namespace FunctionCatalog

mutual

/-- Whether a node lies in a range of offsets, with all that is below it in order. -/
def Node.LiesIn (low high : Nat) : Node → Prop
  | ⟨_, start, stop, _, _, _, children⟩ =>
    low ≤ start ∧ start ≤ stop ∧ stop ≤ high ∧ Node.LieInOrder start stop children

/-- Whether nodes lie in a range of offsets, one behind the other. -/
def Node.LieInOrder (low high : Nat) : List Node → Prop
  | [] => True
  | node :: rest => node.LiesIn low high ∧ Node.LieInOrder node.stop high rest

end

/-- Whether siblings, the nearest first, lie one behind the other in front of an offset. -/
def Node.LieInFront (next : Nat) : List Node → Prop
  | [] => True
  | node :: before =>
    node.start ≤ node.stop ∧ node.stop ≤ next ∧ Node.LieInFront node.start before

/-- Whether an item lies in a range of offsets, with the siblings in front of it. -/
structure Item.LiesIn (low high : Nat) (item : Item) : Prop where
  node : item.node.LiesIn low high
  before : Node.LieInFront item.node.start item.before
  low_le_start : ∀ sibling ∈ item.before, low ≤ sibling.start

/-! ## Nodes -/

namespace Node

variable {low high : Nat} {node : Node}

theorem liesIn_iff :
    node.LiesIn low high ↔ low ≤ node.start ∧ node.start ≤ node.stop ∧ node.stop ≤ high ∧
      LieInOrder node.start node.stop node.children := by
  obtain ⟨kind, start, stop, isNamed, hasError, field?, children⟩ := node
  exact Iff.rfl

theorem LiesIn.low_le_start (h : node.LiesIn low high) : low ≤ node.start :=
  (liesIn_iff.1 h).1

theorem LiesIn.start_le_stop (h : node.LiesIn low high) : node.start ≤ node.stop :=
  (liesIn_iff.1 h).2.1

theorem LiesIn.stop_le_high (h : node.LiesIn low high) : node.stop ≤ high :=
  (liesIn_iff.1 h).2.2.1

theorem LiesIn.children (h : node.LiesIn low high) :
    LieInOrder node.start node.stop node.children :=
  (liesIn_iff.1 h).2.2.2

theorem LiesIn.mono {low' high' : Nat} (h : node.LiesIn low high) (hLow : low' ≤ low)
    (hHigh : high ≤ high') : node.LiesIn low' high' :=
  liesIn_iff.2 ⟨Nat.le_trans hLow h.low_le_start, h.start_le_stop,
    Nat.le_trans h.stop_le_high hHigh, h.children⟩

theorem LieInOrder.mem {nodes : List Node} (h : LieInOrder low high nodes) (hNode : node ∈ nodes) :
    node.LiesIn low high := by
  induction nodes generalizing low with
  | nil => exact absurd hNode List.not_mem_nil
  | cons first rest ih =>
      obtain ⟨hFirst, hRest⟩ := h
      rcases List.mem_cons.1 hNode with rfl | hNode
      · exact hFirst
      · exact (ih hRest hNode).mono (Nat.le_trans hFirst.low_le_start hFirst.start_le_stop)
          (Nat.le_refl high)

private theorem lieInOrder_of_append {front back : List Node}
    (h : LieInOrder low high (front ++ back)) :
    ∃ low', low ≤ low' ∧ LieInOrder low' high back := by
  induction front generalizing low with
  | nil => exact ⟨low, Nat.le_refl low, h⟩
  | cons node rest ih =>
      obtain ⟨hNode, hRest⟩ := h
      obtain ⟨low', hLow, hBack⟩ := ih hRest
      have hReach := Nat.le_trans hNode.low_le_start hNode.start_le_stop
      exact ⟨low', Nat.le_trans hReach hLow, hBack⟩

private theorem lieInFront_of_lieInOrder {front back : List Node}
    (h : LieInOrder low high (front ++ node :: back)) : LieInFront node.start front.reverse := by
  induction front using List.reverseRecOn generalizing node back with
  | nil => trivial
  | append_singleton front previous ih =>
      rw [List.append_assoc, List.singleton_append] at h
      obtain ⟨low', -, hPrevious, hNode, -⟩ := lieInOrder_of_append h
      rw [List.reverse_append, List.reverse_singleton, List.singleton_append]
      exact ⟨hPrevious.start_le_stop, hNode.low_le_start, ih h⟩

variable {next : Nat} {before : List Node}

theorem LieInFront.of_isPrefix (hBefore : LieInFront next before) {run : List Node}
    (hRun : run <+: before) : LieInFront next run := by
  induction run generalizing next before with
  | nil => trivial
  | cons last rest ih =>
      obtain ⟨more, rfl⟩ := hRun
      exact ⟨hBefore.1, hBefore.2.1, ih hBefore.2.2 (List.prefix_append rest more)⟩

theorem LieInFront.mono {next' : Nat} (hBefore : LieInFront next before) (hNext : next ≤ next') :
    LieInFront next' before := by
  cases before with
  | nil => trivial
  | cons nearest before => exact ⟨hBefore.1, Nat.le_trans hBefore.2.1 hNext, hBefore.2.2⟩

theorem LieInFront.mem (hBefore : LieInFront next before) {node : Node} (hNode : node ∈ before) :
    node.start ≤ node.stop ∧ node.stop ≤ next := by
  induction before generalizing next with
  | nil => exact absurd hNode List.not_mem_nil
  | cons nearest before ih =>
      obtain ⟨hOrder, hStop, hBefore⟩ := hBefore
      rcases List.mem_cons.1 hNode with rfl | hNode
      · exact ⟨hOrder, hStop⟩
      · obtain ⟨hOrder', hStop'⟩ := ih hBefore hNode
        exact ⟨hOrder', by omega⟩

theorem LieInFront.stop_le_start {near far : List Node} {barrier : Node}
    (hBefore : LieInFront next (near ++ barrier :: far)) {node : Node} (hNode : node ∈ near) :
    barrier.stop ≤ node.start := by
  induction near generalizing next with
  | nil => exact absurd hNode List.not_mem_nil
  | cons nearest near ih =>
      obtain ⟨-, -, hBefore⟩ := hBefore
      rcases List.mem_cons.1 hNode with rfl | hNode
      · exact (hBefore.mem (by simp)).2
      · exact ih hBefore hNode

end Node

/-! ## Items -/

namespace Item

variable {low high : Nat} {item child found : Item} {number : Nat} {path : List Nat}

/-- A child lies in its parent. -/
theorem liesIn_child? (hItem : item.node.LiesIn low high)
    (hChild : item.child? number = some child) :
    child.LiesIn item.node.start item.node.stop := by
  obtain ⟨front, back, hChildren, -, hBefore⟩ := child?_eq_some_iff.1 hChild
  have hOrder := hItem.children
  rw [hChildren] at hOrder
  refine ⟨hOrder.mem (by simp), hBefore ▸ Node.lieInFront_of_lieInOrder hOrder, ?_⟩
  intro sibling hMem
  rw [hBefore, List.mem_reverse] at hMem
  exact (hOrder.mem (List.mem_append_left _ hMem)).low_le_start

theorem LiesIn.mono {low' high' : Nat} (h : item.LiesIn low high) (hLow : low' ≤ low)
    (hHigh : high ≤ high') : item.LiesIn low' high' :=
  ⟨h.node.mono hLow hHigh, h.before,
    fun sibling hMem => Nat.le_trans hLow (h.low_le_start sibling hMem)⟩

/-- Whatever is found in a tree lies in order. -/
theorem liesIn_at? (hItem : item.LiesIn low high) (hFound : item.at? path = some found) :
    found.LiesIn low high := by
  induction path generalizing item low high with
  | nil =>
      obtain rfl := Option.some.inj hFound
      exact hItem
  | cons number path ih =>
      obtain ⟨child, hChild, hFound⟩ := at?_cons_eq_some_iff.1 hFound
      exact (ih (liesIn_child? hItem.node hChild) hFound).mono hItem.node.low_le_start
        hItem.node.stop_le_high

/-- What is found below a node lies in the node, with the siblings in front of it. -/
theorem liesIn_below (hItem : item.node.LiesIn low high)
    (hFound : item.at? (number :: path) = some found) :
    found.LiesIn item.node.start item.node.stop := by
  obtain ⟨child, hChild, hFound⟩ := at?_cons_eq_some_iff.1 hFound
  exact liesIn_at? (liesIn_child? hItem hChild) hFound

/-- What is found in a node lies in the node. -/
theorem node_liesIn_at? (hItem : item.node.LiesIn low high) (hFound : item.at? path = some found) :
    found.node.LiesIn item.node.start item.node.stop := by
  cases path with
  | nil =>
      obtain rfl := Option.some.inj hFound
      exact Node.liesIn_iff.2 ⟨Nat.le_refl _, hItem.start_le_stop, Nat.le_refl _, hItem.children⟩
  | cons number path => exact (liesIn_below hItem hFound).node

end Item

/-- A root has no siblings. -/
theorem Node.LiesIn.alone {low high : Nat} {root : Node} (hRoot : root.LiesIn low high) :
    Item.LiesIn low high ⟨root, []⟩ :=
  ⟨hRoot, trivial, by simp⟩

theorem Node.itemAt?_liesIn {low high : Nat} {root : Node} (hRoot : root.LiesIn low high)
    {path : List Nat} {item : Item} (hItem : root.itemAt? path = some item) :
    item.LiesIn low high :=
  Item.liesIn_at? hRoot.alone hItem

/-- Whatever a walk comes to lies in order. -/
theorem Node.liesIn_of_mem_fileItems {low high : Nat} {root : Node} (hRoot : root.LiesIn low high)
    {item : Item} (hItem : item ∈ root.fileItems) : item.LiesIn low high := by
  obtain ⟨path, hPath, -⟩ := Node.exists_itemAt?_of_mem_fileItems hItem
  exact Node.itemAt?_liesIn hRoot hPath

end FunctionCatalog
