import FunctionCatalog.Proofs.Extraction.Items
import Mathlib.Logic.Relation

/-!
# Paths in a tree

A node is found by the numbers of the children on the way to it, together with the siblings in front
of it. Whatever a walk comes to is found so.

## Main results

* `Node.exists_itemAt?_of_mem_fileItems` — a path leads to every item of a file.
* `Node.inherited_of_mem_fileItems` — what nodes hand down to their children holds of the items of a
  file and of the siblings in front of them.
* `Node.All.of_isBelow`, `Node.All.fileItems` — what holds of all nodes of a tree.
-/

namespace FunctionCatalog

/-- A child by its number, with the siblings in front of it. -/
def Item.child? (item : Item) (number : Nat) : Option Item :=
  item.node.children[number]?.map fun node => ⟨node, (item.node.children.take number).reverse⟩

/-- The item that a path of numbers leads to. -/
def Item.at? (item : Item) : List Nat → Option Item
  | [] => some item
  | number :: path => (item.child? number).bind fun child => child.at? path

/-- The item of a tree that a path of numbers leads to. -/
def Node.itemAt? (root : Node) (path : List Nat) : Option Item :=
  Item.at? ⟨root, []⟩ path

/-! ## Steps and paths -/

namespace Item

variable {item child found : Item} {number : Nat} {path : List Nat}

theorem child?_eq_some_iff :
    item.child? number = some child ↔
      ∃ front back, item.node.children = front ++ child.node :: back ∧
        front.length = number ∧ child.before = front.reverse := by
  rw [child?, Option.map_eq_some_iff]
  constructor
  · rintro ⟨node, hNode, rfl⟩
    obtain ⟨hNumber, rfl⟩ := List.getElem?_eq_some_iff.1 hNode
    refine ⟨item.node.children.take number, item.node.children.drop (number + 1), ?_, ?_, rfl⟩
    · rw [List.getElem_cons_drop, List.take_append_drop]
    · rw [List.length_take]
      omega
  · rintro ⟨front, back, hChildren, rfl, hBefore⟩
    refine ⟨child.node, by simp [hChildren], ?_⟩
    obtain ⟨node, before⟩ := child
    simp only [hChildren, List.take_left]
    exact congrArg _ hBefore.symm

theorem at?_cons_eq_some_iff :
    item.at? (number :: path) = some found ↔
      ∃ child, item.child? number = some child ∧ child.at? path = some found :=
  Option.bind_eq_some_iff

theorem forall_of_child? {P : Node → Prop} (hChildren : ∀ node ∈ item.node.children, P node)
    (hChild : item.child? number = some child) :
    P child.node ∧ ∀ sibling ∈ child.before, P sibling := by
  obtain ⟨front, back, hSplit, -, hFront⟩ := child?_eq_some_iff.1 hChild
  rw [hSplit] at hChildren
  refine ⟨hChildren _ (by simp), fun sibling hMem => hChildren sibling ?_⟩
  rw [hFront, List.mem_reverse] at hMem
  exact List.mem_append_left _ hMem

/-- What nodes hand down to their children holds wherever a path leads. -/
theorem inherited_at? {P : Node → Prop}
    (hInherited : ∀ node, P node → ∀ child ∈ node.children, P child)
    (hItem : P item.node) (hBefore : ∀ sibling ∈ item.before, P sibling)
    (hFound : item.at? path = some found) :
    P found.node ∧ ∀ sibling ∈ found.before, P sibling := by
  induction path generalizing item with
  | nil =>
      obtain rfl := Option.some.inj hFound
      exact ⟨hItem, hBefore⟩
  | cons number path ih =>
      obtain ⟨child, hChild, hFound⟩ := at?_cons_eq_some_iff.1 hFound
      obtain ⟨hNode, hSiblings⟩ := forall_of_child? (hInherited item.node hItem) hChild
      exact ih hNode hSiblings hFound

end Item

/-! ## The items of a file -/

namespace Node

mutual

private theorem exists_at?_of_mem_items : ∀ {item : Item} (node : Node) (before : List Node),
    item ∈ node.items before → ∃ path, Item.at? ⟨node, before⟩ path = some item
  | item, ⟨kind, start, stop, isNamed, hasError, field?, children⟩, before => by
      have hAmong := exists_at?_of_mem_itemsAmong
        ⟨⟨kind, start, stop, isNamed, hasError, field?, children⟩, before⟩ [] children rfl
      have hBody := exists_at?_of_mem_itemsOfBody
        ⟨⟨kind, start, stop, isNamed, hasError, field?, children⟩, before⟩ [] children rfl
      intro hItem
      cases kind <;> simp only [items, List.mem_singleton] at hItem <;>
        first
        | exact (hAmong item hItem).imp fun _ => And.left
        | exact (hBody item hItem).imp fun _ => And.left
        | exact ⟨[], congrArg some hItem.symm⟩

/-- A path leads to the items among the children of a node, and goes at least one step. -/
theorem exists_at?_of_mem_itemsAmong : ∀ (parent : Item) (front nodes : List Node),
    parent.node.children = front ++ nodes → ∀ item ∈ itemsAmong front.reverse nodes,
      ∃ path, parent.at? path = some item ∧ path ≠ []
  | _, _, [], _ => fun _ hItem => absurd hItem List.not_mem_nil
  | parent, front, node :: rest, hChildren => by
      have hAmong := exists_at?_of_mem_itemsAmong parent (front ++ [node]) rest
        (by simp [hChildren])
      have hChild : parent.child? front.length = some ⟨node, front.reverse⟩ :=
        Item.child?_eq_some_iff.2 ⟨front, rest, hChildren, rfl, rfl⟩
      rw [List.reverse_append, List.reverse_singleton, List.singleton_append] at hAmong
      intro item hItem
      rw [itemsAmong] at hItem
      split at hItem
      · rcases List.mem_append.1 hItem with hHere | hThere
        · obtain ⟨path, hPath⟩ := exists_at?_of_mem_items node front.reverse hHere
          exact ⟨front.length :: path, Item.at?_cons_eq_some_iff.2 ⟨_, hChild, hPath⟩,
            List.cons_ne_nil _ _⟩
        · exact hAmong item hThere
      · exact hAmong item hItem

theorem exists_at?_of_mem_itemsOfBody : ∀ (parent : Item) (front nodes : List Node),
    parent.node.children = front ++ nodes → ∀ item ∈ itemsOfBody front.reverse nodes,
      ∃ path, parent.at? path = some item ∧ path ≠ []
  | _, _, [], _ => fun _ hItem => absurd hItem List.not_mem_nil
  | parent, front, node :: rest, hChildren => by
      have hBody := exists_at?_of_mem_itemsOfBody parent (front ++ [node]) rest
        (by simp [hChildren])
      have hChild : parent.child? front.length = some ⟨node, front.reverse⟩ :=
        Item.child?_eq_some_iff.2 ⟨front, rest, hChildren, rfl, rfl⟩
      rw [List.reverse_append, List.reverse_singleton, List.singleton_append] at hBody
      intro item hItem
      rw [itemsOfBody] at hItem
      split at hItem
      · obtain ⟨path, hPath⟩ := exists_at?_of_mem_items node front.reverse hItem
        exact ⟨front.length :: path, Item.at?_cons_eq_some_iff.2 ⟨_, hChild, hPath⟩,
          List.cons_ne_nil _ _⟩
      · exact hBody item hItem

end

variable {root : Node} {item : Item}

/-- A path leads to every item of a file. -/
theorem exists_itemAt?_of_mem_fileItems (hItem : item ∈ root.fileItems) :
    ∃ path, root.itemAt? path = some item ∧ path ≠ [] :=
  exists_at?_of_mem_itemsAmong ⟨root, []⟩ [] root.children rfl item hItem

theorem inherited_of_mem_fileItems {P : Node → Prop}
    (hInherited : ∀ node, P node → ∀ child ∈ node.children, P child)
    (hRoot : ∀ child ∈ root.children, P child) (hItem : item ∈ root.fileItems) :
    P item.node ∧ ∀ sibling ∈ item.before, P sibling := by
  obtain ⟨path, hPath, hSome⟩ := exists_itemAt?_of_mem_fileItems hItem
  obtain ⟨number, path, rfl⟩ := List.exists_cons_of_ne_nil hSome
  obtain ⟨child, hChild, hFound⟩ := Item.at?_cons_eq_some_iff.1 hPath
  obtain ⟨hNode, hSiblings⟩ := Item.forall_of_child? hRoot hChild
  exact Item.inherited_at? hInherited hNode hSiblings hFound

end Node

/-! ## All nodes of a tree -/

/-- A node is the other one, or it stands below it. -/
def Node.IsBelow (node upper : Node) : Prop :=
  Relation.ReflTransGen (fun upper node => node ∈ upper.children) upper node

/-- A property holds of a node and of all nodes below it. -/
inductive Node.All (P : Node → Prop) : Node → Prop
  | intro {node : Node} (hSelf : P node) (hBelow : ∀ child ∈ node.children, All P child) :
    All P node

namespace Node.All

variable {P : Node → Prop} {node : Node}

theorem self (hAll : node.All P) : P node := by
  cases hAll with
  | intro hSelf hBelow => exact hSelf

theorem children (hAll : node.All P) : ∀ child ∈ node.children, child.All P := by
  cases hAll with
  | intro hSelf hBelow => exact hBelow

theorem leaf (hSelf : P node) (hLeaf : node.children = []) : node.All P :=
  .intro hSelf (by simp [hLeaf])

/-- A node below has the property, with all that is below it. -/
theorem of_isBelow {below : Node} (hAll : node.All P) (hBelow : below.IsBelow node) :
    below.All P := by
  induction hBelow with
  | refl => exact hAll
  | tail _ hChild ih => exact ih.children _ hChild

/-- The items of a file are nodes of its tree. -/
theorem fileItems (hAll : node.All P) : ∀ item ∈ node.fileItems, item.node.All P :=
  fun _ hItem => (Node.inherited_of_mem_fileItems (fun _ => children) hAll.children hItem).1

end Node.All

end FunctionCatalog
