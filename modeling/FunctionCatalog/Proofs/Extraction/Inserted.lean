import FunctionCatalog.Proofs.Comment.Inserted
import FunctionCatalog.Proofs.Extraction.Appending

/-!
# Items before and behind inserted bytes

An item in front of some inserted bytes does not notice them, and one behind them has moved and
shows the same as before. Either way it has the same effect on a walk, wherever the walk is.

## Main results

* `Node.itemsAmong_inserted`, `Node.itemsOfBody_inserted` — the items in front.
* `Node.itemsAmong_shifted`, `Node.itemsOfBody_shifted` — the items behind.
-/

namespace FunctionCatalog

/-! ## Items with the same effect -/

/-- Items that add the same to a walk, one by one, each over its own source. -/
def SameEffect (source source' : Bytes) (items items' : List Item) : Prop :=
  List.Forall₂
    (fun item item' => ∀ walk : Walk, walk.takeIn source' item' = walk.takeIn source item)
    items items'

section SameEffect

variable {source source' : Bytes} {items items' : List Item}

theorem SameEffect.foldl_eq (h : SameEffect source source' items items') (walk : Walk) :
    items'.foldl (Walk.takeIn source') walk = items.foldl (Walk.takeIn source) walk := by
  induction h generalizing walk with
  | nil => rfl
  | cons hItem hRest ih => rw [List.foldl_cons, List.foldl_cons, hItem, ih]

private theorem SameEffect.of_forall
    (h : ∀ item ∈ items, ∀ walk : Walk, walk.takeIn source' item = walk.takeIn source item) :
    SameEffect source source' items items :=
  List.forall₂_same.2 h

end SameEffect

namespace Node

/-! ## Items that have moved -/

section Moved

variable {front inserted back : Bytes} {low high : Nat} {before before' : List Node}

private theorem takeIn_shifted {node : Node} (hNode : node.LiesIn low high)
    (hLow : front.length ≤ low) (hBefore : MovedBack front inserted back before before')
    (walk : Walk) :
    walk.takeIn (front ++ inserted ++ back) ⟨node.shifted inserted.length, before'⟩ =
      walk.takeIn (front ++ back) ⟨node, before⟩ := by
  have hAlike : AlikeInOrder (front ++ back) (front ++ inserted ++ back) node
      (node.shifted inserted.length) := alikeInOrder_shifted hNode hLow
  rw [Walk.takeIn_eq_foldl, Walk.takeIn_eq_foldl, hBefore.commentTokens_eq (shifted_start ..),
    hAlike.alike.declarations_eq]

/-- The items that a node stands for, by its kind. -/
theorem items_eq (before : List Node) (node : Node) :
    node.items before =
      match node.kind with
      | .conditionalBlock | .declarationList => itemsAmong [] node.children
      | .linkageSpecification => itemsOfBody [] node.children
      | _ => [⟨node, before⟩] := by
  obtain ⟨kind, start, stop, isNamed, hasError, field?, children⟩ := node
  cases kind <;> rfl

mutual

private theorem items_shifted : ∀ {low high : Nat} {before before' : List Node} {node : Node},
    node.LiesIn low high → front.length ≤ low → high ≤ (front ++ back).length →
    MovedBack front inserted back before before' →
      SameEffect (front ++ back) (front ++ inserted ++ back) (node.items before)
        ((node.shifted inserted.length).items before')
  | low, high, before, before', ⟨kind, start, stop, isNamed, hasError, field?, children⟩, hNode,
    hLow, hHigh, hBefore => by
      have hStart : front.length ≤ start := Nat.le_trans hLow hNode.low_le_start
      have hStop : stop ≤ (front ++ back).length := Nat.le_trans hNode.stop_le_high hHigh
      have hAmong : SameEffect (front ++ back) (front ++ inserted ++ back) (itemsAmong [] children)
          (itemsAmong [] (allShifted inserted.length children)) :=
        itemsAmong_shifted hNode.children hStart hStop .none
      have hBody : SameEffect (front ++ back) (front ++ inserted ++ back) (itemsOfBody [] children)
          (itemsOfBody [] (allShifted inserted.length children)) :=
        itemsOfBody_shifted hNode.children hStart hStop .none
      rw [items_eq, items_eq, shifted_kind, shifted_children]
      cases kind with
      | conditionalBlock => exact hAmong
      | declarationList => exact hAmong
      | linkageSpecification => exact hBody
      | _ => exact .cons (takeIn_shifted hNode hLow hBefore) .nil

theorem itemsAmong_shifted : ∀ {low high : Nat} {before before' nodes : List Node},
    LieInOrder low high nodes → front.length ≤ low → high ≤ (front ++ back).length →
    MovedBack front inserted back before before' →
      SameEffect (front ++ back) (front ++ inserted ++ back) (itemsAmong before nodes)
        (itemsAmong before' (allShifted inserted.length nodes))
  | _, _, _, _, [], _, _, _, _ => .nil
  | low, high, before, before', node :: rest, ⟨hNode, hRest⟩, hLow, hHigh, hBefore => by
      have hStart : front.length ≤ node.start := Nat.le_trans hLow hNode.low_le_start
      have hStop : front.length ≤ node.stop := Nat.le_trans hStart hNode.start_le_stop
      have hNext := hBefore.moved hStart hNode.start_le_stop (Nat.le_trans hNode.stop_le_high hHigh)
      have hHere := items_shifted hNode hLow hHigh hBefore
      have hThere := itemsAmong_shifted hRest hStop hHigh hNext
      rw [allShifted, itemsAmong, itemsAmong, shifted_isNamed]
      split
      · exact List.rel_append hHere hThere
      · exact hThere

theorem itemsOfBody_shifted : ∀ {low high : Nat} {before before' nodes : List Node},
    LieInOrder low high nodes → front.length ≤ low → high ≤ (front ++ back).length →
    MovedBack front inserted back before before' →
      SameEffect (front ++ back) (front ++ inserted ++ back) (itemsOfBody before nodes)
        (itemsOfBody before' (allShifted inserted.length nodes))
  | _, _, _, _, [], _, _, _, _ => .nil
  | low, high, before, before', node :: rest, ⟨hNode, hRest⟩, hLow, hHigh, hBefore => by
      have hStart : front.length ≤ node.start := Nat.le_trans hLow hNode.low_le_start
      have hStop : front.length ≤ node.stop := Nat.le_trans hStart hNode.start_le_stop
      have hNext := hBefore.moved hStart hNode.start_le_stop (Nat.le_trans hNode.stop_le_high hHigh)
      have hHere := items_shifted hNode hLow hHigh hBefore
      have hThere := itemsOfBody_shifted hRest hStop hHigh hNext
      rw [allShifted, itemsOfBody, itemsOfBody, shifted_field?]
      split
      · exact hHere
      · exact hThere

end

end Moved

/-! ## Items in front -/

section InFront

variable {low high size : Nat}

mutual

theorem LiesIn.within : ∀ {low high : Nat} {node : Node}, node.LiesIn low high → high ≤ size →
    node.Within size
  | _, _, ⟨_, start, stop, _, _, _, children⟩, ⟨_, hOrder, hStop, hChildren⟩, hHigh => by
      have hSize : stop ≤ size := Nat.le_trans hStop hHigh
      exact ⟨Nat.le_trans hOrder hSize, hSize, LieInOrder.within hChildren hSize⟩

theorem LieInOrder.within : ∀ {low high : Nat} {nodes : List Node}, LieInOrder low high nodes →
    high ≤ size → AllWithin size nodes
  | _, _, [], _, _ => trivial
  | _, _, _ :: _, ⟨hNode, hRest⟩, hHigh => ⟨hNode.within hHigh, hRest.within hHigh⟩

end

/-- What comes before a node lies in front of it. -/
theorem LieInOrder.split {earlier later : List Node} {node : Node}
    (h : LieInOrder low high (earlier ++ node :: later)) :
    LieInOrder low node.start earlier ∧ node.LiesIn low high ∧ LieInOrder node.stop high later := by
  induction earlier generalizing low with
  | nil => exact ⟨trivial, h.1, h.2⟩
  | cons first rest ih =>
      obtain ⟨hFirst, hRest⟩ := h
      obtain ⟨hEarlier, hNode, hLater⟩ := ih hRest
      have hReach := Nat.le_trans hFirst.low_le_start hFirst.start_le_stop
      refine ⟨⟨?_, hEarlier⟩, hNode.mono hReach (Nat.le_refl _), hLater⟩
      exact liesIn_iff.2 ⟨hFirst.low_le_start, hFirst.start_le_stop, hNode.low_le_start,
        hFirst.children⟩

theorem endsWithin_of_mem {nodes : List Node} (hNodes : AllWithin size nodes) {node : Node}
    (hMem : node ∈ nodes) : node.EndsWithin size :=
  ⟨(hNodes.within hMem).start_le, (hNodes.within hMem).stop_le⟩

variable {front back : Bytes} (inserted : Bytes)

/-- Items in front of the inserted bytes do not notice them. -/
theorem takeIn_inserted {item : Item} (hItem : InBytes front.length item) (walk : Walk) :
    walk.takeIn (front ++ inserted ++ back) item = walk.takeIn (front ++ back) item := by
  rw [List.append_assoc, takeIn_append _ walk hItem, takeIn_append _ walk hItem]

theorem itemsAmong_inserted {nodes : List Node} (hNodes : AllWithin front.length nodes) :
    SameEffect (front ++ back) (front ++ inserted ++ back) (itemsAmong [] nodes)
      (itemsAmong [] nodes) := by
  refine .of_forall fun item hItem => takeIn_inserted inserted ?_
  obtain ⟨path, hPath, hSome⟩ := exists_at?_of_mem_itemsAmong
    ⟨.spanning .declarationList 0 0 none nodes, []⟩ [] nodes rfl item hItem
  exact inBytes_at? hNodes hPath hSome

theorem itemsOfBody_inserted {nodes : List Node} (hNodes : AllWithin front.length nodes) :
    SameEffect (front ++ back) (front ++ inserted ++ back) (itemsOfBody [] nodes)
      (itemsOfBody [] nodes) := by
  refine .of_forall fun item hItem => takeIn_inserted inserted ?_
  obtain ⟨path, hPath, hSome⟩ := exists_at?_of_mem_itemsOfBody
    ⟨.spanning .linkageSpecification 0 0 none nodes, []⟩ [] nodes rfl item hItem
  exact inBytes_at? hNodes hPath hSome

end InFront

end Node

end FunctionCatalog
