import FunctionCatalog.Proofs.Comment.Attachment
import FunctionCatalog.Proofs.Extraction.Alike
import FunctionCatalog.Proofs.Tree.Agreement

/-!
# Appending to a file

What a walk finds does not depend on what comes later: neither on later items, because a walk only
ever adds records, nor on the bytes behind the items, because an item shows nothing but its own
bytes and the ones between it and its comment.

## Main results

* `Walk.records_isPrefix_foldl` — a walk never takes a record back.
* `Node.records_isPrefix_append` — appending to a file keeps its records, comments included.
-/

namespace FunctionCatalog

variable {source : Bytes}

/-! ## Later items -/

private theorem Walk.records_isPrefix_add (comment : List String) (walk : Walk)
    (declaration : ItemDeclaration) : walk.records <+: (walk.add comment declaration).records := by
  cases declaration with
  | typeName name declaration => exact List.prefix_rfl
  | value declaration => exact List.prefix_append _ _

private theorem Walk.records_isPrefix_foldl_add (comment : List String)
    (declarations : List ItemDeclaration) (walk : Walk) :
    walk.records <+: (declarations.foldl (Walk.add comment) walk).records := by
  induction declarations generalizing walk with
  | nil => exact List.prefix_rfl
  | cons declaration rest ih => exact (walk.records_isPrefix_add comment declaration).trans (ih _)

/-- A walk never takes a record back. -/
theorem Walk.records_isPrefix_foldl (items : List Item) (walk : Walk) :
    walk.records <+: (items.foldl (Walk.takeIn source) walk).records := by
  induction items generalizing walk with
  | nil => exact List.prefix_rfl
  | cons item rest ih =>
      have hItem : walk.records <+: (walk.takeIn source item).records := by
        rw [Walk.takeIn_eq_foldl]
        exact walk.records_isPrefix_foldl_add _ _
      exact hItem.trans (ih _)

theorem Node.itemsAmong_append (before front back : List Node) :
    Node.itemsAmong before (front ++ back) =
      Node.itemsAmong before front ++ Node.itemsAmong (front.reverse ++ before) back := by
  induction front generalizing before with
  | nil => rfl
  | cons node rest ih =>
      rw [List.cons_append, Node.itemsAmong, Node.itemsAmong, ih, List.reverse_cons,
        List.append_assoc, List.singleton_append]
      cases node.isNamed with
      | true => rw [if_pos rfl, if_pos rfl, List.append_assoc]
      | false => rfl

/-- What a linkage specification applies to may be among the first nodes. -/
theorem Node.itemsOfBody_append (before front back : List Node) :
    Node.itemsOfBody before (front ++ back) =
      if front.any (·.field? == some .body) then Node.itemsOfBody before front
      else Node.itemsOfBody (front.reverse ++ before) back := by
  induction front generalizing before with
  | nil => rfl
  | cons node rest ih =>
      rw [List.cons_append, Node.itemsOfBody, Node.itemsOfBody, ih, List.any_cons]
      cases node.field? == some .body <;> simp

/-! ## Later bytes -/

namespace Node

/-- A node that starts and stops inside the given number of bytes. -/
def EndsWithin (size : Nat) (node : Node) : Prop :=
  node.start ≤ size ∧ node.stop ≤ size

private theorem row_append (more : Bytes) {offset : Nat} (h : offset ≤ source.length) :
    Bytes.row (source ++ more) offset = Bytes.row source offset := by
  rw [Bytes.row, Bytes.row, List.take_append_of_le_length h]

private theorem lastRow_append (more : Bytes) {node : Node}
    (h : node.EndsWithin source.length) :
    node.lastRow (source ++ more) = node.lastRow source := by
  rw [lastRow, lastRow, firstRow, firstRow, row_append more h.1, row_append more h.2,
    Bytes.startsRow, Bytes.startsRow, List.take_append_of_le_length h.2]

private theorem isTrailing_append (more : Bytes) {comment : Node} {before : List Node}
    (hComment : comment.EndsWithin source.length)
    (hBefore : ∀ sibling ∈ before, sibling.EndsWithin source.length) :
    comment.isTrailing (source ++ more) before = comment.isTrailing source before := by
  cases before with
  | nil => rfl
  | cons previous rest =>
      have hPrevious := hBefore previous List.mem_cons_self
      rw [isTrailing, isTrailing, lastRow_append more hPrevious, firstRow, firstRow,
        row_append more hComment.1]

private theorem attachedRun_append (more : Bytes) (hasMember : Bool) {next : Nat}
    (hNext : next ≤ source.length) {before : List Node}
    (hBefore : ∀ sibling ∈ before, sibling.EndsWithin source.length) :
    attachedRun (source ++ more) hasMember next before =
      attachedRun source hasMember next before := by
  induction before generalizing hasMember next with
  | nil => rfl
  | cons comment rest ih =>
      have hComment := hBefore comment List.mem_cons_self
      have hRest : ∀ sibling ∈ rest, sibling.EndsWithin source.length := fun sibling hSibling =>
        hBefore sibling (List.mem_cons_of_mem _ hSibling)
      rw [attachedRun, attachedRun, ih true hComment.1 hRest, joinsRun, joinsRun,
        slice_append source more hComment.2 hNext, isTrailing_append more hComment hRest]

theorem commentTokens_append (more : Bytes) {node : Node} {before : List Node}
    (hNode : node.start ≤ source.length)
    (hBefore : ∀ sibling ∈ before, sibling.EndsWithin source.length) :
    node.commentTokens (source ++ more) before = node.commentTokens source before := by
  have hComment : node.attachedComment? (source ++ more) before =
      node.attachedComment? source before := by
    rw [attachedComment?, attachedComment?, attachedRun_append more false hNode hBefore]
    cases hRun : attachedRun source false node.start before with
    | nil => rfl
    | cons last rest =>
        have hMember : ∀ comment ∈ last :: rest, comment.EndsWithin source.length :=
          fun comment hMem => hBefore comment (isRun_attachedRun.nearest.subset (hRun ▸ hMem))
        have hFirst : (last :: rest).getLastD last ∈ last :: rest := by
          rw [List.getLastD_cons]
          exact List.getLastD_mem_cons
        simp only [slice_append source more (hMember _ hFirst).1
          (hMember last List.mem_cons_self).2]
  rw [commentTokens, commentTokens, hComment]

/-- An item whose node and siblings end inside the given number of bytes. -/
def InBytes (size : Nat) (item : Item) : Prop :=
  item.node.Within size ∧ ∀ sibling ∈ item.before, sibling.EndsWithin size

theorem inBytes_at? {size : Nat} {parent item : Item}
    (hChildren : AllWithin size parent.node.children) {path : List Nat}
    (hFound : parent.at? path = some item) (hSome : path ≠ []) : InBytes size item := by
  obtain ⟨number, path, rfl⟩ := List.exists_cons_of_ne_nil hSome
  obtain ⟨child, hChild, hFound⟩ := Item.at?_cons_eq_some_iff.1 hFound
  obtain ⟨hNode, hSiblings⟩ := Item.forall_of_child? (fun _ => hChildren.within) hChild
  obtain ⟨hItem, hBefore⟩ := Item.inherited_at? (P := Within size)
    (fun _ hNode _ => hNode.children.within) hNode hSiblings hFound
  exact ⟨hItem, fun sibling hMem =>
    ⟨(hBefore sibling hMem).start_le, (hBefore sibling hMem).stop_le⟩⟩

private theorem inBytes_of_mem_fileItems {size : Nat} {root : Node} {item : Item}
    (hRoot : AllWithin size root.children) (hItem : item ∈ root.fileItems) :
    InBytes size item := by
  obtain ⟨path, hPath, hSome⟩ := exists_itemAt?_of_mem_fileItems hItem
  have hChildren : AllWithin size (Item.mk root []).node.children := hRoot
  exact inBytes_at? hChildren hPath hSome

theorem takeIn_append (more : Bytes) (walk : Walk) {item : Item}
    (hItem : InBytes source.length item) :
    walk.takeIn (source ++ more) item = walk.takeIn source item := by
  rw [Walk.takeIn_eq_foldl, Walk.takeIn_eq_foldl,
    ← (hItem.1.alikeInOrder more).alike.declarations_eq,
    commentTokens_append more hItem.1.start_le hItem.2]

end Node

/-- Appending items to a file, and the bytes behind it, keeps its records as they are. -/
theorem Node.records_isPrefix_append {root : Node} (naming : Naming)
    (hRoot : Node.AllWithin source.length root.children) (more : Bytes) (added : List Node) :
    (root.walkItems source naming).records <+:
      ({ root with children := root.children ++ added }.walkItems (source ++ more)
        naming).records := by
  have hItems : ∀ item ∈ root.fileItems, Node.InBytes source.length item := fun _ =>
    Node.inBytes_of_mem_fileItems hRoot
  have hSame : (Node.itemsAmong [] root.children).foldl (Walk.takeIn (source ++ more)) { naming } =
      (Node.itemsAmong [] root.children).foldl (Walk.takeIn source) { naming } :=
    List.foldl_ext _ _ _ fun walk item hItem => Node.takeIn_append more walk (hItems item hItem)
  rw [Node.walkItems_eq_foldl, Node.walkItems_eq_foldl, Node.fileItems, Node.fileItems,
    Node.itemsAmong_append, List.foldl_append, hSame]
  exact Walk.records_isPrefix_foldl _ _

end FunctionCatalog
