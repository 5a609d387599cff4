import FunctionCatalog.Proofs.Comment.Disjoint
import FunctionCatalog.Proofs.Extraction.FunctionRecord

/-!
# Comments behind an item

A comment on the row on which an item ends belongs to that item. Whether a comment is one of these
is seen from the sibling in front of it, so only the first of several comments on that row is kept
from what follows.

## Main results

* `Node.attachedRun_untrailed` — no attached comment begins on the row on which the item before it
  ends, if there is one comment on that row at most.
* `Node.attachedRun_trailed` — of two comments on that row, the second is attached.
-/

namespace FunctionCatalog

theorem Bytes.row_le_row (source : Bytes) {offset offset' : Nat} (h : offset ≤ offset') :
    Bytes.row source offset ≤ Bytes.row source offset' :=
  List.Sublist.count_le _ (List.take_sublist_take_left h)

namespace Node

private theorem lastRow_le (source : Bytes) (node : Node) :
    node.lastRow source ≤ Bytes.row source node.stop := by
  rw [lastRow]
  split <;> omega

/-- A run that reaches the row on which an item ends leaves out the comment next to the item. -/
theorem IsRun.exists_unattached {source : Bytes} {next : Nat} {comments rest run : List Node}
    {previous : Node} (hOrder : LieInFront next (comments ++ previous :: rest))
    (hPrevious : previous.kind ≠ .comment)
    (hRun : IsRun source next (comments ++ previous :: rest) run) {member : Node}
    (hMember : member ∈ run) (hRow : member.firstRow source = previous.lastRow source) :
    ∃ nearer beside, comments = nearer ++ [beside] ∧ run <+: nearer ∧
      beside.firstRow source = previous.lastRow source := by
  have hNear := prefix_of_barrier hPrevious hRun.nearest hRun.comments
  obtain rfl | ⟨nearer, beside, rfl⟩ := List.eq_nil_or_concat' comments
  · exact absurd (hNear.subset hMember) List.not_mem_nil
  · rw [List.append_assoc, List.singleton_append] at hOrder
    -- The comment next to the item begins behind the item and no later than the member.
    have hBeside : previous.stop ≤ beside.start := by
      have hSplit : LieInFront next ((nearer ++ [beside]) ++ previous :: rest) := by
        rwa [List.append_assoc]
      exact hSplit.stop_le_start (by simp)
    have hMemberStart : beside.start ≤ member.start := by
      rcases List.mem_append.1 (hNear.subset hMember) with hMem | hMem
      · have hReach : beside.start ≤ beside.stop := (hOrder.mem (by simp)).1
        exact Nat.le_trans hReach (hOrder.stop_le_start hMem)
      · obtain rfl := List.mem_singleton.1 hMem
        exact Nat.le_refl _
    have hBesideRow : beside.firstRow source = previous.lastRow source := by
      refine Nat.le_antisymm ?_ ?_
      · exact hRow ▸ Bytes.row_le_row source hMemberStart
      · exact Nat.le_trans (lastRow_le source previous) (Bytes.row_le_row source hBeside)
    refine ⟨nearer, beside, rfl, ?_, hBesideRow⟩
    rcases List.prefix_concat_iff.1 hNear with rfl | hNearer
    · have hTrailed := hRun.untrailed nearer.length beside (by simp)
      simp [isTrailing, hPrevious, hBesideRow] at hTrailed
    · exact hNearer

/-- A comment on the row on which the item before it ends is attached only if another stands between
the two, on the same row. Where there is one comment on the row at most, none of it is attached. -/
theorem attachedRun_untrailed {source : Bytes} {root : Node} (hRoot : root.LiesIn 0 source.length)
    {path : List Nat} {item : Item} (hItem : root.itemAt? path = some item)
    {comments rest : List Node} {previous : Node}
    (hBefore : item.before = comments ++ previous :: rest) (hPrevious : previous.kind ≠ .comment) :
    (∀ member ∈ item.attachedRun source, member.firstRow source = previous.lastRow source →
      ∃ nearer beside, comments = nearer ++ [beside] ∧ item.attachedRun source <+: nearer ∧
        beside.firstRow source = previous.lastRow source) ∧
      ((comments.filter fun comment =>
          comment.firstRow source == previous.lastRow source).length ≤ 1 →
        ∀ member ∈ item.attachedRun source, member.firstRow source ≠ previous.lastRow source) := by
  have hOrder := (Node.itemAt?_liesIn hRoot hItem).before
  have hRun : IsRun source item.node.start item.before (item.attachedRun source) :=
    isRun_attachedRun
  rw [hBefore] at hOrder hRun
  have hBeside := fun (member : Node) (hMember : member ∈ item.attachedRun source) hRow =>
    hRun.exists_unattached hOrder hPrevious hMember hRow
  refine ⟨hBeside, fun hOne member hMember hRow => ?_⟩
  obtain ⟨nearer, beside, rfl, hNearer, hRow'⟩ := hBeside member hMember hRow
  have hInNearer : member ∈ nearer.filter fun comment =>
      comment.firstRow source == previous.lastRow source :=
    List.mem_filter.2 ⟨hNearer.subset hMember, by simpa using hRow⟩
  have hSome := List.length_pos_of_mem hInNearer
  rw [List.filter_append, List.filter_cons_of_pos (by simpa using hRow'), List.filter_nil,
    List.length_append, List.length_singleton] at hOne
  omega

/-- In `int x; /*a*/` with `int f;` on the next line, the comment belongs to `x`. -/
theorem attachedRun_untrailed_one_comment :
    let source : Bytes :=
      [0x69, 0x6E, 0x74, 0x20, 0x78, 0x3B, 0x20, 0x2F, 0x2A, 0x61, 0x2A, 0x2F, 0x0A, 0x69, 0x6E,
        0x74, 0x20, 0x66, 0x3B]
    let previous := Node.spanning .declaration 0 6 none []
    let comment := Node.spanning .comment 7 12 none []
    let declaration := Node.spanning .declaration 13 19 none []
    let root := Node.spanning (.other "translation_unit") 0 19 none [previous, comment, declaration]
    let item : Item := ⟨declaration, [comment, previous]⟩
    root.LiesIn 0 source.length ∧ root.itemAt? [2] = some item ∧
      comment.firstRow source = previous.lastRow source ∧
      ∀ member ∈ item.attachedRun source, member.firstRow source ≠ previous.lastRow source := by
  intro source previous comment declaration root item
  have hRoot : root.LiesIn 0 source.length := by
    simp [root, source, previous, comment, declaration, Node.spanning, Node.LiesIn, Node.LieInOrder]
  have hItem : root.itemAt? [2] = some item := rfl
  have hBefore : item.before = [comment] ++ previous :: [] := rfl
  exact ⟨hRoot, hItem, by decide,
    (attachedRun_untrailed hRoot hItem hBefore (by decide)).2 (by decide)⟩

/-- In `int counter; /* a */ /* b */` with `int add(int a, int b);` on the next line, the second
comment begins on the row on which `counter` ends, and is attached to `add`. -/
theorem attachedRun_trailed :
    let source : Bytes :=
      [0x69, 0x6E, 0x74, 0x20, 0x63, 0x6F, 0x75, 0x6E, 0x74, 0x65, 0x72, 0x3B, 0x20, 0x2F, 0x2A,
        0x20, 0x61, 0x20, 0x2A, 0x2F, 0x20, 0x2F, 0x2A, 0x20, 0x62, 0x20, 0x2A, 0x2F, 0x0A, 0x69,
        0x6E, 0x74, 0x20, 0x61, 0x64, 0x64, 0x28, 0x69, 0x6E, 0x74, 0x20, 0x61, 0x2C, 0x20, 0x69,
        0x6E, 0x74, 0x20, 0x62, 0x29, 0x3B, 0x0A]
    let previous := Node.spanning .declaration 0 12 none []
    let first := Node.spanning .comment 13 20 none []
    let second := Node.spanning .comment 21 28 none []
    let declaration := Node.spanning .declaration 29 51 none []
    let root := Node.spanning (.other "translation_unit") 0 52 none
      [previous, first, second, declaration]
    let item : Item := ⟨declaration, [second, first, previous]⟩
    root.LiesIn 0 source.length ∧ root.itemAt? [3] = some item ∧
      item.attachedRun source = [second] ∧ second.firstRow source = previous.lastRow source ∧
      item.node.commentTokens source item.before = ["b"] := by
  intro source previous first second declaration root item
  refine ⟨?_, rfl, by rfl, by decide, by rfl⟩
  simp [root, source, previous, first, second, declaration, Node.spanning, Node.LiesIn,
    Node.LieInOrder]

end Node

end FunctionCatalog
