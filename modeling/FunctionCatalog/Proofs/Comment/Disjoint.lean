import FunctionCatalog.Proofs.Comment.Attachment

/-!
# Whose comment a comment is

The comment attached to a node lies between the node and the nearest sibling in front of it that is
no comment, and inside the parent of both. So it is the comment of no other node, wherever in the
tree that one stands.

## Main results

* `Node.itemAt?_disjoint` — the comments attached to two nodes have no byte in common.
-/

namespace FunctionCatalog

namespace Node

/-- A run ends at the nearest sibling that is no comment. -/
theorem prefix_of_barrier {near far run : List Node} {barrier : Node}
    (hBarrier : barrier.kind ≠ .comment) (hRun : run <+: near ++ barrier :: far)
    (hComments : ∀ comment ∈ run, comment.kind = .comment) : run <+: near := by
  induction near generalizing run with
  | nil =>
      cases run with
      | nil => exact List.nil_prefix
      | cons last rest =>
          obtain ⟨rfl, -⟩ := List.cons_prefix_cons.1 hRun
          exact absurd (hComments last List.mem_cons_self) hBarrier
  | cons nearest near ih =>
      cases run with
      | nil => exact List.nil_prefix
      | cons last rest =>
          obtain ⟨rfl, hRest⟩ := List.cons_prefix_cons.1 hRun
          exact List.cons_prefix_cons.2 ⟨rfl, ih hRest (List.forall_mem_cons.1 hComments).2⟩

end Node

/-- Whether nothing on the way that a path goes is a comment. -/
def Item.IsOutsideComments (item : Item) (path : List Nat) : Prop :=
  ∀ front upper, front <+: path → item.at? front = some upper → upper.node.kind ≠ .comment

/-- Whether what a path leads to is neither a comment nor part of one. -/
def Node.IsOutsideComments (root : Node) (path : List Nat) : Prop :=
  Item.IsOutsideComments ⟨root, []⟩ path

namespace Item

variable {source : Bytes} {low high number number' : Nat} {path path' : List Nat}
  {item child child' found found' : Item} {start stop start' stop' : Nat}

theorem IsOutsideComments.kind_ne (h : item.IsOutsideComments path) : item.node.kind ≠ .comment :=
  h [] item List.nil_prefix rfl

theorem IsOutsideComments.below (h : item.IsOutsideComments (number :: path))
    (hChild : item.child? number = some child) : child.IsOutsideComments path :=
  fun front upper hFront hUpper =>
    h (number :: front) upper (List.cons_prefix_cons.2 ⟨rfl, hFront⟩)
      (at?_cons_eq_some_iff.2 ⟨child, hChild, hUpper⟩)

/-- A child stands in front of every later one. -/
theorem exists_before_of_lt (hChild : item.child? number = some child)
    (hChild' : item.child? number' = some child') (hLess : number < number') :
    ∃ near far, child'.before = near ++ child.node :: far := by
  obtain ⟨front, back, hChildren, rfl, -⟩ := child?_eq_some_iff.1 hChild
  obtain ⟨front', back', hChildren', rfl, hBefore⟩ := child?_eq_some_iff.1 hChild'
  have hMiddle : front ++ [child.node] <+: front' := by
    have hLength : (front ++ [child.node]).length ≤ front'.length := by
      rw [List.length_append, List.length_singleton]
      exact hLess
    have hFront : front ++ [child.node] <+: item.node.children :=
      ⟨back, by rw [hChildren, List.append_assoc, List.singleton_append]⟩
    have hFront' : front' <+: item.node.children := ⟨child'.node :: back', hChildren'.symm⟩
    exact List.prefix_of_prefix_length_le hFront hFront' hLength
  obtain ⟨middle, rfl⟩ := hMiddle
  exact ⟨middle.reverse, front.reverse, by simp [hBefore]⟩

/-- Comments in and in front of a child lie in front of those of later children, if it is none
itself. -/
theorem stop_le_start_of_lt (hItem : item.node.LiesIn low high)
    (hChild : item.child? number = some child) (hChild' : item.child? number' = some child')
    (hLess : number < number') (hKind : child.node.kind ≠ .comment)
    (hFound : child.at? path = some found) (hFound' : child'.at? path' = some found')
    (hRange : found.commentRange? source = some (start, stop))
    (hRange' : found'.commentRange? source = some (start', stop')) : stop ≤ start' := by
  have hLies := liesIn_child? hItem hChild
  have hLies' := liesIn_child? hItem hChild'
  obtain ⟨near, far, hBefore⟩ := exists_before_of_lt hChild hChild' hLess
  have hStop : stop ≤ child.node.stop := by
    have hFoundLies := node_liesIn_at? hLies.node hFound
    have hBehind := (commentRange?_bounds (liesIn_at? hLies hFound) hRange).2.2
    exact Nat.le_trans hBehind (Nat.le_trans hFoundLies.start_le_stop hFoundLies.stop_le_high)
  have hStart : child.node.stop ≤ start' := by
    cases path' with
    | nil =>
        obtain rfl := Option.some.inj hFound'
        have hPrefix := attachedRun_isPrefix source child'
        obtain ⟨-, -, first, hFirst, rfl⟩ := Node.span?_bounds hLies'.before hPrefix hRange'
        have hFront := hLies'.before
        rw [hBefore] at hPrefix hFront
        have hNear := Node.prefix_of_barrier hKind hPrefix Node.isRun_attachedRun.comments
        exact hFront.stop_le_start (hNear.subset hFirst)
    | cons next path' =>
        have hBehind := (commentRange?_bounds (liesIn_below hLies'.node hFound') hRange').1
        have hMem : child.node ∈ child'.before := by simp [hBefore]
        exact Nat.le_trans (hLies'.before.mem hMem).2 hBehind
  exact Nat.le_trans hStop hStart

/-- The comments of what two paths lead to have no byte in common, if neither path goes through a
comment. -/
theorem disjoint_at? (hItem : item.LiesIn low high)
    (hFound : item.at? path = some found) (hFound' : item.at? path' = some found')
    (hNe : path ≠ path') (hOutside : item.IsOutsideComments path)
    (hOutside' : item.IsOutsideComments path')
    (hRange : found.commentRange? source = some (start, stop))
    (hRange' : found'.commentRange? source = some (start', stop')) :
    stop ≤ start' ∨ stop' ≤ start := by
  induction path generalizing path' item low high with
  | nil =>
      cases path' with
      | nil => exact absurd rfl hNe
      | cons number' path' =>
          -- The comment of a node lies in front of all that is below the node.
          obtain rfl := Option.some.inj hFound
          have hFront := (commentRange?_bounds hItem hRange).2.2
          have hBelow := (commentRange?_bounds (liesIn_below hItem.node hFound') hRange').1
          exact .inl (Nat.le_trans hFront hBelow)
  | cons number path ih =>
      cases path' with
      | nil =>
          obtain rfl := Option.some.inj hFound'
          have hFront := (commentRange?_bounds hItem hRange').2.2
          have hBelow := (commentRange?_bounds (liesIn_below hItem.node hFound) hRange).1
          exact .inr (Nat.le_trans hFront hBelow)
      | cons number' path' =>
          obtain ⟨child, hChild, hInChild⟩ := at?_cons_eq_some_iff.1 hFound
          obtain ⟨child', hChild', hInChild'⟩ := at?_cons_eq_some_iff.1 hFound'
          rcases Nat.lt_trichotomy number number' with hLess | rfl | hLess
          · exact .inl (stop_le_start_of_lt hItem.node hChild hChild' hLess
              (hOutside.below hChild).kind_ne hInChild hInChild' hRange hRange')
          · obtain rfl := Option.some.inj (hChild.symm.trans hChild')
            exact ih (liesIn_child? hItem.node hChild) hInChild hInChild'
              (fun hSame => hNe (congrArg _ hSame)) (hOutside.below hChild) (hOutside'.below hChild)
          · exact .inr (stop_le_start_of_lt hItem.node hChild' hChild hLess
              (hOutside'.below hChild').kind_ne hInChild' hInChild hRange' hRange)

end Item

namespace Node

variable {low high : Nat} {root : Node}

/-- The comments attached to two nodes have no byte in common. -/
theorem itemAt?_disjoint (hRoot : root.LiesIn low high) {source : Bytes} {path path' : List Nat}
    {item item' : Item} (hItem : root.itemAt? path = some item)
    (hItem' : root.itemAt? path' = some item') (hNe : path ≠ path')
    (hOutside : root.IsOutsideComments path) (hOutside' : root.IsOutsideComments path')
    {start stop start' stop' : Nat} (hRange : item.commentRange? source = some (start, stop))
    (hRange' : item'.commentRange? source = some (start', stop')) :
    stop ≤ start' ∨ stop' ≤ start :=
  Item.disjoint_at? hRoot.alone hItem hItem' hNe hOutside hOutside' hRange hRange'

end Node

end FunctionCatalog
