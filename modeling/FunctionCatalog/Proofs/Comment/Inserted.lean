import FunctionCatalog.Proofs.Tree.Inserted

/-!
# Comments behind inserted bytes

Looking for the comments of a node goes back over its siblings, and no further than to the nearest
one that is no comment. So for a node behind the place where bytes are put in, it matters that the
siblings up to there have moved along, and how that one stands to the comment behind it.

## Main results

* `Node.MovedBack.commentTokens_eq` — a node that has moved along keeps the tokens of its comment.
-/

namespace FunctionCatalog

namespace Node

/-- Siblings, the nearest first, before and after bytes were put in front of the nearest ones. They
have moved along, as far back as a run of comments can go: to an item that ends as many rows further
down. -/
inductive MovedBack (front inserted back : Bytes) : List Node → List Node → Prop
  | none : MovedBack front inserted back [] []
  | item {node node' : Node} {before before' : List Node} (hKind : node.kind ≠ .comment)
    (hKind' : node'.kind ≠ .comment)
    (hRow : node'.lastRow (front ++ inserted ++ back) =
      node.lastRow (front ++ back) + inserted.count 0x0A) :
    MovedBack front inserted back (node :: before) (node' :: before')
  | moved {node : Node} {before before' : List Node} (hStart : front.length ≤ node.start)
    (hOrder : node.start ≤ node.stop) (hHigh : node.stop ≤ (front ++ back).length)
    (hBefore : MovedBack front inserted back before before') :
    MovedBack front inserted back (node :: before) (node.shifted inserted.length :: before')

private theorem span?_allShifted (width : Nat) (run : List Node) :
    span? (allShifted width run) =
      (span? run).map fun range => (range.1 + width, range.2 + width) := by
  rw [allShifted_eq_map, span?, span?, List.getLast?_map, List.head?_map]
  cases run.getLast? <;> cases run.head? <;> simp

namespace MovedBack

variable {front inserted back : Bytes} {before before' : List Node}

private theorem isTrailing_eq (hBefore : MovedBack front inserted back before before')
    {comment : Node} (hStart : front.length ≤ comment.start) :
    (comment.shifted inserted.length).isTrailing (front ++ inserted ++ back) before' =
      comment.isTrailing (front ++ back) before := by
  have hComment : (comment.shifted inserted.length).firstRow (front ++ inserted ++ back) =
      comment.firstRow (front ++ back) + inserted.count 0x0A := firstRow_shifted hStart
  have hRows : ∀ row row' rows : Nat, (row + rows == row' + rows) = (row == row') :=
    fun row row' rows => by rw [Bool.eq_iff_iff, beq_iff_eq, beq_iff_eq, Nat.add_right_cancel_iff]
  cases hBefore with
  | none => rfl
  | item hKind hKind' hRow =>
      rw [isTrailing, isTrailing, hRow, hComment, hRows, bne_iff_ne.2 hKind, bne_iff_ne.2 hKind']
  | moved hStart hOrder hHigh hBefore =>
      rw [isTrailing, isTrailing, lastRow_shifted hStart hOrder hHigh, hComment, hRows,
        shifted_kind]

/-- The comments in front of an offset move along with it. -/
theorem attachedRun_eq (hBefore : MovedBack front inserted back before before')
    (hasMember : Bool) (next : Nat) :
    attachedRun (front ++ inserted ++ back) hasMember (next + inserted.length) before' =
      allShifted inserted.length (attachedRun (front ++ back) hasMember next before) := by
  induction hBefore generalizing hasMember next with
  | none => rfl
  | item hKind hKind' hRow =>
      rw [attachedRun_of_not_comment hKind, attachedRun_of_not_comment hKind']
      rfl
  | moved hStart hOrder hHigh hBefore ih =>
      rw [attachedRun, attachedRun, joinsRun, joinsRun, isTrailing_eq hBefore hStart, shifted_kind,
        shifted_stop, Bytes.slice_inserted inserted (Nat.le_trans hStart hOrder), shifted_start, ih]
      split <;> rfl

private theorem start_of_mem_attachedRun (hBefore : MovedBack front inserted back before before')
    {hasMember : Bool} {next : Nat} {comment : Node}
    (hMem : comment ∈ attachedRun (front ++ back) hasMember next before) :
    front.length ≤ comment.start := by
  induction hBefore generalizing hasMember next with
  | none => exact absurd hMem List.not_mem_nil
  | item hKind hKind' hRow =>
      rw [attachedRun_of_not_comment hKind] at hMem
      exact absurd hMem List.not_mem_nil
  | moved hStart hOrder hHigh hBefore ih =>
      rw [attachedRun] at hMem
      split at hMem
      · rcases List.mem_cons.1 hMem with rfl | hMem
        · exact hStart
        · exact ih hMem
      · exact absurd hMem List.not_mem_nil

theorem attachedComment?_eq (hBefore : MovedBack front inserted back before before')
    {node node' : Node} (hStart : node'.start = node.start + inserted.length) :
    node'.attachedComment? (front ++ inserted ++ back) before' =
      node.attachedComment? (front ++ back) before := by
  rw [Node.attachedComment?_eq, Node.attachedComment?_eq, hStart, hBefore.attachedRun_eq,
    span?_allShifted, Option.map_map]
  refine Option.map_congr fun range hRange => ?_
  have hFirst : front.length ≤ range.1 := by
    obtain ⟨first, hLast, hRange⟩ := Option.bind_eq_some_iff.1 hRange
    obtain ⟨last, -, hRange⟩ := Option.bind_eq_some_iff.1 hRange
    obtain rfl := Option.some.inj hRange
    exact hBefore.start_of_mem_attachedRun (List.mem_of_getLast? hLast)
  exact Bytes.slice_inserted inserted hFirst

/-- A node that has moved along keeps the tokens of its comment. -/
theorem commentTokens_eq (hBefore : MovedBack front inserted back before before')
    {node node' : Node} (hStart : node'.start = node.start + inserted.length) :
    node'.commentTokens (front ++ inserted ++ back) before' =
      node.commentTokens (front ++ back) before := by
  rw [commentTokens, commentTokens, hBefore.attachedComment?_eq hStart]

end MovedBack

end Node

end FunctionCatalog
