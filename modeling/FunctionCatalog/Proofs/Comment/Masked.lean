import FunctionCatalog.Proofs.Comment.Attachment
import FunctionCatalog.Proofs.LinkageGuard.Masking
import FunctionCatalog.Proofs.LinkageGuard.Outside
import FunctionCatalog.Proofs.Tree.Agreement

/-!
# Comments in a masked source

Masking moves no row and adds blanks only, so it joins comments but never parts them. The comment
that is attached to a node over a masked source is the one attached over the source itself, if no
masked range reaches into it or behind it.

## Main results

* `Item.commentTokens_masked` — the tokens are those of the source's own bytes then.
-/

namespace FunctionCatalog

open LinkageGuard

/-! ## Where masking makes no difference -/

/-- Whether no masked range has an offset from `start` to just before `stop` in it. -/
def Bytes.IsUnmaskedBetween (source : Bytes) (start stop : Nat) : Prop :=
  ∀ range ∈ ranges source, range.2 ≤ start ∨ stop ≤ range.1

theorem Bytes.IsUnmaskedBetween.agreeBetween {source : Bytes} {start stop : Nat}
    (h : source.IsUnmaskedBetween start stop) :
    Bytes.AgreeBetween (maskLinkageGuards source) source start stop := by
  intro offset hFrom hTo
  have hOutside : ((ranges source).any (Bytes.covers offset)) = false := by
    refine List.any_eq_false.2 fun range hRange => ?_
    have hSide := h range hRange
    simp only [Bytes.covers, Bool.and_eq_true, decide_eq_true_eq]
    omega
  rw [getElem?_maskLinkageGuards, hOutside, if_neg Bool.false_ne_true]

/-- Masking puts blanks only. -/
theorem Bytes.IsBlankBetween.masked {source : Bytes} {start stop : Nat}
    (h : Bytes.IsBlankBetween source start stop) :
    Bytes.IsBlankBetween (maskLinkageGuards source) start stop := by
  intro b hMem
  obtain ⟨index, hIndex⟩ := List.mem_iff_getElem?.1 hMem
  rw [getElem?_slice] at hIndex
  split at hIndex
  · next hInside =>
      rw [getElem?_maskLinkageGuards] at hIndex
      split at hIndex
      · obtain rfl := Option.some.inj hIndex
        rfl
      · refine h b (List.mem_iff_getElem?.2 ⟨index, ?_⟩)
        rw [getElem?_slice, if_pos hInside, hIndex]
  · simp at hIndex

private theorem row_masked (source : Bytes) (offset : Nat) :
    Bytes.row (maskLinkageGuards source) offset = Bytes.row source offset :=
  row_eq_of_lineEnds (map_lineEnd?_maskLinkageGuards source) offset

private theorem startsRow_masked (source : Bytes) (offset : Nat) :
    Bytes.startsRow (maskLinkageGuards source) offset = Bytes.startsRow source offset := by
  have hKind : ∀ bytes : Bytes, Bytes.startsRow bytes offset =
      (((bytes.map lineEnd?).take offset).getLast?.getD (some 0x0A) == some 0x0A) := by
    intro bytes
    rw [Bytes.startsRow, ← List.map_take, List.getLast?_map]
    cases (bytes.take offset).getLast? with
    | none => rfl
    | some b => exact (beq_lineEnd? b).symm
  rw [hKind, hKind, map_lineEnd?_maskLinkageGuards]

namespace Node

/-! ## Runs -/

private theorem lastRow_masked (source : Bytes) (node : Node) :
    node.lastRow (maskLinkageGuards source) = node.lastRow source := by
  rw [lastRow, lastRow, firstRow, firstRow, row_masked, row_masked, startsRow_masked]

private theorem isTrailing_masked (source : Bytes) (comment : Node) (before : List Node) :
    comment.isTrailing (maskLinkageGuards source) before = comment.isTrailing source before := by
  cases before with
  | nil => rfl
  | cons previous before =>
      rw [isTrailing, isTrailing, lastRow_masked, firstRow, firstRow, row_masked]

variable {source : Bytes} {hasMember : Bool} {next : Nat} {before : List Node}

/-- Masking parts no comments. -/
theorem joinsRun_masked {comment : Node} (h : comment.joinsRun source before next hasMember) :
    comment.joinsRun (maskLinkageGuards source) before next hasMember := by
  rw [joinsRun_iff] at h ⊢
  rw [count_slice_eq_of_lineEnds (map_lineEnd?_maskLinkageGuards source), isTrailing_masked]
  exact ⟨h.1, h.2.1.masked, h.2.2⟩

private theorem joinsRun_of_masked {comment : Node}
    (hAgree : Bytes.AgreeBetween (maskLinkageGuards source) source comment.stop next)
    (h : comment.joinsRun (maskLinkageGuards source) before next hasMember) :
    comment.joinsRun source before next hasMember := by
  rw [joinsRun_iff] at h ⊢
  rw [count_slice_eq_of_lineEnds (map_lineEnd?_maskLinkageGuards source), isTrailing_masked,
    Bytes.IsBlankBetween, hAgree.slice_eq] at h
  exact h

/-- A run is the same over both sources, if they agree from the start of each member on. -/
theorem attachedRun_masked (hBefore : LieInFront next before)
    (hAgree : ∀ member ∈ attachedRun (maskLinkageGuards source) hasMember next before,
      Bytes.AgreeBetween (maskLinkageGuards source) source member.start next) :
    attachedRun (maskLinkageGuards source) hasMember next before =
      attachedRun source hasMember next before := by
  induction before generalizing hasMember next with
  | nil => rfl
  | cons comment before ih =>
      obtain ⟨hOrder, hStop, hBefore⟩ := hBefore
      rw [attachedRun] at hAgree ⊢
      rw [attachedRun]
      split at hAgree
      · next hJoins =>
          obtain ⟨hHere, hRest⟩ := List.forall_mem_cons.1 hAgree
          have hJoins' := joinsRun_of_masked (hHere.mono hOrder (Nat.le_refl next)) hJoins
          have hSame := ih hBefore fun member hMember =>
            (hRest member hMember).mono (Nat.le_refl _) (Nat.le_trans hOrder hStop)
          rw [if_pos hJoins, if_pos hJoins', hSame]
      · next hNot =>
          rw [if_neg hNot, if_neg (mt joinsRun_masked hNot)]

end Node

/-! ## Items -/

/-- Whether no masked range reaches into the comment of an item, or in between the two. -/
def Item.HasUnmaskedComment (source : Bytes) (item : Item) : Prop :=
  ∀ range ∈ item.commentRange? (maskLinkageGuards source),
    source.IsUnmaskedBetween range.1 item.node.start

namespace Item

variable {source : Bytes} {low high : Nat} {item : Item}

private theorem attachedRun_masked (hItem : item.LiesIn low high)
    (h : item.HasUnmaskedComment source) :
    item.attachedRun (maskLinkageGuards source) = item.attachedRun source := by
  refine Node.attachedRun_masked hItem.before fun member hMember => ?_
  rw [← attachedRun] at hMember
  cases hRange : item.commentRange? (maskLinkageGuards source) with
  | none =>
      rw [Node.span?_eq_none_iff.1 hRange] at hMember
      exact absurd hMember List.not_mem_nil
  | some range =>
      have hStart : range.1 ≤ member.start :=
        Node.span?_start_le (lieInFront_attachedRun hItem) hRange hMember
      exact (h range hRange).agreeBetween.mono hStart (Nat.le_refl _)

/-- What is attached to an item is in the source itself. -/
theorem attachedComment?_masked (hItem : item.LiesIn low high)
    (h : item.HasUnmaskedComment source) :
    item.node.attachedComment? (maskLinkageGuards source) item.before =
      item.node.attachedComment? source item.before := by
  have hSame : item.commentRange? (maskLinkageGuards source) = item.commentRange? source := by
    rw [commentRange?, commentRange?, attachedRun_masked hItem h]
  rw [attachedComment?_eq, attachedComment?_eq, hSame]
  cases hRange : item.commentRange? source with
  | none => rfl
  | some range =>
      have hStop := (commentRange?_bounds hItem hRange).2.2
      have hAgree := (h range (hSame.trans hRange)).agreeBetween.mono (Nat.le_refl _) hStop
      rw [Option.map_some, Option.map_some, hAgree.slice_eq]

theorem commentTokens_masked (hItem : item.LiesIn low high) (h : item.HasUnmaskedComment source) :
    item.node.commentTokens (maskLinkageGuards source) item.before =
      item.node.commentTokens source item.before := by
  rw [Node.commentTokens, Node.commentTokens, attachedComment?_masked hItem h]

end Item

end FunctionCatalog
