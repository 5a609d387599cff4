import FunctionCatalog.Proofs.Comment.Disjoint
import FunctionCatalog.Proofs.Comment.Tokens
import FunctionCatalog.Proofs.Extraction.FunctionRecord

/-!
# What a tree attaches to its nodes

In a tree that lies in order, every node has the longest run of comments in front of it for its
comment, and the comments of two nodes have nothing in common.

## Main results

* `Node.attachment_exact` — all of this for every tree that lies in order in its source.
-/

namespace FunctionCatalog

/-- Whether the comment of an item is found as it should be. -/
structure Item.AttachesExactly (source : Bytes) (item : Item) : Prop where
  /-- Nothing is read on the way but ranges of the source. -/
  checked : item.checkedComment? source = some (item.node.attachedComment? source item.before)
  /-- What is found is a run of comments in front of the item. -/
  run : Node.IsRun source item.node.start item.before (item.attachedRun source)
  /-- No such run is longer. -/
  longest : ∀ run, Node.IsRun source item.node.start item.before run →
    run <+: item.attachedRun source
  /-- The comment reaches from the start of the first member to the end of the last. -/
  spans : item.node.attachedComment? source item.before =
    (item.commentRange? source).map fun range => Bytes.slice source range.1 range.2
  /-- The tokens are those of the members, in order, if all of them begin with a slash and are
  texts. -/
  tokens : (∀ comment ∈ item.attachedRun source, (comment.bytes source).head? = some 0x2F) →
    (∀ comment ∈ item.attachedRun source, Utf8.decode (comment.bytes source) ≠ none) →
    item.node.commentTokens source item.before =
      (item.attachedRun source).reverse.flatMap (Node.tokens source)
  /-- There are no tokens if one of the members is no text. -/
  no_tokens : (∀ comment ∈ item.attachedRun source, (comment.bytes source).head? = some 0x2F) →
    (∃ comment ∈ item.attachedRun source, Utf8.decode (comment.bytes source) = none) →
    item.node.commentTokens source item.before = []

private theorem Item.LiesIn.attachesExactly {source : Bytes} {item : Item}
    (hItem : item.LiesIn 0 source.length) : item.AttachesExactly source where
  checked := Item.checkedComment?_eq hItem (Nat.le_refl _)
  run := Node.isRun_attachedRun
  longest _ hRun := hRun.prefix_attachedRun
  spans := Item.attachedComment?_eq source item
  tokens := Item.commentTokens_eq_flatMap hItem
  no_tokens := Item.commentTokens_eq_nil hItem

/-- In a tree that lies in order in its source, the comment of every node is found as it should be,
and no byte is attached to two nodes that are no comments nor parts of comments. -/
theorem Node.attachment_exact {source : Bytes} {root : Node}
    (hRoot : root.LiesIn 0 source.length) :
    (∀ path item, root.itemAt? path = some item → item.AttachesExactly source) ∧
      ∀ path path' item item', root.itemAt? path = some item → root.itemAt? path' = some item' →
        path ≠ path' → root.IsOutsideComments path → root.IsOutsideComments path' →
        ∀ range ∈ item.commentRange? source, ∀ range' ∈ item'.commentRange? source,
          range.2 ≤ range'.1 ∨ range'.2 ≤ range.1 :=
  ⟨fun _ _ hItem => (Node.itemAt?_liesIn hRoot hItem).attachesExactly,
    fun _ _ _ _ hItem hItem' hNe hOutside hOutside' _ hRange _ hRange' =>
      Node.itemAt?_disjoint hRoot hItem hItem' hNe hOutside hOutside' hRange hRange'⟩

/-- In `/*a*/ /*b*/` on a line before `int f;` and `/*c*/` on a line before `int g;`, the first two
comments are those of `f`, and the third is that of `g`. -/
theorem Node.attachment_exact_two_comments :
    let source : Bytes :=
      [0x2F, 0x2A, 0x61, 0x2A, 0x2F, 0x20, 0x2F, 0x2A, 0x62, 0x2A, 0x2F, 0x0A, 0x69, 0x6E, 0x74,
        0x20, 0x66, 0x3B, 0x0A, 0x2F, 0x2A, 0x63, 0x2A, 0x2F, 0x0A, 0x69, 0x6E, 0x74, 0x20, 0x67,
        0x3B]
    let first := Node.spanning .comment 0 5 none []
    let second := Node.spanning .comment 6 11 none []
    let f := Node.spanning .declaration 12 18 none []
    let third := Node.spanning .comment 19 24 none []
    let g := Node.spanning .declaration 25 31 none []
    let root := Node.spanning (.other "translation_unit") 0 31 none [first, second, f, third, g]
    let itemF : Item := ⟨f, [second, first]⟩
    let itemG : Item := ⟨g, [third, f, second, first]⟩
    root.LiesIn 0 source.length ∧
      (root.itemAt? [2] = some itemF ∧ itemF.AttachesExactly source ∧
        itemF.attachedRun source = [second, first] ∧
        itemF.node.commentTokens source itemF.before = ["a", "b"]) ∧
      (root.itemAt? [4] = some itemG ∧ itemG.AttachesExactly source ∧
        itemG.attachedRun source = [third]) ∧
      itemF.commentRange? source = some (0, 11) ∧ itemG.commentRange? source = some (19, 24) ∧
      (11 ≤ 19 ∨ 24 ≤ 0) := by
  intro source first second f third g root itemF itemG
  have hRoot : root.LiesIn 0 source.length := by
    simp [root, source, first, second, f, third, g, Node.spanning, Node.LiesIn, Node.LieInOrder]
  obtain ⟨hExact, hDisjoint⟩ := Node.attachment_exact hRoot
  have hF : root.itemAt? [2] = some itemF := rfl
  have hG : root.itemAt? [4] = some itemG := rfl
  have hRunF : itemF.attachedRun source = [second, first] := rfl
  have hTokensF : itemF.node.commentTokens source itemF.before = ["a", "b"] := by
    rw [(hExact _ _ hF).tokens (by rw [hRunF]; decide) (by rw [hRunF]; decide), hRunF]
    rfl
  have hOutside : ∀ number item, root.itemAt? [number] = some item →
      item.node.kind ≠ .comment → root.IsOutsideComments [number] := by
    intro number item hItem hKind front upper hFront hUpper
    rcases List.prefix_cons_iff.1 hFront with rfl | ⟨rest, rfl, hRest⟩
    · obtain rfl := Option.some.inj hUpper
      decide
    · obtain rfl := List.prefix_nil.1 hRest
      obtain rfl := Option.some.inj (hItem.symm.trans hUpper)
      exact hKind
  exact ⟨hRoot, ⟨hF, hExact _ _ hF, hRunF, hTokensF⟩, ⟨hG, hExact _ _ hG, rfl⟩, rfl, rfl,
    hDisjoint _ _ _ _ hF hG (by decide) (hOutside _ _ hF (by decide))
      (hOutside _ _ hG (by decide)) (0, 11) rfl (19, 24) rfl⟩

end FunctionCatalog
