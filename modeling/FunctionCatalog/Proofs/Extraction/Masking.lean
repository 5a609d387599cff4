import FunctionCatalog.Proofs.Comment.Masked
import FunctionCatalog.Proofs.Extraction.Appending
import FunctionCatalog.Proofs.Extraction.Containers
import FunctionCatalog.Proofs.Extraction.FunctionRecord
import Mathlib

/-!
# Walking a masked source

A tree is read over the masked bytes of its file. Names, types and comments are what the bytes of
the file itself say, wherever no masked range reaches into them. Guards are looked for line by line,
though, and without regard to comments: one that is quoted in a comment is masked there as well, and
the words in its middle line are lost (`Node.walkItems_masked_quoted`).

## Main results

* `Node.walkItems_masked` — what a walk finds in a masked source is in the source.
-/

namespace FunctionCatalog

/-- Whether no masked range reaches into the parts of an item that are read. Nothing is read of the
body of a function. -/
def Item.HasUnmaskedParts (source : Bytes) (item : Item) : Prop :=
  ∀ child ∈ item.node.children, child.isBody = false →
    source.IsUnmaskedBetween child.start child.stop

/-- Whether an item adds to a walk. -/
def Item.Counts (item : Item) : Prop :=
  item.node.kind.declares ∧ item.node.hasError = false

section Walk

variable {source : Bytes} {low high : Nat} {item : Item}

private theorem Item.declarations_masked (hItem : item.LiesIn low high)
    (hParts : item.Counts → item.HasUnmaskedParts source) :
    item.node.declarations (maskLinkageGuards source) = item.node.declarations source := by
  cases hError : item.node.hasError with
  | true => rw [Node.declarations, Node.declarations, if_pos hError, if_pos hError]
  | false =>
      cases hKind : item.node.kind.declares with
      | false =>
          rw [Node.declarations_of_not_declares _ hKind, Node.declarations_of_not_declares _ hKind]
      | true =>
          have hSame := Node.allAlikeInOrder_of_agreeBetween hItem.node.children
            fun child hChild hBody =>
              (hParts ⟨hKind, hError⟩ child hChild hBody).agreeBetween
          exact Node.AlikeInOrder.declarations_eq hKind rfl rfl hSame

private theorem Walk.takeIn_masked (walk : Walk) (hItem : item.LiesIn low high)
    (hParts : item.Counts → item.HasUnmaskedParts source)
    (hComment : item.Counts → item.HasUnmaskedComment source) :
    walk.takeIn (maskLinkageGuards source) item = walk.takeIn source item := by
  rw [Walk.takeIn_eq_foldl, Walk.takeIn_eq_foldl, Item.declarations_masked hItem hParts]
  cases hError : item.node.hasError with
  | true =>
      rw [Node.declarations, if_pos hError]
      rfl
  | false =>
      cases hKind : item.node.kind.declares with
      | false =>
          rw [Node.declarations_of_not_declares _ hKind]
          rfl
      | true => rw [Item.commentTokens_masked hItem (hComment ⟨hKind, hError⟩)]

end Walk

/-- What a walk finds in a masked source is in the source: names and signatures, if no masked range
reaches into a declaration, and everything, if none reaches into a comment either. -/
theorem Node.walkItems_masked {source : Bytes} {root : Node} (hRoot : root.LiesIn 0 source.length)
    (hParts : ∀ item ∈ root.fileItems, item.Counts → item.HasUnmaskedParts source)
    (naming : Naming) :
    (root.walkItems (maskLinkageGuards source) naming).outline =
        (root.walkItems source naming).outline ∧
      (∀ item ∈ root.fileItems, item.HasUnmaskedComment source →
        item.node.commentTokens (maskLinkageGuards source) item.before =
          item.node.commentTokens source item.before) ∧
      ((∀ item ∈ root.fileItems, item.Counts → item.HasUnmaskedComment source) →
        root.walkItems (maskLinkageGuards source) naming = root.walkItems source naming) := by
  have hItems : ∀ item ∈ root.fileItems, item.LiesIn 0 source.length := fun _ hItem =>
    Node.liesIn_of_mem_fileItems hRoot hItem
  refine ⟨?_, fun item hItem hComment => Item.commentTokens_masked (hItems item hItem) hComment,
    fun hComments => ?_⟩
  · have hDeclarations : root.fileItems.flatMap (fun item =>
          item.node.declarations (maskLinkageGuards source)) =
        root.fileItems.flatMap (fun item => item.node.declarations source) :=
      List.flatMap_congr fun item hItem =>
        Item.declarations_masked (hItems item hItem) (hParts item hItem)
    rw [Node.walkItems_eq_foldl, Node.walkItems_eq_foldl, Walk.outline_foldl_takeIn,
      Walk.outline_foldl_takeIn, List.flatMap_map, List.flatMap_map, hDeclarations]
  · rw [Node.walkItems_eq_foldl, Node.walkItems_eq_foldl]
    exact List.foldl_ext _ _ _ fun walk item hItem =>
      walk.takeIn_masked (hItems item hItem) (hParts item hItem) (hComments item hItem)

/-- A guard in front of `int f();` is masked, and neither the function nor its comment loses
anything. -/
theorem Node.walkItems_masked_guarded :
    let guardLines : Bytes :=
      [0x23, 0x69, 0x66, 0x64, 0x65, 0x66, 0x20, 0x5F, 0x5F, 0x63, 0x70, 0x6C, 0x75, 0x73, 0x70,
        0x6C, 0x75, 0x73, 0x0A, 0x65, 0x78, 0x74, 0x65, 0x72, 0x6E, 0x20, 0x22, 0x43, 0x22, 0x20,
        0x7B, 0x0A, 0x23, 0x65, 0x6E, 0x64, 0x69, 0x66, 0x0A]
    let source : Bytes :=
      guardLines ++
        [0x2F, 0x2A, 0x61, 0x2A, 0x2F, 0x0A, 0x69, 0x6E, 0x74, 0x20, 0x66, 0x28, 0x29, 0x3B]
    let guard := Node.spanning .conditionalBlock 0 39 none []
    let comment := Node.spanning .comment 39 44 none []
    let declaration := Node.spanning .declaration 45 53 none
      [.spanning .primitiveType 45 48 (some .type) [],
        .spanning (.functionDeclarator .naming) 49 52 (some .declarator)
          [.spanning (.name .identifier) 49 50 (some .declarator) [],
            .spanning (.other "parameter_list") 50 52 (some .parameters)
              [.spanning .openingParenthesis 50 51 none [],
                .spanning .closingParenthesis 51 52 none []]]]
    let root := Node.spanning (.other "translation_unit") 0 53 none [guard, comment, declaration]
    let naming : Naming := { lang := .c, aliases := {} }
    hasLinkageGuard source ∧ root.LiesIn 0 source.length ∧
      root.walkItems (maskLinkageGuards source) naming = root.walkItems source naming ∧
      (root.walkItems source naming).records = [⟨"f", ["int"], ["a"]⟩] := by
  intro guardLines source guard comment declaration root naming
  have hRanges : LinkageGuard.ranges source = [(19, 31)] := by cbv
  have hUnmasked : ∀ start stop, 31 ≤ start → source.IsUnmaskedBetween start stop := by
    intro start stop hStart range hRange
    rw [hRanges, List.mem_singleton] at hRange
    exact .inl (hRange ▸ hStart)
  let declared : Declaration :=
    .mk (.name "int") ∅ (.function none [] (.name ⟨.identifier, some "f"⟩))
  have hItems : root.fileItems = [⟨comment, [guard]⟩, ⟨declaration, [comment, guard]⟩] := rfl
  have hRoot : root.LiesIn 0 source.length := by
    simp [root, source, guardLines, guard, comment, declaration, Node.spanning, Node.LiesIn,
      Node.LieInOrder]
  have hMasked : maskLinkageGuards source = Bytes.blanked source (19, 31) := by
    rw [maskLinkageGuards, hRanges]
    rfl
  have hRange : Item.commentRange? (maskLinkageGuards source) ⟨declaration, [comment, guard]⟩ =
      some (39, 44) := by
    rw [hMasked]
    rfl
  have hParts : ∀ item ∈ root.fileItems, item.Counts → item.HasUnmaskedParts source := by
    rw [hItems, List.forall_mem_cons, List.forall_mem_singleton]
    refine ⟨fun hCounts => absurd hCounts.1 (by decide), fun _ child hChild _ => ?_⟩
    simp only [declaration, Node.spanning, List.mem_cons, List.not_mem_nil, or_false] at hChild
    rcases hChild with rfl | rfl <;> exact hUnmasked _ _ (by decide)
  have hComments : ∀ item ∈ root.fileItems, item.Counts → item.HasUnmaskedComment source := by
    rw [hItems, List.forall_mem_cons, List.forall_mem_singleton]
    refine ⟨fun hCounts => absurd hCounts.1 (by decide), fun _ range hMem => ?_⟩
    obtain rfl := Option.some.inj (hRange.symm.trans hMem)
    exact hUnmasked _ _ (by decide)
  have hDeclarations : declaration.declarations source = [.value declared] := rfl
  have hTokens : declaration.commentTokens source [comment, guard] = ["a"] := rfl
  have hRecords : (root.walkItems source naming).records = [⟨"f", ["int"], ["a"]⟩] := by
    rw [Node.walkItems_eq_foldl, hItems, List.foldl_cons, List.foldl_cons, List.foldl_nil,
      Walk.takeIn_eq_foldl, Walk.takeIn_eq_foldl, hDeclarations, hTokens]
    rfl
  exact ⟨by rw [hasLinkageGuard, hRanges]; rfl, hRoot,
    (Node.walkItems_masked hRoot hParts naming).2.2 hComments, hRecords⟩

/-- A guard that is quoted in the comment of `int f(void);` is masked, and the words in its middle
line are missing from the tokens of the comment. -/
theorem Node.walkItems_masked_quoted :
    let quoted : Bytes :=
      [0x2F, 0x2A, 0x0A, 0x23, 0x69, 0x66, 0x64, 0x65, 0x66, 0x20, 0x5F, 0x5F, 0x63, 0x70, 0x6C,
        0x75, 0x73, 0x70, 0x6C, 0x75, 0x73, 0x0A, 0x65, 0x78, 0x74, 0x65, 0x72, 0x6E, 0x20, 0x22,
        0x43, 0x22, 0x20, 0x7B, 0x0A, 0x23, 0x65, 0x6E, 0x64, 0x69, 0x66, 0x0A, 0x2A, 0x2F]
    let source : Bytes :=
      quoted ++
        [0x0A, 0x69, 0x6E, 0x74, 0x20, 0x66, 0x28, 0x76, 0x6F, 0x69, 0x64, 0x29, 0x3B, 0x0A]
    let comment := Node.spanning .comment 0 44 none []
    let declaration := Node.spanning .declaration 45 57 none
      [.spanning .primitiveType 45 48 (some .type) [],
        .spanning (.functionDeclarator .naming) 49 56 (some .declarator)
          [.spanning (.name .identifier) 49 50 (some .declarator) [],
            .spanning (.other "parameter_list") 50 56 (some .parameters)
              [.spanning .openingParenthesis 50 51 none [],
                .spanning .parameterDeclaration 51 55 none
                  [.spanning .primitiveType 51 55 (some .type) []],
                .spanning .closingParenthesis 55 56 none []]]]
    let root := Node.spanning (.other "translation_unit") 0 58 none [comment, declaration]
    let naming : Naming := { lang := .c, aliases := {} }
    root.LiesIn 0 source.length ∧
      (root.walkItems (maskLinkageGuards source) naming).records =
        [⟨"f", ["int"], ["ifdef", "cplusplus", "endif"]⟩] ∧
      (root.walkItems source naming).records =
        [⟨"f", ["int"], ["ifdef", "cplusplus", "extern", "C", "endif"]⟩] := by
  intro quoted source comment declaration root naming
  have hRanges : LinkageGuard.ranges source = [(22, 34)] := by cbv
  have hMasked : maskLinkageGuards source = Bytes.blanked source (22, 34) := by
    rw [maskLinkageGuards, hRanges]
    rfl
  have hRoot : root.LiesIn 0 source.length := by
    simp [root, source, quoted, comment, declaration, Node.spanning, Node.LiesIn, Node.LieInOrder]
  let declared : Declaration := .mk (.name "int") ∅
    (.function none [.declared (.mk (.name "void") ∅ .nothing)] (.name ⟨.identifier, some "f"⟩))
  have hItems : root.fileItems = [⟨comment, []⟩, ⟨declaration, [comment]⟩] := rfl
  have hRecords : ∀ bytes tokens, declaration.declarations bytes = [.value declared] →
      declaration.commentTokens bytes [comment] = tokens →
      (root.walkItems bytes naming).records = [⟨"f", ["int"], tokens⟩] := by
    intro bytes tokens hDeclarations hTokens
    rw [Node.walkItems_eq_foldl, hItems, List.foldl_cons, List.foldl_cons, List.foldl_nil,
      Walk.takeIn_eq_foldl, Walk.takeIn_eq_foldl, hDeclarations, hTokens]
    rfl
  refine ⟨hRoot, hRecords _ _ ?_ ?_, hRecords _ _ rfl rfl⟩ <;> rw [hMasked] <;> rfl

end FunctionCatalog
