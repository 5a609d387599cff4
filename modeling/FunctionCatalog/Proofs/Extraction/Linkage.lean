import FunctionCatalog.Proofs.Extraction.Containers
import FunctionCatalog.Proofs.Extraction.Inserted
import FunctionCatalog.Proofs.LinkageGuard.Lines

/-!
# Linkage specifications around a declaration

A linkage specification in front of one declaration takes the declaration in, with the bytes of its
mark. A walk looks through it, so names, signatures and all other records stay. But the comment
above it is not among the siblings that the declaration has inside it, and is lost.

## Main results

* `Node.walkItems_linked` — what a linkage specification in front of a declaration changes.
* `Node.walkItems_linked_loses_comment` — the comment above it is lost.
-/

namespace FunctionCatalog

open LinkageGuard (ascii)

namespace Node

/-! ## Putting one in -/

/-- A declaration as the body of a linkage specification, whose mark has the given width. -/
def inLinkage (width : Nat) (owner : Node) : Node :=
  { owner.shifted width with field? := some .body }

/-- The linkage specification of a declaration, whose mark is made of the given nodes. -/
def linked (marks : List Node) (width : Nat) (owner : Node) : Node where
  kind := .linkageSpecification
  start := owner.start
  stop := owner.stop + width
  isNamed := owner.isNamed
  hasError := owner.hasError
  field? := owner.field?
  children := marks ++ [owner.inLinkage width]

/-- A node that has become longer, with other children. -/
def stretched (width : Nat) (children : List Node) (node : Node) : Node :=
  { node with stop := node.stop + width, children }

@[simp] theorem stretched_kind (width : Nat) (children : List Node) (node : Node) :
    (node.stretched width children).kind = node.kind :=
  rfl

@[simp] theorem stretched_children (width : Nat) (children : List Node) (node : Node) :
    (node.stretched width children).children = children :=
  rfl

/-- Whether the mark of a linkage specification can stand in front of a declaration, which begins
behind the given bytes. -/
structure TakesLinkage (front : Bytes) (marks : List Node) (owner : Node) : Prop where
  kind : owner.kind = .declaration ∨ owner.kind = .functionDefinition
  start_eq : owner.start = front.length
  nonempty : owner.start < owner.stop
  no_body : ∀ mark ∈ marks, mark.field? ≠ some .body
  no_comment : ∀ last ∈ marks.getLast?, last.kind ≠ .comment

/-- A tree before and after a declaration in it was put into a linkage specification. The nodes
around the declaration have become longer, and those behind it have moved. Nothing is declared by
the nodes around it, unless it stands in the body of a function. -/
inductive Linked (marks : List Node) (width : Nat) (owner : Node) : Node → Node → Prop
  | here : Linked marks width owner owner (owner.linked marks width)
  | inside {parent child child' : Node} {earlier later : List Node}
    (hParent : parent.kind.declares = false ∨ child.isBody) (hKind : parent.kind ≠ .comment)
    (hChildren : parent.children = earlier ++ child :: later)
    (hChild : Linked marks width owner child child') :
    Linked marks width owner parent
      (parent.stretched width (earlier ++ child' :: allShifted width later))

section Linked

variable {front : Bytes} {marks : List Node} {width low high : Nat} {owner node node' : Node}

theorem Linked.isNamed_eq (h : Linked marks width owner node node') :
    node'.isNamed = node.isNamed := by
  cases h <;> rfl

theorem Linked.field?_eq (h : Linked marks width owner node node') :
    node'.field? = node.field? := by
  cases h <;> rfl

private theorem Linked.start_eq (h : Linked marks width owner node node') :
    node'.start = node.start := by
  cases h <;> rfl

private theorem Linked.stop_eq (h : Linked marks width owner node node') :
    node'.stop = node.stop + width := by
  cases h <;> rfl

theorem Linked.kind_ne (h : Linked marks width owner node node')
    (hOwner : TakesLinkage front marks owner) : node.kind ≠ .comment ∧ node'.kind ≠ .comment := by
  cases h with
  | here => exact ⟨by rcases hOwner.kind with hKind | hKind <;> simp [hKind], nofun⟩
  | inside hParent hKind hChildren hChild => exact ⟨hKind, hKind⟩

/-- The declaration lies in the nodes around it. -/
theorem Linked.reaches (h : Linked marks width owner node node') (hNode : node.LiesIn low high) :
    node.start ≤ owner.start ∧ owner.stop ≤ node.stop := by
  induction h generalizing low high with
  | here => exact ⟨Nat.le_refl _, Nat.le_refl _⟩
  | inside hParent hKind hChildren hChild ih =>
      have hLies := hNode.children.mem (hChildren ▸ List.mem_append_right _ List.mem_cons_self)
      obtain ⟨hStart, hStop⟩ := ih hLies
      exact ⟨Nat.le_trans hLies.low_le_start hStart, Nat.le_trans hStop hLies.stop_le_high⟩

end Linked

/-! ## The items of a changed tree -/

/-- The items of a tree before and after a declaration in it was put into a linkage specification:
the declaration is the only one that may have another effect, because the siblings in front of it
are the mark of the specification. -/
inductive ItemsLinked (front inserted back : Bytes) (marks : List Node) (owner : Node) :
    List Item → List Item → Prop
  | same {items items' : List Item}
    (h : SameEffect (front ++ back) (front ++ inserted ++ back) items items') :
    ItemsLinked front inserted back marks owner items items'
  | changed {earlier earlier' later later' : List Item} (before : List Node)
    (hEarlier : SameEffect (front ++ back) (front ++ inserted ++ back) earlier earlier')
    (hLater : SameEffect (front ++ back) (front ++ inserted ++ back) later later') :
    ItemsLinked front inserted back marks owner (earlier ++ ⟨owner, before⟩ :: later)
      (earlier' ++ ⟨owner.inLinkage inserted.length, marks.reverse⟩ :: later')

section ItemsLinked

variable {front inserted back : Bytes} {marks : List Node} {owner : Node}
  {items items' more more' : List Item}

theorem ItemsLinked.append_left
    (hMore : SameEffect (front ++ back) (front ++ inserted ++ back) more more')
    (h : ItemsLinked front inserted back marks owner items items') :
    ItemsLinked front inserted back marks owner (more ++ items) (more' ++ items') := by
  cases h with
  | same h => exact .same (List.rel_append hMore h)
  | changed before hEarlier hLater =>
      rw [← List.append_assoc, ← List.append_assoc]
      exact .changed before (List.rel_append hMore hEarlier) hLater

private theorem ItemsLinked.append_right
    (h : ItemsLinked front inserted back marks owner items items')
    (hMore : SameEffect (front ++ back) (front ++ inserted ++ back) more more') :
    ItemsLinked front inserted back marks owner (items ++ more) (items' ++ more') := by
  cases h with
  | same h => exact .same (List.rel_append h hMore)
  | changed before hEarlier hLater =>
      rw [List.append_assoc, List.append_assoc, List.cons_append, List.cons_append]
      exact .changed before hEarlier (List.rel_append hLater hMore)

section Siblings

variable {child child' : Node} {earlier later : List Node} {low high : Nat}
  (hHere : ItemsLinked front inserted back marks owner (child.items earlier.reverse)
    (child'.items earlier.reverse))
  (hMoved : MovedBack front inserted back (child :: earlier.reverse) (child' :: earlier.reverse))
  (hEarlier : AllWithin front.length earlier) (hLater : LieInOrder low high later)
  (hLow : front.length ≤ low) (hHigh : high ≤ (front ++ back).length)

include hHere hMoved hEarlier hLater hLow hHigh

private theorem itemsAmong_linked (hNamed : child'.isNamed = child.isNamed) :
    ItemsLinked front inserted back marks owner (itemsAmong [] (earlier ++ child :: later))
      (itemsAmong [] (earlier ++ child' :: allShifted inserted.length later)) := by
  have hThere := itemsAmong_shifted hLater hLow hHigh hMoved
  rw [itemsAmong_append, itemsAmong_append, List.append_nil, itemsAmong, itemsAmong, hNamed]
  refine .append_left (itemsAmong_inserted inserted hEarlier) ?_
  split
  · exact hHere.append_right hThere
  · exact .same hThere

private theorem itemsOfBody_linked (hField : child'.field? = child.field?) :
    ItemsLinked front inserted back marks owner (itemsOfBody [] (earlier ++ child :: later))
      (itemsOfBody [] (earlier ++ child' :: allShifted inserted.length later)) := by
  have hThere := itemsOfBody_shifted hLater hLow hHigh hMoved
  rw [itemsOfBody_append, itemsOfBody_append, List.append_nil, itemsOfBody, itemsOfBody, hField]
  split
  · exact .same (itemsOfBody_inserted inserted hEarlier)
  · split
    · exact hHere
    · exact .same hThere

end Siblings

end ItemsLinked

section Linked

variable {front inserted back : Bytes} {marks : List Node} {owner : Node} {low high : Nat}

private theorem items_linked (hOwner : TakesLinkage front marks owner) (width : Nat)
    (before : List Node) :
    owner.items before = [⟨owner, before⟩] ∧
      (owner.linked marks width).items before = [⟨owner.inLinkage width, marks.reverse⟩] := by
  have hSelf : ∀ {node : Node} (before : List Node), node.kind = owner.kind →
      node.items before = [⟨node, before⟩] := by
    intro node before hKind
    rw [items_eq, hKind]
    rcases hOwner.kind with hKind | hKind <;> rw [hKind]
  have hMarks : marks.any (·.field? == some .body) = false := by
    simpa using hOwner.no_body
  refine ⟨hSelf before rfl, ?_⟩
  rw [items_eq]
  change itemsOfBody [] (marks ++ [owner.inLinkage width]) = _
  rw [itemsOfBody_append, hMarks, if_neg Bool.false_ne_true, itemsOfBody, List.append_nil]
  exact hSelf _ (shifted_kind width owner)

/-- The siblings in front of what stands behind the declaration. -/
theorem Linked.movedBack {child child' : Node}
    (hChild : Linked marks inserted.length owner child child')
    (hOwner : TakesLinkage front marks owner) (hNode : child.LiesIn low high)
    (hHigh : high ≤ (front ++ back).length) (before : List Node) :
    MovedBack front inserted back (child :: before) (child' :: before) := by
  obtain ⟨hKind, hKind'⟩ := hChild.kind_ne hOwner
  obtain ⟨hStart, hStop⟩ := hChild.reaches hNode
  have hSome := hOwner.nonempty
  have hFront := hOwner.start_eq
  have hEnd := hNode.stop_le_high
  refine .item hKind hKind' (lastRow_around (by omega) (by omega) (by omega) hChild.stop_eq ?_)
  rw [hChild.start_eq, hChild.stop_eq]
  omega

private theorem Linked.kind_eq_of_isBody {width : Nat} {child child' : Node}
    (h : Linked marks width owner child child') (hOwner : TakesLinkage front marks owner)
    (hBody : child.isBody) : child'.kind = child.kind := by
  cases h with
  | here =>
      obtain ⟨name, hOther⟩ := exists_kind_of_isBody hBody
      rcases hOwner.kind with hKind | hKind <;> simp [hKind] at hOther
  | inside => rfl

variable (back) in
/-- What lies in front of the declaration and what lies behind it is read alike. -/
theorem Linked.allAlikeInOrder {child child' : Node} {earlier later : List Node}
    (hChild : Linked marks inserted.length owner child child') (hBody : child.isBody)
    (hOwner : TakesLinkage front marks owner)
    (hOrder : LieInOrder low high (earlier ++ child :: later)) :
    List.Forall₂ (AlikeInOrder (front ++ back) (front ++ inserted ++ back))
      (earlier ++ child :: later) (earlier ++ child' :: allShifted inserted.length later) := by
  obtain ⟨hEarlier, hNode, hLater⟩ := hOrder.split
  obtain ⟨hStart, hStop⟩ := hChild.reaches hNode
  have hAgree : Bytes.AgreeBetween (front ++ back) (front ++ inserted ++ back) 0 front.length := by
    intro offset _ hOffset
    rw [List.append_assoc, List.getElem?_append_left hOffset, List.getElem?_append_left hOffset]
  have hFront :
      List.Forall₂ (AlikeInOrder (front ++ back) (front ++ inserted ++ back)) earlier earlier :=
    allAlikeInOrder_of_agreeBetween hEarlier fun node hMem _ =>
      hAgree.mono (Nat.zero_le _)
        (Nat.le_trans (hEarlier.mem hMem).stop_le_high (hOwner.start_eq ▸ hStart))
  have hLow : front.length ≤ child.stop := by
    have hSome := hOwner.nonempty
    have hFront := hOwner.start_eq
    omega
  have hKind := hChild.kind_eq_of_isBody hOwner hBody
  have hChildAlike : AlikeInOrder (front ++ back) (front ++ inserted ++ back) child child' :=
    .body hKind.symm hChild.isNamed_eq.symm hChild.field?_eq.symm hBody
  exact List.rel_append hFront (.cons hChildAlike (allAlikeInOrder_shifted hLater hLow))

variable (back) in
/-- An item around the declaration has the same effect as before. -/
theorem Linked.takeIn_eq {parent child child' : Node} {earlier later before : List Node}
    (hParent : parent.kind.declares = false ∨ child.isBody)
    (hChildren : parent.children = earlier ++ child :: later)
    (hChild : Linked marks inserted.length owner child child')
    (hOwner : TakesLinkage front marks owner) (hNode : parent.LiesIn low high)
    (hBefore : ∀ sibling ∈ before, sibling.EndsWithin front.length) (walk : Walk) :
    walk.takeIn (front ++ inserted ++ back) ⟨parent.stretched inserted.length
        (earlier ++ child' :: allShifted inserted.length later), before⟩ =
      walk.takeIn (front ++ back) ⟨parent, before⟩ := by
  have hOrder := hNode.children
  rw [hChildren] at hOrder
  have hDeclarations : parent.declarations (front ++ back) =
      (parent.stretched inserted.length
        (earlier ++ child' :: allShifted inserted.length later)).declarations
        (front ++ inserted ++ back) := by
    cases hDeclares : parent.kind.declares with
    | false =>
        rw [declarations_of_not_declares _ hDeclares, declarations_of_not_declares]
        exact hDeclares
    | true =>
        have hBody := hParent.resolve_left (by rw [hDeclares]; exact nofun)
        have hSame := hChild.allAlikeInOrder back hBody hOwner hOrder
        exact AlikeInOrder.declarations_eq hDeclares rfl rfl (hChildren ▸ hSame)
  have hStart : parent.start ≤ front.length := by
    have hChildLies := hOrder.split.2.1
    exact Nat.le_trans hChildLies.low_le_start (hOwner.start_eq ▸ (hChild.reaches hChildLies).1)
  have hTokens : (parent.stretched inserted.length
        (earlier ++ child' :: allShifted inserted.length later)).commentTokens
        (front ++ inserted ++ back) before = parent.commentTokens (front ++ back) before := by
    rw [List.append_assoc, commentTokens_append _ hStart hBefore]
    exact commentTokens_append _ hStart hBefore
  rw [Walk.takeIn_eq_foldl, Walk.takeIn_eq_foldl, ← hDeclarations, hTokens]

/-- How the siblings of a node around the declaration stand. -/
structure Around (front inserted back : Bytes) (low high : Nat) (earlier later : List Node)
    (child child' : Node) : Prop where
  within : AllWithin front.length earlier
  liesIn : child.LiesIn low high
  lieInOrder : LieInOrder child.stop high later
  low_le : front.length ≤ child.stop
  moved : MovedBack front inserted back (child :: earlier.reverse) (child' :: earlier.reverse)

theorem Linked.around {child child' : Node} {earlier later : List Node}
    (hChild : Linked marks inserted.length owner child child')
    (hOwner : TakesLinkage front marks owner)
    (hOrder : LieInOrder low high (earlier ++ child :: later))
    (hHigh : high ≤ (front ++ back).length) :
    Around front inserted back low high earlier later child child' := by
  obtain ⟨hEarlier, hLies, hLater⟩ := hOrder.split
  obtain ⟨hStart, hStop⟩ := hChild.reaches hLies
  have hFront := hOwner.start_eq
  have hSome := hOwner.nonempty
  exact
    { within := hEarlier.within (by omega)
      liesIn := hLies
      lieInOrder := hLater
      low_le := by omega
      moved := hChild.movedBack hOwner hLies hHigh earlier.reverse }

private theorem Around.endsWithin {child child' : Node} {earlier later : List Node}
    (h : Around front inserted back low high earlier later child child') :
    ∀ sibling ∈ earlier.reverse, sibling.EndsWithin front.length :=
  fun _ hMem => endsWithin_of_mem h.within (List.mem_reverse.1 hMem)

/-- A tree with a declaration in a linkage specification has the items of the tree without it. -/
theorem Linked.items {node node' : Node} (h : Linked marks inserted.length owner node node')
    (hOwner : TakesLinkage front marks owner) (hNode : node.LiesIn low high)
    (hHigh : high ≤ (front ++ back).length) {before : List Node}
    (hBefore : ∀ sibling ∈ before, sibling.EndsWithin front.length) :
    ItemsLinked front inserted back marks owner (node.items before) (node'.items before) := by
  -- The induction is on the nodes around the declaration. At each, the siblings in front of the
  -- next one do not notice the inserted bytes, and those behind it have moved along.
  induction h generalizing low high before with
  | here =>
      obtain ⟨hItems, hItems'⟩ := items_linked hOwner inserted.length before
      rw [hItems, hItems']
      have hAlone : ItemsLinked front inserted back marks owner ([] ++ [⟨owner, before⟩])
          ([] ++ [⟨owner.inLinkage inserted.length, marks.reverse⟩]) := .changed before .nil .nil
      exact hAlone
  | @inside parent child child' earlier later hParent hKind hChildren hChild ih =>
      have hOrder := hNode.children
      rw [hChildren] at hOrder
      have hHigh' : parent.stop ≤ (front ++ back).length := Nat.le_trans hNode.stop_le_high hHigh
      have hAround := hChild.around hOwner hOrder hHigh'
      have hHere := ih hAround.liesIn hHigh' hAround.endsWithin
      have hAmong := itemsAmong_linked hHere hAround.moved hAround.within hAround.lieInOrder
        hAround.low_le hHigh' hChild.isNamed_eq
      have hBody := itemsOfBody_linked hHere hAround.moved hAround.within hAround.lieInOrder
        hAround.low_le hHigh' hChild.field?_eq
      have hItself := hChild.takeIn_eq back hParent hChildren hOwner hNode hBefore
      rw [items_eq, items_eq, hChildren, stretched_kind, stretched_children]
      cases parent.kind with
      | conditionalBlock => exact hAmong
      | declarationList => exact hAmong
      | linkageSpecification => exact hBody
      | _ => exact .same (.cons hItself .nil)

theorem Linked.fileItems {root root' : Node} (h : Linked marks inserted.length owner root root')
    (hOwner : TakesLinkage front marks owner) (hKind : root.kind.declares = false)
    (hRoot : root.LiesIn 0 (front ++ back).length) :
    ItemsLinked front inserted back marks owner root.fileItems root'.fileItems := by
  cases h with
  | here =>
      rcases hOwner.kind with hOwnerKind | hOwnerKind <;>
        simp [hOwnerKind, Kind.declares] at hKind
  | @inside _ child child' earlier later _ _ hChildren hChild =>
      have hOrder := hRoot.children
      rw [hChildren] at hOrder
      have hAround := hChild.around hOwner hOrder hRoot.stop_le_high
      have hHere := hChild.items hOwner hAround.liesIn hRoot.stop_le_high hAround.endsWithin
      rw [Node.fileItems, hChildren]
      exact itemsAmong_linked hHere hAround.moved hAround.within hAround.lieInOrder hAround.low_le
        hRoot.stop_le_high hChild.isNamed_eq

end Linked

end Node

/-! ## What a walk finds -/

/-- A record without its comment. -/
def FunctionRecord.uncommented (record : FunctionRecord) : FunctionRecord :=
  { record with commentTokens := [] }

/-- The records of the functions that an item declares. -/
def Item.functionRecords (source : Bytes) (naming : Naming) (item : Item) : List FunctionRecord :=
  (item.node.declarations source).filterMap fun
    | .value declaration =>
      declaration.record? naming (item.node.commentTokens source item.before)
    | .typeName _ _ => none

namespace Walk

/-- A walk that had found records before. -/
def after (records : List FunctionRecord) (walk : Walk) : Walk :=
  { walk with records := records ++ walk.records }

variable {source : Bytes} {records : List FunctionRecord}

private theorem takeIn_after (walk : Walk) (item : Item) :
    (walk.after records).takeIn source item = (walk.takeIn source item).after records := by
  rw [takeIn_eq_foldl, takeIn_eq_foldl]
  induction item.node.declarations source generalizing walk with
  | nil => rfl
  | cons declaration rest ih =>
      rw [List.foldl_cons, List.foldl_cons, ← ih]
      cases declaration with
      | typeName name declaration => rfl
      | value declaration => simp only [add, after, List.append_assoc]

/-- What a walk finds from some place on does not depend on what it had found before. -/
theorem foldl_takeIn_after (items : List Item) (walk : Walk) :
    items.foldl (takeIn source) (walk.after records) =
      (items.foldl (takeIn source) walk).after records := by
  induction items generalizing walk with
  | nil => rfl
  | cons item rest ih => rw [List.foldl_cons, List.foldl_cons, takeIn_after, ih]

/-- A declaration of functions adds their records. -/
theorem takeIn_of_kind (walk : Walk) {item : Item}
    (hKind : item.node.kind = .declaration ∨ item.node.kind = .functionDefinition) :
    walk.takeIn source item =
      { walk with records := walk.records ++ item.functionRecords source walk.naming } := by
  have hDefinitions : item.node.definitions source = [] := by
    rcases hKind with hKind | hKind <;> simp [Node.definitions, hKind]
  rw [takeIn_eq_foldl, Item.functionRecords, Node.declarations, hDefinitions]
  cases item.node.hasError with
  | true => simp
  | false =>
      rw [if_neg Bool.false_ne_true, List.reduceOption_nil, List.map_nil, List.nil_append,
        foldl_add_value, List.filterMap_map]
      rfl

/-- What a walk finds before an item that declares functions, there, and from there on. -/
theorem foldl_takeIn_split (earlier later : List Item) {item : Item}
    (hKind : item.node.kind = .declaration ∨ item.node.kind = .functionDefinition) (walk : Walk) :
    (earlier ++ item :: later).foldl (takeIn source) walk =
      (later.foldl (takeIn source) { naming := (earlier.foldl (takeIn source) walk).naming }).after
        ((earlier.foldl (takeIn source) walk).records ++
          item.functionRecords source (earlier.foldl (takeIn source) walk).naming) := by
  rw [List.foldl_append, List.foldl_cons, takeIn_of_kind _ hKind, ← foldl_takeIn_after, after,
    List.append_nil]

end Walk

namespace Node

variable {front inserted back : Bytes} {marks : List Node} {owner root root' : Node}

/-- Inside a linkage specification, a declaration declares the same, without a comment. -/
theorem functionRecords_inLinkage {low high : Nat} (hOwner : TakesLinkage front marks owner)
    (hLies : owner.LiesIn low high) (naming : Naming) (before : List Node) :
    Item.functionRecords (front ++ inserted ++ back) naming
        ⟨owner.inLinkage inserted.length, marks.reverse⟩ =
      (Item.functionRecords (front ++ back) naming ⟨owner, before⟩).map
        FunctionRecord.uncommented := by
  have hDeclares : owner.kind.declares := by
    rcases hOwner.kind with hKind | hKind <;> rw [hKind] <;> rfl
  have hChildren : List.Forall₂ (AlikeInOrder (front ++ back) (front ++ inserted ++ back))
      owner.children (owner.inLinkage inserted.length).children := by
    rw [inLinkage, shifted_children]
    exact allAlikeInOrder_shifted hLies.children (Nat.le_of_eq hOwner.start_eq.symm)
  have hDeclarations : owner.declarations (front ++ back) =
      (owner.inLinkage inserted.length).declarations (front ++ inserted ++ back) :=
    AlikeInOrder.declarations_eq hDeclares (shifted_kind ..).symm (shifted_hasError ..).symm
      hChildren
  have hRun : attachedRun (front ++ inserted ++ back) false
      (owner.inLinkage inserted.length).start marks.reverse = [] := by
    cases hMarks : marks.reverse with
    | nil => rfl
    | cons last rest =>
        have hLast : marks.getLast? = some last := by
          rw [← List.head?_reverse, hMarks, List.head?_cons]
        exact attachedRun_of_not_comment (hOwner.no_comment last hLast)
  have hTokens : (owner.inLinkage inserted.length).commentTokens (front ++ inserted ++ back)
      marks.reverse = [] := by
    rw [commentTokens, attachedComment?, hRun]
    rfl
  rw [Item.functionRecords, Item.functionRecords, ← hDeclarations, hTokens, List.map_filterMap]
  refine List.filterMap_congr fun declaration _ => ?_
  cases declaration with
  | typeName name declaration => rfl
  | value declaration =>
      simp only [Declaration.record?, Option.map_map]
      rfl

private theorem map_uncommented_eq_iff {records : List FunctionRecord} :
    records.map FunctionRecord.uncommented = records ↔
      ∀ record ∈ records, record.commentTokens = [] := by
  induction records with
  | nil => simp
  | cons record rest ih =>
      obtain ⟨name, signature, tokens⟩ := record
      rw [List.map_cons, List.cons_eq_cons, ih, List.forall_mem_cons]
      simp [FunctionRecord.uncommented, eq_comm]

private theorem commentTokens_of_mem_functionRecords {source : Bytes} {naming : Naming}
    {item : Item} {record : FunctionRecord}
    (hRecord : record ∈ item.functionRecords source naming) :
    record.commentTokens = item.node.commentTokens source item.before := by
  obtain ⟨declaration, -, hDeclaration⟩ := List.mem_filterMap.1 hRecord
  cases declaration with
  | typeName name declaration => exact absurd hDeclaration nofun
  | value declaration =>
      obtain ⟨_, -, rfl⟩ := Option.map_eq_some_iff.1 hDeclaration
      rfl

/-- A linkage specification in front of one declaration leaves names, signatures and the records of
everything else as they are. The records of the declaration lose their comment: it stands in front
of the specification, and what the declaration has in front of it inside is the mark. So nothing
changes exactly if the comment has no words in it. -/
theorem walkItems_linked (inserted back : Bytes) (hOwner : TakesLinkage front marks owner)
    (hRoot : root.LiesIn 0 (front ++ back).length) (hKind : root.kind.declares = false)
    (hLinked : Linked marks inserted.length owner root root') (naming : Naming) :
    let walk := root.walkItems (front ++ back) naming
    let walk' := root'.walkItems (front ++ inserted ++ back) naming
    ∃ earlier own later,
      walk.records = earlier ++ own ++ later ∧
      walk'.records = earlier ++ own.map FunctionRecord.uncommented ++ later ∧
      walk'.naming = walk.naming ∧
      (own ≠ [] → ∃ before namingThere, ⟨owner, before⟩ ∈ root.fileItems ∧
        own = Item.functionRecords (front ++ back) namingThere ⟨owner, before⟩ ∧
        ∀ record ∈ own, record.commentTokens = owner.commentTokens (front ++ back) before) ∧
      (walk'.records = walk.records ↔ ∀ record ∈ own, record.commentTokens = []) := by
  intro walk walk'
  have hItem : ∀ item ∈ root.fileItems, item.LiesIn 0 (front ++ back).length :=
    fun _ => liesIn_of_mem_fileItems hRoot
  have hItems := hLinked.fileItems hOwner hKind hRoot
  have hWalk : walk = root.fileItems.foldl (Walk.takeIn (front ++ back)) { naming } :=
    walkItems_eq_foldl _ root naming
  have hWalk' :
      walk' = root'.fileItems.foldl (Walk.takeIn (front ++ inserted ++ back)) { naming } :=
    walkItems_eq_foldl _ root' naming
  -- from here on the trees do not matter, only their items
  clear_value walk walk'
  generalize root.fileItems = items, root'.fileItems = items' at hItem hItems hWalk hWalk' ⊢
  cases hItems with
  | same hSame =>
      rw [hSame.foldl_eq, ← hWalk] at hWalk'
      rw [hWalk']
      exact ⟨walk.records, [], [], by simp, by simp, rfl, by simp, by simp⟩
  | @changed earlier earlier' later later' before hEarlier hLater =>
      have hOwnerLies : owner.LiesIn 0 (front ++ back).length :=
        (hItem _ (List.mem_append_right _ List.mem_cons_self)).node
      have hKind' : (owner.inLinkage inserted.length).kind = .declaration ∨
          (owner.inLinkage inserted.length).kind = .functionDefinition := by
        rw [inLinkage, shifted_kind]
        exact hOwner.kind
      rw [Walk.foldl_takeIn_split _ _ hOwner.kind] at hWalk
      rw [Walk.foldl_takeIn_split _ _ hKind', hEarlier.foldl_eq, hLater.foldl_eq,
        functionRecords_inLinkage hOwner hOwnerLies _ before] at hWalk'
      rw [hWalk, hWalk']
      refine ⟨_, _, _, rfl, rfl, rfl, fun _ => ⟨before, _, by simp, rfl, ?_⟩, ?_⟩
      · exact fun record => commentTokens_of_mem_functionRecords
      · rw [← map_uncommented_eq_iff, Walk.after, Walk.after, List.append_left_inj,
          List.append_right_inj]

/-- Without a comment in front of it, `int f(int);` gives the same record in `extern "C"`. -/
theorem walkItems_linked_uncommented_function :
    let source := ascii "int f(int);\n"
    let mark := ascii "extern \"C\" "
    let marks := [spanning (.other "extern") 0 6 none [],
      spanning (.other "string_literal") 7 10 none []]
    let declaration := spanning .declaration 0 11 none
      [spanning .primitiveType 0 3 (some .type) [],
        spanning (.functionDeclarator .naming) 4 10 (some .declarator)
          [spanning (.name .identifier) 4 5 (some .declarator) [],
            spanning (.other "parameter_list") 5 10 (some .parameters)
              [spanning .parameterDeclaration 6 9 none
                [spanning .primitiveType 6 9 (some .type) []]]]]
    let root := spanning (.other "translation_unit") 0 12 none [declaration]
    let root' := root.stretched mark.length [declaration.linked marks mark.length]
    let naming : Naming := { lang := .cpp, aliases := {} }
    TakesLinkage [] marks declaration ∧ root.LiesIn 0 source.length ∧
      Linked marks mark.length declaration root root' ∧
      (root'.walkItems (mark ++ source) naming).records =
        (root.walkItems source naming).records := by
  intro source mark marks declaration root root' naming
  have hOwner : TakesLinkage [] marks declaration := by
    refine ⟨.inl rfl, rfl, by decide, ?_, ?_⟩
    · simp [marks, spanning]
    · simp [marks, spanning]
  have hRoot : root.LiesIn 0 source.length := by
    simp [root, source, declaration, spanning, LiesIn, LieInOrder, ascii]
  have hChildren : root.children = [] ++ [declaration] := rfl
  have hLinked : Linked marks mark.length declaration root root' :=
    .inside (.inl rfl) (by decide) hChildren .here
  obtain ⟨earlier, own, later, -, -, -, hOwn, hIff⟩ :=
    walkItems_linked mark source hOwner hRoot rfl hLinked naming
  refine ⟨hOwner, hRoot, hLinked, hIff.2 fun record hRecord => ?_⟩
  obtain ⟨before, -, hItem, -, hTokens⟩ := hOwn (List.ne_nil_of_mem hRecord)
  have hItems : root.fileItems = [⟨declaration, []⟩] := rfl
  rw [hItems, List.mem_singleton, Item.mk.injEq] at hItem
  rw [hTokens record hRecord, hItem.2]
  rfl

/-- The comment above `extern "C" int f(int);` is lost. -/
theorem walkItems_linked_loses_comment :
    let front := ascii "/* Doc. */\n"
    let mark := ascii "extern \"C\" "
    let back := ascii "int f(int);\n"
    let marks := [spanning (.other "extern") 11 17 none [],
      spanning (.other "string_literal") 18 21 none []]
    let comment := spanning .comment 0 10 none []
    let declaration := spanning .declaration 11 22 none
      [spanning .primitiveType 11 14 (some .type) [],
        spanning (.functionDeclarator .naming) 15 21 (some .declarator)
          [spanning (.name .identifier) 15 16 (some .declarator) [],
            spanning (.other "parameter_list") 16 21 (some .parameters)
              [spanning .parameterDeclaration 17 20 none
                [spanning .primitiveType 17 20 (some .type) []]]]]
    let root := spanning (.other "translation_unit") 0 23 none [comment, declaration]
    let root' := root.stretched mark.length [comment, declaration.linked marks mark.length]
    let naming : Naming := { lang := .cpp, aliases := {} }
    TakesLinkage front marks declaration ∧ root.LiesIn 0 (front ++ back).length ∧
      Linked marks mark.length declaration root root' ∧
      (root.walkItems (front ++ back) naming).records = [⟨"f", ["int", "int"], ["Doc"]⟩] ∧
      (root'.walkItems (front ++ mark ++ back) naming).records = [⟨"f", ["int", "int"], []⟩] := by
  intro front mark back marks comment declaration root root' naming
  have hOwner : TakesLinkage front marks declaration := by
    refine ⟨.inl rfl, rfl, by decide, ?_, ?_⟩
    · simp [marks, spanning]
    · simp [marks, spanning]
  have hRoot : root.LiesIn 0 (front ++ back).length := by
    simp [root, front, back, comment, declaration, spanning, LiesIn, LieInOrder, ascii]
  have hChildren : root.children = [comment] ++ [declaration] := rfl
  have hLinked : Linked marks mark.length declaration root root' :=
    .inside (.inl rfl) (by decide) hChildren .here
  let declared : Declaration := .mk (.name "int") ∅
    (.function none [.declared (.mk (.name "int") ∅ .nothing)] (.name ⟨.identifier, some "f"⟩))
  let body := declaration.inLinkage mark.length
  have hItems : root.fileItems = [⟨comment, []⟩, ⟨declaration, [comment]⟩] := rfl
  have hItems' : root'.fileItems = [⟨comment, []⟩, ⟨body, marks.reverse⟩] := rfl
  have hRecords : ∀ {source : Bytes} {node : Node} {before : List Node} {tokens : List String},
      node.declarations source = [.value declared] → node.commentTokens source before = tokens →
      ([⟨comment, []⟩, ⟨node, before⟩].foldl (Walk.takeIn source) { naming }).records =
        [⟨"f", ["int", "int"], tokens⟩] := by
    intro source node before tokens hDeclarations hTokens
    rw [List.foldl_cons, List.foldl_cons, List.foldl_nil, Walk.takeIn_eq_foldl,
      Walk.takeIn_eq_foldl, hDeclarations, hTokens]
    rfl
  rw [walkItems_eq_foldl, walkItems_eq_foldl, hItems, hItems']
  exact ⟨hOwner, hRoot, hLinked, hRecords rfl rfl, hRecords rfl rfl⟩

end Node

end FunctionCatalog
