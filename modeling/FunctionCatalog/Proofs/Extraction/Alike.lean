import FunctionCatalog.Proofs.Tree.Agreement

/-!
# Items and files that are read alike

An item declares what is read from its children, so alike items declare the same. So do files with
alike items, which may stand in containers.

## Main results

* `Node.Alike.declarations_eq` — alike items declare the same.
* `Node.AllAlike.fileDeclarations_eq` — so do files with alike items.
* `Node.Alike.takeIn_eq` — with the same comment, alike items add the same to a walk.
-/

namespace FunctionCatalog

namespace Node

variable {source source' : Bytes}

/-! ## Items that declare nothing -/

theorem declarations_of_not_declares (source : Bytes) {node : Node}
    (hKind : node.kind.declares = false) : node.declarations source = [] := by
  have hDefinitions : node.definitions source = [] := by
    unfold definitions
    cases h : node.kind <;> simp_all [Kind.declares]
  have hDeclarators : node.declarators = [] := by
    unfold Node.declarators
    cases h : node.kind <;> simp_all [Kind.declares]
  rw [declarations, hDefinitions, hDeclarators]
  split <;> rfl

private theorem declares_of_isUnread {node : Node} (hUnread : node.isUnread) :
    node.kind.declares = false := by
  rcases kind_of_isUnread hUnread with ⟨_, hOther⟩ | ⟨_, hOther⟩ <;> rw [hOther] <;> rfl

/-! ## Alike items -/

/-- What is read from the first children with a field is the same. -/
theorem AllAlike.child_bind_eq {α : Type} {node node' : Node}
    (h : AllAlike source source' node.children node'.children) (field : Field)
    {read read' : Node → Option α}
    (hSame : ∀ child child', child.field? = some field → Alike source source' child child' →
      read child = read' child') :
    (node.child? field).bind read = (node'.child? field).bind read' :=
  child?_bind_eq (h.filter (sameTest_field field)) hSame

private theorem Alike.isUnnamedTag_eq {node node' : Node} (h : Alike source source' node node') :
    node.isUnnamedTag = node'.isUnnamedTag := by
  cases h with
  | intro hKind _ _ _ _ _ hChildren =>
      have hSome : (node.child? .name).isSome = (node'.child? .name).isSome := by
        rw [child?, child?, List.isSome_find?, List.isSome_find?,
          hChildren.any_eq (sameTest_field .name)]
      rw [isUnnamedTag, isUnnamedTag, hKind, ← Option.not_isSome, hSome, Option.not_isSome]
  | unread _ _ _ hTag => exact hTag

/-- Two items with the same specifier and qualifiers. -/
structure SameBase (source source' : Bytes) (owner owner' : Node) : Prop where
  specifier_eq : (owner.child? .type).bind (Specifier.ofNode? source) =
    (owner'.child? .type).bind (Specifier.ofNode? source')
  qualifiers_eq : Qualifiers.ofNodes source owner.children =
    Qualifiers.ofNodes source' owner'.children

private theorem SameBase.ofNodes?_eq {owner owner' declarator declarator' : Node}
    (h : SameBase source source' owner owner')
    (hDeclarator : Alike source source' declarator declarator') :
    Declaration.ofNodes? source owner declarator =
      Declaration.ofNodes? source' owner' declarator' := by
  simp only [Declaration.ofNodes?, Option.bind_eq_bind]
  rw [← Option.bind_assoc, ← Option.bind_assoc, h.specifier_eq, h.qualifiers_eq,
    hDeclarator.declarator_eq]

theorem SameBase.ofTypedef?_eq {owner owner' declarator declarator' : Node}
    (h : SameBase source source' owner owner')
    (hChildren : AllAlike source source' owner.children owner'.children)
    (hDeclarator : Alike source source' declarator declarator') :
    Declaration.ofTypedef? source owner declarator =
      Declaration.ofTypedef? source' owner' declarator' := by
  rw [Declaration.ofTypedef?, Declaration.ofTypedef?, h.ofNodes?_eq hDeclarator, h.qualifiers_eq,
    hDeclarator.declarator_eq]
  exact hChildren.child_bind_eq .type fun _ _ _ hType => by rw [hType.isUnnamedTag_eq]

/-- The declarators of alike items correspond. -/
theorem AllAlike.declarators {node node' : Node}
    (h : AllAlike source source' node.children node'.children)
    (hKind : node.kind = node'.kind) :
    List.Forall₂ (Alike source source') node.declarators node'.declarators := by
  have hAll := h.filter (sameTest_field .declarator)
  rw [Node.declarators, Node.declarators, ← hKind]
  split
  · rw [child?, child?, ← List.head?_filter, ← List.head?_filter, ← List.take_one, ← List.take_one]
    exact List.forall₂_take 1 hAll
  · exact hAll
  · exact .nil

private theorem Alike.definitions_eq {node node' : Node} (hKind : node.kind = node'.kind)
    (hSpelled : node.spelled source = node'.spelled source')
    (hBase : node.kind = .typeDefinition → SameBase source source' node node')
    (hChildren : AllAlike source source' node.children node'.children) :
    node.definitions source = node'.definitions source' := by
  rw [definitions, definitions, ← hKind]
  split
  · next hTypedef =>
      rw [← List.forall₂_eq_eq_eq]
      refine List.rel_map (fun _ _ hDeclarator => ?_)
        (hChildren.filter (sameTest_field .declarator))
      rw [(hBase hTypedef).ofTypedef?_eq hChildren hDeclarator]
  · next hAlias =>
      have hName := congrArg Spelled.name? hSpelled
      simp only [spelled, ← hKind, hAlias] at hName
      rw [hName, hChildren.child_bind_eq .type fun _ _ hField hType =>
        hType.declaration_eq (.inl hField)]
  · rfl

/-- Alike items declare the same. -/
theorem Alike.declarations_eq {node node' : Node} (h : Alike source source' node node') :
    node.declarations source = node'.declarations source' := by
  cases h with
  | intro hKind _ hError hField hSpelled hQualifiers hChildren =>
      have hBase (hNoAlias : node.kind ≠ .aliasDeclaration) :
          SameBase source source' node node' :=
        ⟨by rw [← specifier?_spelled (.inl hNoAlias), hSpelled,
            specifier?_spelled (.inl (hKind ▸ hNoAlias))],
          Qualifiers.ofNodes_eq_of_mem_iff hQualifiers⟩
      have hDefinitions := definitions_eq hKind hSpelled
        (fun hTypedef => hBase (by simp [hTypedef])) hChildren
      have hValues : node.declarators.filterMap (Declaration.ofNodes? source node) =
          node'.declarators.filterMap (Declaration.ofNodes? source' node') := by
        by_cases hAlias : node.kind = .aliasDeclaration
        · rw [Node.declarators, Node.declarators, ← hKind, hAlias]
          rfl
        · exact filterMap_eq_of_forall₂ (hChildren.declarators hKind)
            fun _ _ hDeclarator => (hBase hAlias).ofNodes?_eq hDeclarator
      cases hDeclares : node.kind.declares with
      | true => rw [declarations, declarations, hError hDeclares, hDefinitions, hValues]
      | false =>
          rw [declarations_of_not_declares source hDeclares,
            declarations_of_not_declares source' (hKind ▸ hDeclares)]
  | unread hKind _ _ _ hUnread _ =>
      have hDeclares := declares_of_isUnread hUnread
      rw [declarations_of_not_declares source hDeclares,
        declarations_of_not_declares source' (hKind ▸ hDeclares)]

/-! ## Alike files -/

/-- A qualifier among the items of a file declares nothing. -/
theorem declarations_of_isQualifier (source : Bytes) {node : Node} (hQualifier : node.isQualifier) :
    node.topLevel.flatMap (declarations source) = [] := by
  have hKind := (isQualifier_iff.1 hQualifier).1
  rw [topLevel_eq, contents?, hKind, List.flatMap_singleton,
    declarations_of_not_declares source (by rw [hKind]; rfl)]

mutual

theorem Alike.topLevel_eq : ∀ {node node' : Node}, Alike source source' node node' →
    node.topLevel.flatMap (declarations source) = node'.topLevel.flatMap (declarations source')
  | node, node', h@(.intro hKind _ _ _ _ _ hChildren) => by
      have hNamed := hChildren.namedChildren_eq
      have hBody := hChildren.body_eq
      have hItem := h.declarations_eq
      rw [Node.topLevel_eq, Node.topLevel_eq, contents?, contents?, ← hKind]
      cases node.kind with
      | conditionalBlock | declarationList => exact hNamed
      | linkageSpecification => exact hBody
      | _ => simpa only [List.flatMap_singleton] using hItem
  | _, _, h@(.unread hKind _ _ _ hUnread _) => by
      rw [Node.topLevel_eq, Node.topLevel_eq, contents?, contents?, ← hKind]
      rcases kind_of_isUnread hUnread with ⟨_, hOther⟩ | ⟨_, hOther⟩ <;>
        rw [hOther, List.flatMap_singleton, List.flatMap_singleton, h.declarations_eq]

private theorem AllAlike.namedChildren_eq : ∀ {nodes nodes' : List Node},
    AllAlike source source' nodes nodes' →
      ((nodes.filter (·.isNamed)).flatMap topLevel).flatMap (declarations source) =
        ((nodes'.filter (·.isNamed)).flatMap topLevel).flatMap (declarations source')
  | _, _, .nil => rfl
  | node :: _, _, .cons hNode hRest => by
      have hRest' := hRest.namedChildren_eq
      rw [List.filter_cons, List.filter_cons, ← hNode.isNamed_eq]
      cases node.isNamed with
      | true =>
          simp only [if_true, List.flatMap_cons, List.flatMap_append, hNode.topLevel_eq, hRest']
      | false => exact hRest'
  | node :: _, _, .qualifier hQualifier hRest => by
      rw [List.filter_cons, ← hRest.namedChildren_eq]
      cases node.isNamed with
      | true =>
          rw [if_pos rfl, List.flatMap_cons, List.flatMap_append,
            declarations_of_isQualifier source hQualifier, List.nil_append]
      | false => rfl
  | _, node' :: _, .qualifierOther hQualifier hRest => by
      rw [List.filter_cons, hRest.namedChildren_eq]
      cases node'.isNamed with
      | true =>
          rw [if_pos rfl, List.flatMap_cons, List.flatMap_append,
            declarations_of_isQualifier source' hQualifier, List.nil_append]
      | false => rfl

private theorem AllAlike.body_eq : ∀ {nodes nodes' : List Node},
    AllAlike source source' nodes nodes' →
      ((nodes.find? (·.field? == some .body)).toList.flatMap topLevel).flatMap
          (declarations source) =
        ((nodes'.find? (·.field? == some .body)).toList.flatMap topLevel).flatMap
          (declarations source')
  | _, _, .nil => rfl
  | node :: _, _, .cons hNode hRest => by
      have hRest' := hRest.body_eq
      rw [List.find?_cons, List.find?_cons, ← hNode.field?_eq]
      cases node.field? == some .body with
      | true =>
          simp only [Option.toList_some, List.flatMap_singleton, hNode.topLevel_eq]
      | false => exact hRest'
  | _, _, .qualifier hQualifier hRest => by
      rw [List.find?_cons, (isQualifier_iff.1 hQualifier).2]
      exact hRest.body_eq
  | _, _, .qualifierOther hQualifier hRest => by
      rw [List.find?_cons, (isQualifier_iff.1 hQualifier).2]
      exact hRest.body_eq

end

/-- Alike files declare the same. -/
theorem AllAlike.fileDeclarations_eq {root root' : Node}
    (hRoot : AllAlike source source' root.children root'.children) :
    root.fileDeclarations source = root'.fileDeclarations source' :=
  hRoot.namedChildren_eq

/-! ## Items wherever they stand -/

/-- A node as an item of a file, whatever its role is in the container that it stands in. -/
def asItem (node : Node) : Node :=
  { node with isNamed := true, field? := none }

private theorem declarations_asItem (source : Bytes) (node : Node) :
    node.asItem.declarations source = node.declarations source :=
  rfl

theorem topLevel_asItem (source : Bytes) (node : Node) :
    node.asItem.topLevel.flatMap (declarations source) =
      node.topLevel.flatMap (declarations source) := by
  have hContents : node.asItem.contents? = node.contents? := rfl
  rw [topLevel_eq, topLevel_eq, hContents]
  cases node.contents? with
  | some _ => rfl
  | none => simp only [List.flatMap_singleton, declarations_asItem]

/-- What an item declares depends on what its children show. -/
theorem AlikeInOrder.declarations_eq {node node' : Node} (hDeclares : node.kind.declares)
    (hKind : node.kind = node'.kind) (hError : node.hasError = node'.hasError)
    (hChildren : List.Forall₂ (AlikeInOrder source source') node.children node'.children) :
    node.declarations source = node'.declarations source' := by
  have hText (kind : NameKind) (hName : node.kind = .name kind) :
      node.text? source = node'.text? source' := by
    rw [hName] at hDeclares
    exact absurd hDeclares Bool.false_ne_true
  have hItem : Alike source source' node.asItem node'.asItem :=
    alike_of_children hKind rfl (fun _ => hError) rfl hText hChildren
  exact hItem.declarations_eq

/-- Items that are read alike add the same to a walk, if they have the same comment. -/
theorem Alike.takeIn_eq {item item' : Item}
    (h : Alike source source' item.node.asItem item'.node.asItem)
    (hComment : item.node.commentTokens source item.before =
      item'.node.commentTokens source' item'.before) (walk : Walk) :
    walk.takeIn source item = walk.takeIn source' item' := by
  have hDeclarations := h.declarations_eq
  rw [declarations_asItem, declarations_asItem] at hDeclarations
  rw [Walk.takeIn_eq_foldl, Walk.takeIn_eq_foldl, hDeclarations, hComment]

end Node

end FunctionCatalog
