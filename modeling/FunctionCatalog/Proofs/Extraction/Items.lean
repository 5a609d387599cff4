import FunctionCatalog.Extraction.Walk
import Mathlib.Data.List.Forall2
import Mathlib.Data.List.ReduceOption

/-!
# The items of a file

A walk enters conditional blocks, lists of declarations and linkage specifications, and takes in
everything else as it comes. So it is a fold over the flattened list of items, in which a container
is replaced by what it holds (`Node.topLevel`). An item comes with the siblings in front of it,
which only its comment depends on. Without comments, all that an item adds is the declarations it
makes (`Node.declarations`): type names first known from there on, and functions.

## Main results

* `Node.walkItems_eq_foldl` — the walk of a tree is a fold over its items.
* `Node.topLevel_eq` — a container counts as what it holds, at any depth.
* `Node.outline_walkItems` — names and signatures depend on nothing but the declarations of the
  flattened list.
-/

namespace FunctionCatalog

/-! ## Flattening -/

/-- What stands at the top level of a file, and the siblings in front of it, the nearest first. -/
structure Item where
  node : Node
  before : List Node

/-- The nodes that a container holds: the named ones in a block, and the one that a linkage
specification applies to. Other nodes are no containers. -/
def Node.contents? (node : Node) : Option (List Node) :=
  match node.kind with
  | .conditionalBlock | .declarationList => some node.namedChildren
  | .linkageSpecification => some (node.child? .body).toList
  | _ => none

mutual

/-- The items that a node after the given siblings stands for. -/
def Node.items (before : List Node) : Node → List Item
  | node@⟨kind, _, _, _, _, _, children⟩ =>
    match kind with
    | .conditionalBlock | .declarationList => itemsAmong [] children
    | .linkageSpecification => itemsOfBody [] children
    | _ => [⟨node, before⟩]

/-- The items of the named ones of the given nodes. -/
def Node.itemsAmong (before : List Node) : List Node → List Item
  | [] => []
  | node :: rest =>
    if node.isNamed then node.items before ++ itemsAmong (node :: before) rest
    else itemsAmong (node :: before) rest

/-- The items of the one of the given nodes that a linkage specification applies to. -/
def Node.itemsOfBody (before : List Node) : List Node → List Item
  | [] => []
  | node :: rest =>
    if node.field? == some .body then node.items before else itemsOfBody (node :: before) rest

end

/-- The items that a node stands for, wherever it does. -/
def Node.topLevel (node : Node) : List Node :=
  (node.items []).map Item.node

/-- The items of a file, in source order. -/
def Node.fileItems (root : Node) : List Item :=
  Node.itemsAmong [] root.children

/-- The siblings in front matter to the items of a container as little as to the container. -/
theorem Node.map_node_items (before : List Node) (node : Node) :
    (node.items before).map Item.node = node.topLevel := by
  obtain ⟨kind, start, stop, isNamed, hasError, field?, children⟩ := node
  unfold Node.topLevel
  cases kind <;> simp [Node.items]

private theorem Node.map_node_itemsAmong (before nodes : List Node) :
    (Node.itemsAmong before nodes).map Item.node =
      (nodes.filter (·.isNamed)).flatMap Node.topLevel := by
  induction nodes generalizing before with
  | nil => rfl
  | cons node rest ih =>
      cases hNamed : node.isNamed with
      | true => simp [Node.itemsAmong, hNamed, Node.map_node_items, ih]
      | false => simp [Node.itemsAmong, hNamed, ih]

private theorem Node.map_node_itemsOfBody (before nodes : List Node) :
    (Node.itemsOfBody before nodes).map Item.node =
      (nodes.find? (·.field? == some .body)).toList.flatMap Node.topLevel := by
  induction nodes generalizing before with
  | nil => rfl
  | cons node rest ih =>
      cases hBody : node.field? == some .body with
      | true => simp [Node.itemsOfBody, hBody, Node.map_node_items]
      | false => simp [Node.itemsOfBody, hBody, ih]

/-- A container counts as what it holds. -/
theorem Node.topLevel_eq (node : Node) :
    node.topLevel =
      match node.contents? with
      | some nodes => nodes.flatMap Node.topLevel
      | none => [node] := by
  have hAmong := Node.map_node_itemsAmong [] node.children
  have hBody := Node.map_node_itemsOfBody [] node.children
  obtain ⟨kind, start, stop, isNamed, hasError, field?, children⟩ := node
  unfold Node.topLevel
  cases kind <;>
    simp only [Node.items, Node.contents?, hAmong, hBody, Node.namedChildren, Node.child?] <;> rfl

theorem Node.map_node_fileItems (root : Node) :
    root.fileItems.map Item.node = root.namedChildren.flatMap Node.topLevel :=
  Node.map_node_itemsAmong [] root.children

/-! ## The walk is a fold -/

section Fold

variable (source : Bytes)

/-- Takes in an item, unless it has a syntax error. -/
def Walk.takeIn (walk : Walk) (item : Item) : Walk :=
  if item.node.hasError then walk else walk.visitItem source item.before item.node

mutual

private theorem Walk.visit_eq_foldl (walk : Walk) (before : List Node) : ∀ node : Node,
    walk.visit source before node = (node.items before).foldl (Walk.takeIn source) walk
  | ⟨kind, start, stop, isNamed, hasError, field?, children⟩ => by
      have hNamed := Walk.visitNamed_eq_foldl walk [] children
      have hBody := Walk.visitBody_eq_foldl walk [] children
      cases kind <;> simp only [Walk.visit, Node.items, hNamed, hBody] <;> rfl

private theorem Walk.visitNamed_eq_foldl (walk : Walk) (before : List Node) : ∀ nodes : List Node,
    walk.visitNamed source before nodes =
      (Node.itemsAmong before nodes).foldl (Walk.takeIn source) walk
  | [] => rfl
  | node :: rest => by
      cases hNamed : node.isNamed with
      | true =>
          simp only [Walk.visitNamed, Node.itemsAmong, hNamed, if_true, List.foldl_append]
          rw [Walk.visit_eq_foldl, Walk.visitNamed_eq_foldl _ _ rest]
      | false =>
          simp only [Walk.visitNamed, Node.itemsAmong, hNamed, Bool.false_eq_true, if_false]
          exact Walk.visitNamed_eq_foldl _ _ rest

private theorem Walk.visitBody_eq_foldl (walk : Walk) (before : List Node) : ∀ nodes : List Node,
    walk.visitBody source before nodes =
      (Node.itemsOfBody before nodes).foldl (Walk.takeIn source) walk
  | [] => rfl
  | node :: rest => by
      cases hBody : node.field? == some .body with
      | true =>
          simp only [Walk.visitBody, Node.itemsOfBody, hBody, if_true]
          exact Walk.visit_eq_foldl _ _ node
      | false =>
          simp only [Walk.visitBody, Node.itemsOfBody, hBody, Bool.false_eq_true, if_false]
          exact Walk.visitBody_eq_foldl _ _ rest

end

/-- The walk of a tree is a fold over its items. -/
theorem Node.walkItems_eq_foldl (root : Node) (naming : Naming) :
    root.walkItems source naming = root.fileItems.foldl (Walk.takeIn source) { naming } :=
  Walk.visitNamed_eq_foldl source { naming } [] root.children

end Fold

/-! ## What items declare -/

theorem filterMap_eq_of_forall₂ {α β γ : Type} {R : α → β → Prop} {f : α → Option γ}
    {g : β → Option γ} {items : List α} {items' : List β} (hItems : List.Forall₂ R items items')
    (hSame : ∀ item item', R item item' → f item = g item') :
    items.filterMap f = items'.filterMap g := by
  induction hItems with
  | nil => rfl
  | cons hFirst _ ih => rw [List.filterMap_cons, List.filterMap_cons, hSame _ _ hFirst, ih]

/-- What an item declares. -/
inductive ItemDeclaration where
  /-- A name that stands for a type from here on. -/
  | typeName (name : String) (declaration : Declaration)
  /-- A function or an object. -/
  | value (declaration : Declaration)

section Declarations

variable (source : Bytes)

/-- The definitions of type names in an item, with `none` for one that cannot be read. -/
def Node.definitions (node : Node) : List (Option (String × Declaration)) :=
  match node.kind with
  | .typeDefinition =>
    (node.childrenWith .declarator).map fun declarator => do
      let declaration ← Declaration.ofTypedef? source node declarator
      let name ← declaration.name?.bind (·.text?)
      some (name, declaration)
  | .aliasDeclaration =>
    [do
      let name ← (node.child? .name).bind (·.text? source)
      let declaration ← (node.child? .type).bind (Declaration.ofNode? source)
      some (name, declaration)]
  | _ => []

/-- The declarators of functions and objects in an item. -/
def Node.declarators (node : Node) : List Node :=
  match node.kind with
  | .functionDefinition => (node.child? .declarator).toList
  | .declaration => node.childrenWith .declarator
  | _ => []

/-- What an item declares. With a syntax error in it, that is nothing. -/
def Node.declarations (node : Node) : List ItemDeclaration :=
  if node.hasError then []
  else
    (node.definitions source).reduceOption.map (fun (name, declaration) =>
        .typeName name declaration)
      ++ (node.declarators.filterMap (Declaration.ofNodes? source node)).map .value

/-- What the items of a file declare, in source order. -/
def Node.fileDeclarations (root : Node) : List ItemDeclaration :=
  (root.namedChildren.flatMap Node.topLevel).flatMap (Node.declarations source)

end Declarations

/-- The names after a definition. One that gives no type adds nothing. -/
def Naming.define (naming : Naming) (name : String) (declaration : Declaration) : Naming :=
  match declaration.type? naming with
  | some type => naming.declare name type
  | none => naming

/-- The record of the function that a declaration declares, with the given comment. -/
def Declaration.record? (naming : Naming) (comment : List String) (declaration : Declaration) :
    Option FunctionRecord :=
  (declaration.function? naming).map fun (name, types) =>
    { name, signature := types.map (·.spelling naming.lang), commentTokens := comment }

/-- Adds what one declaration adds. -/
def Walk.add (comment : List String) (walk : Walk) : ItemDeclaration → Walk
  | .typeName name declaration => { walk with naming := walk.naming.define name declaration }
  | .value declaration =>
    { walk with records := walk.records ++ (declaration.record? walk.naming comment).toList }

section Adding

variable {source : Bytes}

private theorem functionRecord?_eq (naming : Naming) (before : List Node)
    (owner declarator : Node) :
    functionRecord? source naming before owner declarator =
      (Declaration.ofNodes? source owner declarator).bind
        (·.record? naming (owner.commentTokens source before)) := by
  unfold functionRecord?
  cases Declaration.ofNodes? source owner declarator with
  | none => rfl
  | some declaration =>
      simp only [Option.bind_eq_bind, Option.bind_some, Declaration.record?]
      cases declaration.function? naming <;> rfl

private theorem Walk.foldl_add_typeName (comment : List String)
    (definitions : List (String × Declaration)) (walk : Walk) :
    (definitions.map fun (name, declaration) =>
        ItemDeclaration.typeName name declaration).foldl (Walk.add comment) walk =
      { walk with
        naming := definitions.foldl (fun naming (name, declaration) =>
          naming.define name declaration) walk.naming } := by
  induction definitions generalizing walk with
  | nil => rfl
  | cons definition rest ih =>
      rw [List.map_cons, List.foldl_cons, ih]
      rfl

theorem Walk.foldl_add_value (comment : List String) (declarations : List Declaration)
    (walk : Walk) :
    (declarations.map ItemDeclaration.value).foldl (Walk.add comment) walk =
      { walk with
        records := walk.records ++ declarations.filterMap (·.record? walk.naming comment) } := by
  induction declarations generalizing walk with
  | nil => simp
  | cons declaration rest ih =>
      rw [List.map_cons, List.foldl_cons, ih]
      cases hRecord : declaration.record? walk.naming comment <;> simp [Walk.add, hRecord]

theorem Naming.afterTypedef_eq (naming : Naming) {node : Node}
    (hKind : node.kind = .typeDefinition) :
    naming.afterTypedef source node =
      (node.definitions source).reduceOption.foldl
        (fun naming (name, declaration) => naming.define name declaration) naming := by
  simp only [Naming.afterTypedef, Node.definitions, hKind]
  induction node.childrenWith .declarator generalizing naming with
  | nil => rfl
  | cons declarator rest ih =>
      rw [List.foldl_cons, List.map_cons, ih]
      cases Declaration.ofTypedef? source node declarator with
      | none => rfl
      | some declaration =>
          cases hName : declaration.name?.bind (·.text?) with
          | none => simp [Naming.declareTypedef, hName]
          | some name =>
              have hDefine :
                  naming.declareTypedef declaration = naming.define name declaration := by
                rw [Naming.declareTypedef, Naming.define, hName]
                cases declaration.type? naming <;> rfl
              simp [hName, hDefine]

theorem Naming.afterUsing_eq (naming : Naming) {node : Node}
    (hKind : node.kind = .aliasDeclaration) :
    naming.afterUsing source node =
      (node.definitions source).reduceOption.foldl
        (fun naming (name, declaration) => naming.define name declaration) naming := by
  simp only [Naming.afterUsing, Node.definitions, hKind]
  cases (node.child? .name).bind (·.text? source) with
  | none => rfl
  | some name =>
      cases (node.child? .type).bind (Declaration.ofNode? source) with
      | none => rfl
      | some declaration =>
          simp only [Option.bind_some, Naming.define]
          cases hType : declaration.type? naming <;> simp [hType]

/-- An item adds what it declares, with its comment. -/
theorem Walk.takeIn_eq_foldl (walk : Walk) (item : Item) :
    walk.takeIn source item =
      (item.node.declarations source).foldl
        (Walk.add (item.node.commentTokens source item.before)) walk := by
  unfold Walk.takeIn Node.declarations
  cases item.node.hasError with
  | true => rfl
  | false =>
      rw [if_neg Bool.false_ne_true, if_neg Bool.false_ne_true, List.foldl_append,
        Walk.foldl_add_typeName, Walk.foldl_add_value, List.filterMap_filterMap]
      cases hKind : item.node.kind <;>
        simp only [Walk.visitItem, hKind, Node.declarators, Walk.addFunctions, functionRecord?_eq,
          Naming.afterTypedef_eq, Naming.afterUsing_eq] <;>
        simp [Node.definitions, hKind]

end Adding

/-! ## Names and signatures -/

/-- The name and the signature of a record. -/
def FunctionRecord.prototype (record : FunctionRecord) : String × List String :=
  (record.name, record.signature)

/-- The name and the signature of the function that a declaration declares. -/
def Declaration.prototype? (naming : Naming) (declaration : Declaration) :
    Option (String × List String) :=
  (declaration.function? naming).map fun (name, types) =>
    (name, types.map (·.spelling naming.lang))

/-- What a walk has learned so far, apart from comments. -/
structure Outline where
  naming : Naming
  prototypes : List (String × List String) := []

/-- The outline of a walk. -/
def Walk.outline (walk : Walk) : Outline where
  naming := walk.naming
  prototypes := walk.records.map FunctionRecord.prototype

/-- Adds what one declaration adds, apart from its comment. -/
def Outline.add (outline : Outline) : ItemDeclaration → Outline
  | .typeName name declaration =>
    { outline with naming := outline.naming.define name declaration }
  | .value declaration =>
    { outline with
      prototypes := outline.prototypes ++ (declaration.prototype? outline.naming).toList }

section Outline

variable {source : Bytes}

private theorem Walk.outline_add (comment : List String) (walk : Walk)
    (declaration : ItemDeclaration) :
    (walk.add comment declaration).outline = walk.outline.add declaration := by
  cases declaration with
  | typeName name declaration => rfl
  | value declaration =>
      simp only [Walk.add, Walk.outline, Outline.add, Declaration.record?, Declaration.prototype?]
      cases declaration.function? walk.naming <;> simp [FunctionRecord.prototype]

theorem Walk.outline_foldl_add (comment : List String) (declarations : List ItemDeclaration)
    (walk : Walk) :
    (declarations.foldl (Walk.add comment) walk).outline =
      declarations.foldl Outline.add walk.outline := by
  induction declarations generalizing walk with
  | nil => rfl
  | cons declaration rest ih => rw [List.foldl_cons, ih, Walk.outline_add, List.foldl_cons]

theorem Walk.outline_foldl_takeIn (items : List Item) (walk : Walk) :
    (items.foldl (Walk.takeIn source) walk).outline =
      ((items.map Item.node).flatMap (Node.declarations source)).foldl Outline.add
        walk.outline := by
  induction items generalizing walk with
  | nil => rfl
  | cons item rest ih =>
      rw [List.foldl_cons, ih, Walk.takeIn_eq_foldl, Walk.outline_foldl_add, List.map_cons,
        List.flatMap_cons, List.foldl_append]

/-- Names and signatures depend on nothing but the declarations of the flattened list. -/
theorem Node.outline_walkItems (root : Node) (naming : Naming) :
    (root.walkItems source naming).outline =
      (root.fileDeclarations source).foldl Outline.add { naming } := by
  rw [Node.walkItems_eq_foldl, Walk.outline_foldl_takeIn, Node.map_node_fileItems]
  rfl

theorem Node.prototypes_walkItems (source : Bytes) (root : Node) (naming : Naming) :
    (root.walkItems source naming).records.map FunctionRecord.prototype =
      ((root.fileDeclarations source).foldl Outline.add { naming }).prototypes :=
  congrArg Outline.prototypes (root.outline_walkItems naming)

end Outline

end FunctionCatalog
