import FunctionCatalog.Proofs.Extraction.Appending
import FunctionCatalog.Proofs.Extraction.FunctionRecord
import FunctionCatalog.Proofs.LinkageGuard.Lines

/-!
# Containers are transparent

A conditional block, a list of declarations or a linkage specification counts as what it holds. Two
files that differ in their containers only, with the same items in the same order otherwise, declare
the same; the items may stand elsewhere, and their classes and functions may have other bodies.
Nothing that a namespace, a template or any other item without declarators holds is ever looked at.

A class body shows in one way only. A tagged type is read with all its bytes, which have to be text,
and where they are not, it is no specifier: the declaration with it is lost
(`Node.walkItems_undecodable_body`).

## Main results

* `Node.Rewrapped` — two lists of nodes that differ in containers, at any depth.
* `Node.Rewrapped.declarations_eq` — such lists declare the same.
* `Node.containers_transparent` — a walk is a fold over the flattened list, and what follows.
-/

namespace FunctionCatalog

open LinkageGuard (ascii)

namespace Node

/-! ## Rewrapping -/

section Rewrapped

variable (source source' : Bytes)

/-- Two lists of nodes, each over its own source, differ in the containers around their items, in
items that declare nothing, and in what is not read of the others. -/
inductive Rewrapped : List Node → List Node → Prop
  | nil : Rewrapped [] []
  | append {front front' back back' : List Node} (hFront : Rewrapped front front')
    (hBack : Rewrapped back back') : Rewrapped (front ++ back) (front' ++ back')
  | item {node node' : Node} (hItem : Alike source source' node.asItem node'.asItem) :
    Rewrapped [node] [node']
  | wrap {container : Node} {run inner : List Node} (hInner : container.contents? = some inner)
    (hRun : Rewrapped run inner) : Rewrapped run [container]
  | unwrap {container : Node} {run inner : List Node} (hInner : container.contents? = some inner)
    (hRun : Rewrapped inner run) : Rewrapped [container] run
  | drop {node : Node} (hItem : node.contents? = none) (hDeclares : node.kind.declares = false) :
    Rewrapped [node] []
  | insert {node : Node} (hItem : node.contents? = none) (hDeclares : node.kind.declares = false) :
    Rewrapped [] [node]

end Rewrapped

variable {source source' : Bytes}

/-- What the items in a list of nodes declare. -/
private def runDeclarations (source : Bytes) (run : List Node) : List ItemDeclaration :=
  (run.flatMap topLevel).flatMap (declarations source)

private theorem runDeclarations_append (front back : List Node) :
    runDeclarations source (front ++ back) =
      runDeclarations source front ++ runDeclarations source back := by
  rw [runDeclarations, List.flatMap_append, List.flatMap_append]
  rfl

private theorem runDeclarations_container {container : Node} {inner : List Node}
    (hInner : container.contents? = some inner) :
    runDeclarations source [container] = runDeclarations source inner := by
  rw [runDeclarations, List.flatMap_singleton, topLevel_eq, hInner]
  rfl

private theorem runDeclarations_item {node : Node} (hItem : node.contents? = none) :
    runDeclarations source [node] = node.declarations source := by
  rw [runDeclarations, List.flatMap_singleton, topLevel_eq, hItem]
  exact List.flatMap_singleton ..

/-- Rewrapped lists of nodes declare the same. -/
theorem Rewrapped.declarations_eq {run run' : List Node}
    (h : Rewrapped source source' run run') :
    (run.flatMap topLevel).flatMap (declarations source) =
      (run'.flatMap topLevel).flatMap (declarations source') := by
  change runDeclarations source run = runDeclarations source' run'
  induction h with
  | nil => rfl
  | append _ _ ihFront ihBack =>
      rw [runDeclarations_append, runDeclarations_append, ihFront, ihBack]
  | item hItem =>
      have hDeclarations := hItem.topLevel_eq
      rw [topLevel_asItem, topLevel_asItem] at hDeclarations
      rw [runDeclarations, runDeclarations, List.flatMap_singleton, List.flatMap_singleton,
        hDeclarations]
  | wrap hInner _ ih => rw [ih, runDeclarations_container hInner]
  | unwrap hInner _ ih => rw [← ih, runDeclarations_container hInner]
  | drop hItem hDeclares =>
      rw [runDeclarations_item hItem, declarations_of_not_declares source hDeclares]
      rfl
  | insert hItem hDeclares =>
      rw [runDeclarations_item hItem, declarations_of_not_declares source' hDeclares]
      rfl

/-- Files with rewrapped items have the same names and signatures, in the same order. -/
theorem Rewrapped.outline_eq {root root' : Node} (naming : Naming)
    (h : Rewrapped source source' root.namedChildren root'.namedChildren) :
    (root.walkItems source naming).outline = (root'.walkItems source' naming).outline := by
  rw [outline_walkItems, outline_walkItems, fileDeclarations, fileDeclarations, h.declarations_eq]

theorem Rewrapped.refl (source : Bytes) (run : List Node) : Rewrapped source source run run := by
  induction run with
  | nil => exact .nil
  | cons node rest ih => exact .append (.item (Alike.refl source node.asItem)) ih

/-- A run of items in a container is a rewrapping of the bare run, whatever is around it. -/
theorem Rewrapped.around {container : Node} {run : List Node}
    (hRun : container.contents? = some run) (front back : List Node) :
    Rewrapped source source (front ++ run ++ back) (front ++ [container] ++ back) :=
  .append (.append (.refl source front) (.wrap hRun (.refl source run))) (.refl source back)

/-! ## What a walk does not see -/

private theorem takeIn_of_not_declares (walk : Walk) {item : Item}
    (hKind : item.node.kind.declares = false) : walk.takeIn source item = walk := by
  rw [Walk.takeIn_eq_foldl, declarations_of_not_declares source hKind]
  rfl

/-! ## What a walk sees of a tagged type -/

private theorem ofNode?_tag {type : Node} {kind : TagKind}
    (hKind : type.kind = .tagSpecifier kind) :
    Specifier.ofNode? source type =
      (type.text? source).map fun _ =>
        .tag kind ((type.child? .name).bind (·.text? source)) := by
  rw [Specifier.ofNode?, hKind]

/-- Tagged types of one kind and name are told apart by nothing but whether their bytes are text. -/
theorem ofNode?_tag_eq_iff {type type' : Node} {kind : TagKind}
    (hKind : type.kind = .tagSpecifier kind) (hKind' : type'.kind = .tagSpecifier kind)
    (hName : (type.child? .name).bind (·.text? source) =
      (type'.child? .name).bind (·.text? source')) :
    Specifier.ofNode? source type = Specifier.ofNode? source' type' ↔
      (type.text? source).isSome = (type'.text? source').isSome := by
  rw [ofNode?_tag hKind, ofNode?_tag hKind', hName]
  cases type.text? source <;> cases type'.text? source' <;> simp

/-- Without a specifier, an item declares nothing, unless the name that it defines stands for an
unnamed tag. -/
theorem takeIn_of_specifier?_eq_none (walk : Walk) {item : Item} {type : Node}
    (hAlias : item.node.kind ≠ .aliasDeclaration)
    (hUnnamed : item.node.kind = .typeDefinition → type.isUnnamedTag = false)
    (hType : item.node.child? .type = some type) (hText : type.text? source = none) :
    walk.takeIn source item = walk := by
  have hNone (declarator : Node) :
      Declaration.ofNodes? source item.node declarator = none := by
    rw [Declaration.ofNodes?, hType]
    simp [Specifier.ofNode?, hText]
  have hDefinitions : (item.node.definitions source).reduceOption = [] := by
    rw [List.reduceOption, List.filterMap_eq_nil_iff]
    intro definition hMem
    rw [definitions] at hMem
    split at hMem
    · next hTypedef =>
        obtain ⟨declarator, -, rfl⟩ := List.mem_map.1 hMem
        rw [Declaration.ofTypedef?, hType, hNone]
        simp [hUnnamed hTypedef]
    · next hKind => exact absurd hKind hAlias
    · exact absurd hMem List.not_mem_nil
  have hValues : item.node.declarators.filterMap (Declaration.ofNodes? source item.node) = [] :=
    List.filterMap_eq_nil_iff.2 fun declarator _ => hNone declarator
  rw [Walk.takeIn_eq_foldl, declarations, hDefinitions, hValues]
  split <;> rfl

end Node

/-- Nodes over ranges of offsets are alike if the same is spelled in them and their children are. -/
theorem Node.alike_spanning {source source' : Bytes} {kind : Kind} {start stop start' stop' : Nat}
    {field? : Option Field} {children children' : List Node} (spelled : Spelled)
    {texts texts' : List (Option String)} (hPerm : texts.Perm texts')
    (hChildren : AllAlike source source' children children')
    (hSpelled : (spanning kind start stop field? children).spelled source = spelled)
    (hSpelled' : (spanning kind start' stop' field? children').spelled source' = spelled)
    (hTexts : qualifierTexts source children = texts)
    (hTexts' : qualifierTexts source' children' = texts') :
    Alike source source' (spanning kind start stop field? children)
      (spanning kind start' stop' field? children') := by
  have hSame (text? : Option String) : text? ∈ qualifierTexts source children ↔
      text? ∈ qualifierTexts source' children' := by
    rw [hTexts, hTexts']
    exact hPerm.mem_iff
  exact .intro rfl rfl (fun _ => rfl) rfl (hSpelled.trans hSpelled'.symm) hSame hChildren

/-- **Containers are transparent**: a walk is a fold over the flattened list of items, so wrapping
items in containers and unwrapping them leave names and signatures alone, and appending items leaves
records alone. Of what items hold, nothing is seen but the declarators and specifiers of their own
declarations. -/
theorem Node.containers_transparent (source : Bytes) (naming : Naming) :
    -- the walk is a fold, from the left, over the items of the flattened list
    (∀ root : Node,
      root.walkItems source naming = root.fileItems.foldl (Walk.takeIn source) { naming } ∧
        root.fileItems.map Item.node = root.namedChildren.flatMap Node.topLevel) ∧
    -- in that list, a container is replaced by what it holds, and what it holds likewise
    (∀ node : Node, node.topLevel =
      match node.kind with
      | .conditionalBlock | .declarationList => node.namedChildren.flatMap Node.topLevel
      | .linkageSpecification => (node.child? .body).toList.flatMap Node.topLevel
      | _ => [node]) ∧
    -- an item that is no declaration adds nothing, whatever is in it
    (∀ (walk : Walk) (item : Item), item.node.kind.declares = false →
      walk.takeIn source item = walk) ∧
    -- items that are read alike add the same, whatever is in the bodies of functions and classes
    (∀ (source' : Bytes) (walk : Walk) (item item' : Item),
      Node.Alike source source' item.node.asItem item'.node.asItem →
      item.node.commentTokens source item.before =
        item'.node.commentTokens source' item'.before →
        walk.takeIn source item = walk.takeIn source' item') ∧
    -- of a class, the kind and the name are read, and that all of its bytes are text
    (∀ (source' : Bytes) (type type' : Node) (kind : TagKind), type.kind = .tagSpecifier kind →
      type'.kind = .tagSpecifier kind →
      (type.child? .name).bind (·.text? source) = (type'.child? .name).bind (·.text? source') →
        (Specifier.ofNode? source type = Specifier.ofNode? source' type' ↔
          (type.text? source).isSome = (type'.text? source').isSome)) ∧
    -- where they are not, the item adds nothing, unless it defines a name for an unnamed class
    (∀ (walk : Walk) (item : Item) (type : Node), item.node.kind ≠ .aliasDeclaration →
      (item.node.kind = .typeDefinition → type.isUnnamedTag = false) →
      item.node.child? .type = some type → type.text? source = none →
        walk.takeIn source item = walk) ∧
    -- a container around any run of items makes no difference
    (∀ (root root' container : Node) (front run back : List Node),
      container.contents? = some run → root.namedChildren = front ++ run ++ back →
      root'.namedChildren = front ++ [container] ++ back →
        (root'.walkItems source naming).records.map FunctionRecord.prototype =
          (root.walkItems source naming).records.map FunctionRecord.prototype) ∧
    -- nor do any number of them, at any depth, even if the items have moved
    (∀ (source' : Bytes) (root root' : Node),
      Node.Rewrapped source source' root.namedChildren root'.namedChildren →
        (root'.walkItems source' naming).records.map FunctionRecord.prototype =
          (root.walkItems source naming).records.map FunctionRecord.prototype) ∧
    -- and what is put behind the items of a file leaves their records as they are
    (∀ (root : Node) (more : Bytes) (added : List Node),
      Node.AllWithin source.length root.children →
        (root.walkItems source naming).records <+:
          ({ root with children := root.children ++ added }.walkItems (source ++ more)
            naming).records) := by
  have hRewrapped : ∀ (source' : Bytes) (root root' : Node),
      Node.Rewrapped source source' root.namedChildren root'.namedChildren →
        (root'.walkItems source' naming).records.map FunctionRecord.prototype =
          (root.walkItems source naming).records.map FunctionRecord.prototype :=
    fun source' root root' h => (congrArg Outline.prototypes (h.outline_eq naming)).symm
  refine ⟨fun root => ⟨root.walkItems_eq_foldl source naming, root.map_node_fileItems⟩, ?_,
    fun walk item => Node.takeIn_of_not_declares walk,
    fun source' walk item item' hAlike hComment => hAlike.takeIn_eq hComment walk,
    fun source' type type' kind => Node.ofNode?_tag_eq_iff,
    fun walk item type => Node.takeIn_of_specifier?_eq_none walk, ?_, hRewrapped,
    fun root more added hRoot => Node.records_isPrefix_append naming hRoot more added⟩
  · intro node
    rw [Node.topLevel_eq, Node.contents?]
    cases node.kind <;> rfl
  · intro root root' container front run back hRun hRoot hRoot'
    refine hRewrapped source root root' ?_
    rw [hRoot, hRoot']
    exact .around hRun front back

/-- The definition of `T` may stand in a conditional block, and its structure may have another
body. -/
theorem Node.containers_transparent_wrapped :
    let typedef (start width : Nat) := Node.spanning .typeDefinition start (start + 18 + width) none
      [.spanning (.tagSpecifier .struct) (start + 8) (start + 16 + width) (some .type)
          [.spanning (.name .type) (start + 15) (start + 16) (some .name) [],
            .spanning (.other "field_declaration_list") (start + 16) (start + 16 + width)
              (some .body) []],
        .spanning (.name .type) (start + 16 + width) (start + 17 + width) (some .declarator) []]
    let param (start : Nat) := Node.spanning .parameterDeclaration start (start + 1) none
      [.spanning (.name .type) start (start + 1) (some .type) []]
    let list (start : Nat) := Node.spanning (.other "parameter_list") start (start + 3)
      (some .parameters) [param (start + 1)]
    let declarator (start : Nat) := Node.spanning (.functionDeclarator .naming) start (start + 4)
      (some .declarator)
      [.spanning (.name .identifier) start (start + 1) (some .declarator) [], list (start + 1)]
    let function (start : Nat) := Node.spanning .declaration start (start + 10) none
      [.spanning .primitiveType start (start + 4) (some .type) [], declarator (start + 5)]
    let condition := Node.spanning (.name .identifier) 4 5 none []
    let block := Node.spanning .conditionalBlock 0 33 none [condition, typedef 6 2]
    let file (stop : Nat) (items : List Node) :=
      Node.spanning (.other "translation_unit") 0 stop none items
    let plain := ascii "typedef struct S{int x;}T;void f(T);"
    let wrapped := ascii "#if A\ntypedef struct S{}T;\n#endif\nvoid f(T);"
    let plainRoot := file 36 [typedef 0 8, function 26]
    let wrappedRoot := file 44 [block, function 34]
    let naming : Naming := { lang := .c, aliases := {} }
    Node.Rewrapped plain wrapped plainRoot.namedChildren wrappedRoot.namedChildren ∧
      (∀ walk : Walk, walk.takeIn plain ⟨typedef 0 8, []⟩ =
        walk.takeIn wrapped ⟨typedef 6 2, [condition]⟩) ∧
      (wrappedRoot.walkItems wrapped naming).records.map FunctionRecord.prototype =
        [("f", ["void", "struct S"])] := by
  intro typedef param list declarator function condition block file plain wrapped plainRoot
    wrappedRoot naming
  obtain ⟨-, -, -, hSame, -, -, -, hRewrapped, -⟩ := Node.containers_transparent plain naming
  have hLeaf {kind : Kind} {start stop start' stop' : Nat} {field? : Option Field}
      (name? : Option String)
      (hSpelled : (Node.spanning kind start stop field? []).spelled plain = ⟨name?, none, none⟩)
      (hSpelled' : (Node.spanning kind start' stop' field? []).spelled wrapped =
        ⟨name?, none, none⟩) :
      Node.Alike plain wrapped (.spanning kind start stop field? [])
        (.spanning kind start' stop' field? []) :=
    Node.alike_spanning _ (.refl []) .nil hSpelled hSpelled' rfl rfl
  have hTypedef : Node.Alike plain wrapped (typedef 0 8) (typedef 6 2) :=
    Node.alike_spanning ⟨none, none, some (.tag .struct (some "S"))⟩ (.refl [])
      (.cons (.unread rfl rfl rfl rfl rfl rfl) (.cons (hLeaf (some "T") rfl rfl) .nil))
      rfl rfl rfl rfl
  have hParam : Node.Alike plain wrapped (param 33) (param 41) :=
    Node.alike_spanning ⟨none, none, some (.name "T")⟩ (.refl [])
      (.cons (hLeaf (some "T") rfl rfl) .nil) rfl rfl rfl rfl
  have hList : Node.Alike plain wrapped (list 32) (list 40) :=
    Node.alike_spanning ⟨none, none, none⟩ (.refl []) (.cons hParam .nil) rfl rfl rfl rfl
  have hDeclarator : Node.Alike plain wrapped (declarator 31) (declarator 39) :=
    Node.alike_spanning ⟨none, none, none⟩ (.refl [])
      (.cons (hLeaf (some "f") rfl rfl) (.cons hList .nil)) rfl rfl rfl rfl
  have hFunction : Node.Alike plain wrapped (function 26) (function 34) :=
    Node.alike_spanning ⟨none, none, some (.name "void")⟩ (.refl [])
      (.cons (hLeaf none rfl rfl) (.cons hDeclarator .nil)) rfl rfl rfl rfl
  have hBlock : Node.Rewrapped plain wrapped [typedef 0 8] [block] :=
    .wrap rfl (.append (.insert rfl rfl) (.item hTypedef))
  have hFiles : Node.Rewrapped plain wrapped plainRoot.namedChildren wrappedRoot.namedChildren :=
    .append hBlock (.item hFunction)
  let defined : Declaration := .mk (.tag .struct (some "S")) ∅ (.name ⟨.type, some "T"⟩)
  let declared : Declaration := .mk (.name "void") ∅
    (.function none [.declared (.mk (.name "T") ∅ .nothing)] (.name ⟨.identifier, some "f"⟩))
  have hDeclarations : plainRoot.fileDeclarations plain =
      [.typeName "T" defined, .value declared] := rfl
  refine ⟨hFiles, fun walk => hSame wrapped walk _ _ hTypedef rfl, ?_⟩
  rw [hRewrapped wrapped plainRoot wrappedRoot hFiles, Node.prototypes_walkItems, hDeclarations]
  decide

/-- One byte in a comment of a class body decides whether `T` is a name for the class: where it is
no text, the definition of `T` is lost. -/
theorem Node.walkItems_undecodable_body :
    let source (byte : UInt8) :=
      ascii "typedef struct S\x7b/*" ++ [byte] ++ ascii "*/\x7dT;void f(T);"
    let body := Node.spanning (.other "field_declaration_list") 16 23 (some .body)
      [.spanning .comment 17 22 none []]
    let tag := Node.spanning (.tagSpecifier .struct) 8 23 (some .type)
      [.spanning (.name .type) 15 16 (some .name) [], body]
    let typedef := Node.spanning .typeDefinition 0 25 none
      [tag, .spanning (.name .type) 23 24 (some .declarator) []]
    let function := Node.spanning .declaration 25 35 none
      [.spanning .primitiveType 25 29 (some .type) [],
        .spanning (.functionDeclarator .naming) 30 34 (some .declarator)
          [.spanning (.name .identifier) 30 31 (some .declarator) [],
            .spanning (.other "parameter_list") 31 34 (some .parameters)
              [.spanning .parameterDeclaration 32 33 none
                [.spanning (.name .type) 32 33 (some .type) []]]]]
    let root := Node.spanning (.other "translation_unit") 0 35 none [typedef, function]
    let naming : Naming := { lang := .c, aliases := {} }
    body.isBody ∧
      (root.walkItems (source 0x65) naming).records.map FunctionRecord.prototype =
        [("f", ["void", "struct S"])] ∧
      (root.walkItems (source 0xE9) naming).records.map FunctionRecord.prototype =
        [("f", ["void", "T"])] := by
  intro source body tag typedef function root naming
  let defined : Declaration := .mk (.tag .struct (some "S")) ∅ (.name ⟨.type, some "T"⟩)
  let declared : Declaration := .mk (.name "void") ∅
    (.function none [.declared (.mk (.name "T") ∅ .nothing)] (.name ⟨.identifier, some "f"⟩))
  have hText : root.fileDeclarations (source 0x65) =
      [.typeName "T" defined, .value declared] := rfl
  have hNoText : root.fileDeclarations (source 0xE9) = [.value declared] := rfl
  refine ⟨rfl, ?_, ?_⟩
  · rw [Node.prototypes_walkItems, hText]
    decide
  · rw [Node.prototypes_walkItems, hNoText]
    decide

end FunctionCatalog
