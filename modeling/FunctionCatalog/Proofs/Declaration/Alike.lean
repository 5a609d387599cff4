import FunctionCatalog.Proofs.CType.Qualified
import FunctionCatalog.Proofs.Declaration.InsideOut
import Mathlib.Data.List.Forall2

/-!
# Nodes that are read alike

Where a node stands in a source makes no difference to the declaration that it is read as, and
neither does most of its text. Nodes over two sources are alike if they have the same kinds and
fields, and if the same names, sizes, specifiers and sets of qualifiers are read from them, all the
way down. Qualifiers may stand in any order, before or behind a specifier and among other words of a
declaration, and they may be repeated. Alike nodes are read as the same declarations.

Of a tagged type no more than a specifier is read: its kind, its name, and that its bytes are text.
What else is in it makes no difference, nor does anything in the body of a function.

## Main results

* `Qualifiers.ofNodes_eq_of_mem_iff` — the order of qualifiers and their number make no difference.
* `Node.Alike.declarator_eq`, `Node.Alike.declaration_eq` — alike nodes are read as the same.
-/

namespace FunctionCatalog

/-- Whether an item of this kind declares anything. -/
def Kind.declares : Kind → Bool
  | .typeDefinition | .aliasDeclaration | .functionDefinition | .declaration => true
  | _ => false

/-! ## Sets of qualifiers -/

/-- The texts of the qualifiers among some nodes. -/
def Node.qualifierTexts (source : Bytes) (nodes : List Node) : List (Option String) :=
  (nodes.filter (·.kind == .typeQualifier)).map (·.text? source)

namespace Qualifiers

/-- The qualifier that a text names, with or without white space around it. -/
private def ofText (text? : Option String) : Qualifiers :=
  match text? with
  | some text => ofKeyword (String.ofList (trim text.toList))
  | none => ∅

private theorem ofNodes_eq_union (source : Bytes) (nodes : List Node) :
    ofNodes source nodes = union ((Node.qualifierTexts source nodes).map ofText) := by
  rw [ofNodes, union]
  generalize (∅ : Qualifiers) = quals
  induction nodes generalizing quals with
  | nil => rfl
  | cons node rest ih =>
      rw [List.foldl_cons, ih, Node.qualifierTexts, Node.qualifierTexts, List.filter_cons]
      by_cases hKind : node.kind = .typeQualifier
      · cases hText : node.text? source <;> simp [hKind, hText, ofText]
      · simp [hKind]

/-- The order of qualifiers and their number make no difference. -/
theorem ofNodes_eq_of_mem_iff {source source' : Bytes} {nodes nodes' : List Node}
    (hSame : ∀ text?, text? ∈ Node.qualifierTexts source nodes ↔
      text? ∈ Node.qualifierTexts source' nodes') :
    ofNodes source nodes = ofNodes source' nodes' := by
  rw [ofNodes_eq_union, ofNodes_eq_union]
  refine union_eq_of_mem_iff fun quals => ?_
  simp only [List.mem_map, hSame]

end Qualifiers

/-! ## Alike nodes -/

/-- What is read from the texts at a node: a declared name, the size of an array, and the specifier
of a declaration. -/
structure Node.Spelled where
  name? : Option String
  size? : Option String
  specifier? : Option Specifier

namespace Node

/-- What is read from the texts at a node. -/
def spelled (source : Bytes) (node : Node) : Spelled where
  name? :=
    match node.kind with
    | .name _ => node.text? source
    | .aliasDeclaration => (node.child? .name).bind (·.text? source)
    | _ => none
  size? :=
    match node.kind with
    | .arrayDeclarator _ => arraySize? source node.children
    | _ => none
  specifier? :=
    match node.kind, node.field? with
    -- The type that a name is to stand for is read by its own parts.
    | .aliasDeclaration, none => none
    | _, _ => (node.child? .type).bind (Specifier.ofNode? source)

/-- Whether nothing below a node is read as a part of a declaration. A tagged type is read as a
whole, as the specifier of what it stands in. -/
def isUnread (node : Node) : Bool :=
  (match node.kind with
    | .other _ | .tagSpecifier _ => true
    | _ => false) &&
    node.field? != some .parameters && (node.field? != some .type || (node.child? .type).isNone)

/-- Whether a node is a qualifier among the words of a declaration or behind a star. -/
def isQualifier (node : Node) : Bool :=
  node.kind == .typeQualifier && node.field? == none

section Alike

variable (source source' : Bytes)

mutual

/-- Two nodes, each over its own source, are read alike. -/
inductive Alike : Node → Node → Prop
  | intro {node node' : Node} (hKind : node.kind = node'.kind)
    (hNamed : node.isNamed = node'.isNamed)
    (hError : node.kind.declares → node.hasError = node'.hasError)
    (hField : node.field? = node'.field?) (hSpelled : node.spelled source = node'.spelled source')
    (hQualifiers : ∀ text?, text? ∈ qualifierTexts source node.children ↔
      text? ∈ qualifierTexts source' node'.children)
    (hChildren : AllAlike node.children node'.children) : Alike node node'
  | unread {node node' : Node} (hKind : node.kind = node'.kind)
    (hNamed : node.isNamed = node'.isNamed) (hField : node.field? = node'.field?)
    (hTag : node.isUnnamedTag = node'.isUnnamedTag) (hUnread : node.isUnread)
    (hUnread' : node'.isUnread) : Alike node node'

/-- Two lists of nodes are read alike, one by one but for the qualifiers among them. -/
inductive AllAlike : List Node → List Node → Prop
  | nil : AllAlike [] []
  | cons {node node' : Node} {rest rest' : List Node} (hNode : Alike node node')
    (hRest : AllAlike rest rest') : AllAlike (node :: rest) (node' :: rest')
  | qualifier {node : Node} {rest rest' : List Node} (hQualifier : node.isQualifier)
    (hRest : AllAlike rest rest') : AllAlike (node :: rest) rest'
  | qualifierOther {node' : Node} {rest rest' : List Node} (hQualifier : node'.isQualifier)
    (hRest : AllAlike rest rest') : AllAlike rest (node' :: rest')

end

end Alike

variable {source source' : Bytes}

/-! ## What shows in alike nodes -/

section Observations

variable {node node' : Node}

theorem Alike.kind_eq : Alike source source' node node' → node.kind = node'.kind
  | .intro hKind .. | .unread hKind .. => hKind

theorem Alike.isNamed_eq : Alike source source' node node' → node.isNamed = node'.isNamed
  | .intro _ hNamed .. | .unread _ hNamed .. => hNamed

theorem Alike.field?_eq : Alike source source' node node' → node.field? = node'.field?
  | .intro _ _ _ hField .. | .unread _ _ hField .. => hField

theorem kind_of_isUnread (hUnread : node.isUnread) :
    (∃ name, node.kind = .other name) ∨ ∃ kind, node.kind = .tagSpecifier kind := by
  simp only [isUnread, Bool.and_eq_true] at hUnread
  cases hKind : node.kind with
  | other name => exact .inl ⟨name, rfl⟩
  | tagSpecifier kind => exact .inr ⟨kind, rfl⟩
  | _ => rw [hKind] at hUnread; exact absurd hUnread.1.1 Bool.false_ne_true

private theorem field?_ne_of_isUnread (hUnread : node.isUnread) :
    node.field? ≠ some .parameters := by
  simp only [isUnread, Bool.and_eq_true, bne_iff_ne] at hUnread
  exact hUnread.1.2

private theorem child?_type_of_isUnread (hUnread : node.isUnread)
    (hField : node.field? = some .type) :
    node.child? .type = none := by
  rw [isUnread, hField, Bool.and_eq_true] at hUnread
  simpa using hUnread.2

/-- Whether a node stands at a place where a declaration may be read: as a type, as a parameter, or
as a type without a declared name. -/
def IsDeclarationPart (node : Node) : Prop :=
  node.field? = some .type ∨
    node.kind ∈ [.parameterDeclaration, .optionalParameterDeclaration, .typeDescriptor]

/-- Where a declaration may be read, a node of which nothing is read is none. -/
theorem IsDeclarationPart.ofNode?_eq_none (hPart : node.IsDeclarationPart)
    (hUnread : node.isUnread) : Declaration.ofNode? source node = none := by
  have hType : node.child? .type = none := by
    rcases hPart with hField | hKind
    · exact child?_type_of_isUnread hUnread hField
    · rcases kind_of_isUnread hUnread with ⟨_, hOther⟩ | ⟨_, hOther⟩ <;> simp [hOther] at hKind
  rw [Declaration.ofNode?_eq, hType]
  rfl

theorem specifier?_spelled (hRead : node.kind ≠ .aliasDeclaration ∨ node.field? ≠ none) :
    (node.spelled source).specifier? = (node.child? .type).bind (Specifier.ofNode? source) := by
  obtain ⟨kind, _, _, _, _, field?, _⟩ := node
  cases kind with
  | aliasDeclaration =>
      cases field? with
      | none => exact absurd rfl (hRead.resolve_left (absurd rfl))
      | some _ => rfl
  | _ => rfl

theorem IsDeclarationPart.specifier?_spelled (hPart : node.IsDeclarationPart) :
    (node.spelled source).specifier? = (node.child? .type).bind (Specifier.ofNode? source) := by
  refine Node.specifier?_spelled ?_
  rcases hPart with hField | hKind
  · exact .inr (by rw [hField]; exact Option.some_ne_none _)
  · exact .inl fun hAlias => by simp [hAlias] at hKind

theorem isQualifier_iff : node.isQualifier ↔ node.kind = .typeQualifier ∧ node.field? = none := by
  rw [isQualifier, Bool.and_eq_true, beq_iff_eq, beq_iff_eq]

end Observations

/-- Two tests that say the same of alike nodes, and do not pick qualifiers. -/
structure SameTest (source source' : Bytes) (test test' : Node → Bool) : Prop where
  skips : ∀ node, node.isQualifier → test node = false
  skips' : ∀ node, node.isQualifier → test' node = false
  eq : ∀ node node', Alike source source' node node' → test node = test' node'

theorem sameTest_field (field : Field) :
    SameTest source source' (·.field? == some field) (·.field? == some field) where
  skips node hQualifier := by rw [(isQualifier_iff.1 hQualifier).2]; rfl
  skips' node hQualifier := by rw [(isQualifier_iff.1 hQualifier).2]; rfl
  eq node node' hNode := by rw [hNode.field?_eq]

private theorem sameTest_kind (kind : Kind) (hKind : kind ≠ .typeQualifier) :
    SameTest source source' (·.kind == kind) (·.kind == kind) where
  skips node hQualifier := by
    rw [(isQualifier_iff.1 hQualifier).1, beq_eq_false_iff_ne]
    exact hKind.symm
  skips' node hQualifier := by
    rw [(isQualifier_iff.1 hQualifier).1, beq_eq_false_iff_ne]
    exact hKind.symm
  eq node node' hNode := by rw [hNode.kind_eq]

private theorem sameTest_mayDeclare : SameTest source source' mayDeclare mayDeclare where
  skips node hQualifier := by rw [mayDeclare, (isQualifier_iff.1 hQualifier).1, Bool.and_false]
  skips' node hQualifier := by rw [mayDeclare, (isQualifier_iff.1 hQualifier).1, Bool.and_false]
  eq node node' hNode := by rw [mayDeclare, mayDeclare, hNode.isNamed_eq, hNode.kind_eq]

private theorem SameTest.ite {chosen chosen' : Bool} (hChosen : chosen = chosen')
    {test test' other other' : Node → Bool} (hTest : SameTest source source' test test')
    (hOther : SameTest source source' other other') :
    SameTest source source' (fun node => if chosen then test node else other node)
      (fun node => if chosen' then test' node else other' node) := by
  subst hChosen
  cases chosen with
  | true => exact hTest
  | false => exact hOther

theorem AllAlike.any_eq {test test' : Node → Bool}
    (hTest : SameTest source source' test test') :
    ∀ {nodes nodes' : List Node}, AllAlike source source' nodes nodes' →
      nodes.any test = nodes'.any test'
  | _, _, .nil => rfl
  | _, _, .cons hNode hRest => by
      rw [List.any_cons, List.any_cons, hTest.eq _ _ hNode, hRest.any_eq hTest]
  | _, _, .qualifier hQualifier hRest => by
      rw [List.any_cons, hTest.skips _ hQualifier, hRest.any_eq hTest, Bool.false_or]
  | _, _, .qualifierOther hQualifier hRest => by
      rw [List.any_cons, hTest.skips' _ hQualifier, hRest.any_eq hTest, Bool.false_or]

/-- The nodes that a test picks correspond one to one. -/
theorem AllAlike.filter {test test' : Node → Bool}
    (hTest : SameTest source source' test test') :
    ∀ {nodes nodes' : List Node}, AllAlike source source' nodes nodes' →
      List.Forall₂ (Alike source source') (nodes.filter test) (nodes'.filter test')
  | _, _, .nil => .nil
  | node :: _, _, .cons hNode hRest => by
      have hRest' := hRest.filter hTest
      rw [List.filter_cons, List.filter_cons, ← hTest.eq _ _ hNode]
      cases test node with
      | true => exact .cons hNode hRest'
      | false => exact hRest'
  | _, _, .qualifier hQualifier hRest => by
      rw [List.filter_cons_of_neg (by rw [hTest.skips _ hQualifier]; exact Bool.false_ne_true)]
      exact hRest.filter hTest
  | _, _, .qualifierOther hQualifier hRest => by
      rw [List.filter_cons_of_neg (by rw [hTest.skips' _ hQualifier]; exact Bool.false_ne_true)]
      exact hRest.filter hTest

private theorem sameTest_isInside {children children' : List Node}
    (hChildren : AllAlike source source' children children') :
    SameTest source source' (isInside children) (isInside children') :=
  .ite (hChildren.any_eq (sameTest_field .declarator)) (sameTest_field .declarator)
    sameTest_mayDeclare

/-! ## Declarators and declarations -/

/-- A list of parameters with a qualifier among them is refused. -/
theorem ofNodes?_eq_none_of_qualifier {nodes : List Node} {node : Node} (hMem : node ∈ nodes)
    (hKind : node.kind = .typeQualifier) : Parameter.ofNodes? source nodes = none := by
  induction nodes with
  | nil => exact absurd hMem List.not_mem_nil
  | cons first rest ih =>
      rcases List.mem_cons.1 hMem with rfl | hMem
      · rw [Parameter.ofNodes?, hKind]
      · rw [Parameter.ofNodes?, ih hMem]
        split <;> simp

private theorem mem_qualifierTexts {nodes : List Node} {node : Node} (hMem : node ∈ nodes)
    (hKind : node.kind = .typeQualifier) : node.text? source ∈ qualifierTexts source nodes :=
  List.mem_map_of_mem (List.mem_filter.2 ⟨hMem, beq_iff_eq.2 hKind⟩)

private theorem exists_qualifier_of_mem {nodes : List Node} {text? : Option String}
    (hMem : text? ∈ qualifierTexts source nodes) :
    ∃ node ∈ nodes, node.kind = .typeQualifier := by
  obtain ⟨node, hNode, -⟩ := List.mem_map.1 hMem
  obtain ⟨hNode, hKind⟩ := List.mem_filter.1 hNode
  exact ⟨node, hNode, beq_iff_eq.1 hKind⟩

mutual

/-- Alike nodes are read as the same declarator. -/
theorem Alike.declarator_eq : ∀ {node node' : Node}, Alike source source' node node' →
    Declarator.ofNode? source node = Declarator.ofNode? source' node'
  | ⟨kind, _, _, _, _, _, children⟩, ⟨_, _, _, _, _, _, children'⟩,
    .intro hKind _ _ _ hSpelled hQualifiers hChildren => by
      simp only at hKind hQualifiers hChildren
      subst hKind
      have hField : Declarator.among? source isInDeclaratorField children =
          Declarator.among? source' isInDeclaratorField children' :=
        hChildren.among?_eq (sameTest_field .declarator)
      have hInside := hChildren.among?_eq (sameTest_isInside hChildren)
      -- What is left of the text of a node shows for its kind only.
      cases kind with
      | name kind =>
          have hName : _ = _ := congrArg Spelled.name? hSpelled
          exact congrArg (fun text? => some (Declarator.name ⟨kind, text?⟩)) hName
      | arrayDeclarator =>
          have hSize : arraySize? source children = arraySize? source' children' :=
            congrArg Spelled.size? hSpelled
          simp only [Declarator.ofNode?, hSize, hField]
      | pointerDeclarator =>
          simp only [Declarator.ofNode?, Qualifiers.ofNodes_eq_of_mem_iff hQualifiers, hField]
      | referenceDeclarator =>
          simp only [Declarator.ofNode?, hChildren.any_eq (sameTest_kind .doubleAmpersand nofun),
            hInside]
      | functionDeclarator =>
          simp only [Declarator.ofNode?, hChildren.trailing?_eq, hChildren.list?_eq, hField]
      | parenthesizedDeclarator | attributedDeclarator | initDeclarator =>
          simp only [Declarator.ofNode?, hInside]
      | _ => rfl
  | ⟨_, _, _, _, _, _, _⟩, ⟨_, _, _, _, _, _, _⟩, .unread hKind _ _ _ hUnread _ => by
      simp only at hKind
      subst hKind
      rcases kind_of_isUnread hUnread with ⟨_, rfl⟩ | ⟨_, rfl⟩ <;> rfl

theorem AllAlike.among?_eq {accept accept' : Node → Bool}
    (hAccept : SameTest source source' accept accept') :
    ∀ {nodes nodes' : List Node}, AllAlike source source' nodes nodes' →
      Declarator.among? source accept nodes = Declarator.among? source' accept' nodes'
  | _, _, .nil => rfl
  | _, _, .cons hNode hRest => by
      rw [Declarator.among?, Declarator.among?, hAccept.eq _ _ hNode, hNode.declarator_eq,
        hRest.among?_eq hAccept]
  | _, _, .qualifier hQualifier hRest => by
      rw [Declarator.among?, hAccept.skips _ hQualifier, ← hRest.among?_eq hAccept]
      rfl
  | _, _, .qualifierOther hQualifier hRest => by
      rw [hRest.among?_eq hAccept, Declarator.among?, hAccept.skips' _ hQualifier]
      rfl

theorem AllAlike.trailing?_eq : ∀ {nodes nodes' : List Node},
    AllAlike source source' nodes nodes' →
      Declaration.trailing? source nodes = Declaration.trailing? source' nodes'
  | _, _, .nil => rfl
  | ⟨_, _, _, _, _, _, parts⟩ :: _, ⟨_, _, _, _, _, _, parts'⟩ :: _,
    .cons (.intro hKind _ _ _ _ _ hParts) hRest => by
      simp only at hKind hParts
      rw [Declaration.trailing?, Declaration.trailing?, hKind, hParts.firstDescriptor?_eq,
        hRest.trailing?_eq]
  | ⟨_, _, _, _, _, _, _⟩ :: _, ⟨_, _, _, _, _, _, _⟩ :: _,
    .cons (.unread hKind _ _ _ hUnread _) hRest => by
      simp only at hKind
      subst hKind
      rcases kind_of_isUnread hUnread with ⟨_, rfl⟩ | ⟨_, rfl⟩ <;> exact hRest.trailing?_eq
  | ⟨_, _, _, _, _, _, _⟩ :: _, _, .qualifier hQualifier hRest => by
      have hKind := (isQualifier_iff.1 hQualifier).1
      simp only at hKind
      subst hKind
      exact hRest.trailing?_eq
  | _, ⟨_, _, _, _, _, _, _⟩ :: _, .qualifierOther hQualifier hRest => by
      have hKind := (isQualifier_iff.1 hQualifier).1
      simp only at hKind
      subst hKind
      exact hRest.trailing?_eq

theorem AllAlike.firstDescriptor?_eq : ∀ {nodes nodes' : List Node},
    AllAlike source source' nodes nodes' →
      Declaration.firstDescriptor? source nodes = Declaration.firstDescriptor? source' nodes'
  | _, _, .nil => rfl
  | node :: _, _ :: _, .cons hNode hRest => by
      rw [Declaration.firstDescriptor?, Declaration.firstDescriptor?, ← hNode.isNamed_eq,
        ← hNode.kind_eq, hRest.firstDescriptor?_eq]
      by_cases hDescriptor : node.kind = .typeDescriptor
      · rw [hNode.declaration_eq (.inr (by simp [hDescriptor]))]
      · rw [if_neg (by simp [hDescriptor]), if_neg (by simp [hDescriptor])]
  | _, _, .qualifier hQualifier hRest => by
      rw [Declaration.firstDescriptor?, (isQualifier_iff.1 hQualifier).1,
        ← hRest.firstDescriptor?_eq]
      simp
  | _, _, .qualifierOther hQualifier hRest => by
      rw [hRest.firstDescriptor?_eq, Declaration.firstDescriptor?, (isQualifier_iff.1 hQualifier).1]
      simp

theorem AllAlike.list?_eq : ∀ {nodes nodes' : List Node},
    AllAlike source source' nodes nodes' →
      Parameter.list? source nodes = Parameter.list? source' nodes'
  | _, _, .nil => rfl
  | ⟨_, _, _, _, _, field?, entries⟩ :: _, ⟨_, _, _, _, _, _, entries'⟩ :: _,
    .cons (.intro _ _ _ hField _ hQualifiers hEntries) hRest => by
      simp only at hField hQualifiers hEntries
      have hParams : Parameter.ofNodes? source entries = Parameter.ofNodes? source' entries' := by
        by_cases hSome : ∃ node ∈ entries, node.kind = .typeQualifier
        · obtain ⟨node, hMem, hKind⟩ := hSome
          obtain ⟨node', hMem', hKind'⟩ := exists_qualifier_of_mem
            ((hQualifiers _).1 (mem_qualifierTexts hMem hKind))
          rw [ofNodes?_eq_none_of_qualifier hMem hKind, ofNodes?_eq_none_of_qualifier hMem' hKind']
        · exact hEntries.entries_eq
            (fun node hMem hKind => hSome ⟨node, hMem, hKind⟩)
            (fun node hMem hKind => hSome (exists_qualifier_of_mem
              ((hQualifiers _).2 (mem_qualifierTexts hMem hKind))))
      rw [Parameter.list?, Parameter.list?, hField, hParams, hRest.list?_eq]
  | ⟨_, _, _, _, _, _, _⟩ :: _, ⟨_, _, _, _, _, _, _⟩ :: _,
    .cons (.unread _ _ hField _ hUnread _) hRest => by
      have hNot := field?_ne_of_isUnread hUnread
      simp only at hField hNot
      subst hField
      rw [Parameter.list?, Parameter.list?, beq_eq_false_iff_ne.2 hNot]
      exact hRest.list?_eq
  | ⟨_, _, _, _, _, _, _⟩ :: _, _, .qualifier hQualifier hRest => by
      have hField := (isQualifier_iff.1 hQualifier).2
      simp only at hField
      subst hField
      exact hRest.list?_eq
  | _, ⟨_, _, _, _, _, _, _⟩ :: _, .qualifierOther hQualifier hRest => by
      have hField := (isQualifier_iff.1 hQualifier).2
      simp only at hField
      subst hField
      exact hRest.list?_eq

private theorem AllAlike.entries_eq : ∀ {nodes nodes' : List Node},
    AllAlike source source' nodes nodes' → (∀ node ∈ nodes, node.kind ≠ .typeQualifier) →
      (∀ node ∈ nodes', node.kind ≠ .typeQualifier) →
        Parameter.ofNodes? source nodes = Parameter.ofNodes? source' nodes'
  | _, _, .nil, _, _ => rfl
  | node :: _, _ :: _, .cons hNode hRest, hNone, hNone' => by
      have hRest' := hRest.entries_eq (List.forall_mem_cons.1 hNone).2
        (List.forall_mem_cons.1 hNone').2
      rw [Parameter.ofNodes?, Parameter.ofNodes?, ← hNode.kind_eq, hRest']
      cases hKind : node.kind with
      | parameterDeclaration => rw [hNode.declaration_eq (.inr (by simp [hKind]))]
      | optionalParameterDeclaration => rw [hNode.declaration_eq (.inr (by simp [hKind]))]
      | _ => rfl
  | node :: _, _, .qualifier hQualifier _, hNone, _ =>
    absurd (isQualifier_iff.1 hQualifier).1 (hNone node List.mem_cons_self)
  | _, node' :: _, .qualifierOther hQualifier _, _, hNone' =>
    absurd (isQualifier_iff.1 hQualifier).1 (hNone' node' List.mem_cons_self)

/-- Alike nodes are read as the same declaration. -/
theorem Alike.declaration_eq : ∀ {node node' : Node}, node.IsDeclarationPart →
    Alike source source' node node' →
      Declaration.ofNode? source node = Declaration.ofNode? source' node'
  | node, node', hPart, .intro hKind _ _ hField hSpelled hQualifiers hChildren => by
      have hPart' : node'.IsDeclarationPart := by
        rwa [IsDeclarationPart, hKind, hField] at hPart
      have hSpecifier := congrArg Spelled.specifier? hSpelled
      rw [hPart.specifier?_spelled, hPart'.specifier?_spelled] at hSpecifier
      have hDeclarator := hChildren.among?_eq (sameTest_field .declarator)
      rw [Declarator.among?_eq, Declarator.among?_eq] at hDeclarator
      simp only [Declaration.ofNode?_eq, child?, Option.bind_eq_bind] at hSpecifier ⊢
      rw [← Option.bind_assoc, ← Option.bind_assoc, hSpecifier, hDeclarator,
        Qualifiers.ofNodes_eq_of_mem_iff hQualifiers]
  | node, node', hPart, .unread hKind _ hField _ hUnread hUnread' => by
      have hPart' : node'.IsDeclarationPart := by
        rwa [IsDeclarationPart, hKind, hField] at hPart
      rw [hPart.ofNode?_eq_none hUnread, hPart'.ofNode?_eq_none hUnread']

end

/-! ## Children with a field -/

/-- What is read from the first children with a field is the same if the children with the field
correspond. -/
theorem child?_bind_eq {α : Type} {R : Node → Node → Prop} {node node' : Node} {field : Field}
    (hPicked : List.Forall₂ R (node.childrenWith field) (node'.childrenWith field))
    {read read' : Node → Option α}
    (hSame : ∀ child child', child.field? = some field → R child child' →
      read child = read' child') :
    (node.child? field).bind read = (node'.child? field).bind read' := by
  have hField : ∀ child ∈ node.childrenWith field, child.field? = some field :=
    fun child hMem => beq_iff_eq.1 (List.mem_filter.1 hMem).2
  rw [child?, child?, ← List.head?_filter, ← List.head?_filter]
  simp only [childrenWith] at hPicked hField
  generalize node.children.filter (·.field? == some field) = picked at hPicked hField ⊢
  generalize node'.children.filter (·.field? == some field) = picked' at hPicked ⊢
  cases hPicked with
  | nil => rfl
  | cons hFirst _ => exact hSame _ _ (hField _ List.mem_cons_self) hFirst

mutual

theorem Alike.refl (source : Bytes) : ∀ node : Node, Alike source source node node
  | ⟨_, _, _, _, _, _, children⟩ =>
    .intro rfl rfl (fun _ => rfl) rfl rfl (fun _ => Iff.rfl) (AllAlike.refl source children)

theorem AllAlike.refl (source : Bytes) : ∀ nodes : List Node, AllAlike source source nodes nodes
  | [] => .nil
  | node :: rest => .cons (Alike.refl source node) (AllAlike.refl source rest)

end

end Node

end FunctionCatalog
