import FunctionCatalog.Proofs.CType.Parts
import FunctionCatalog.Proofs.Declaration.Exhaustive

/-!
# What every step of building a type keeps

A type is built of a specified type by the operators of a declarator, and the parameters and
trailing return types in it are built in the same way. A property that holds everywhere in the
specified types, and of each operator's result, therefore holds everywhere in all that is read
(`Sustained`). The property of types may rest on a property of nodes that goes down to the
children.

## Main results

* `Sustained.declares` — a chain of operators keeps the property.
* `Sustained.applied` — so does a declarator that is read.
* `Sustained.declaration` — the type of a declaration that is read has it everywhere.
-/

namespace FunctionCatalog

open CType

/-! ## Parts of a node are children -/

theorem Node.mem_children_of_child? {node child : Node} {field : Field}
    (hChild : node.child? field = some child) : child ∈ node.children :=
  List.mem_of_find?_eq_some hChild

private theorem Node.mem_children_of_innerDeclarator {node inner : Node}
    (hInner : node.innerDeclarator = some inner) : inner ∈ node.children := by
  rw [← find?_isInside] at hInner
  exact List.mem_of_find?_eq_some hInner

/-- Every step that builds a type from good nodes keeps a property of its parts. -/
structure Sustained (source : Bytes) (naming : Naming) (Good : Node → Prop) (P : CType → Prop) :
    Prop where
  children : ∀ node, Good node → ∀ child ∈ node.children, Good child
  specified : ∀ node t, Good node → node.specifiedType? source naming = some t → Everywhere P t
  pointer : ∀ t quals, P (.pointer t quals)
  reference : ∀ t rvalue, P (.reference t rvalue)
  array : ∀ node t, Good node → P (.array t (arraySize? source node.children))
  function : ∀ list params result, Good list → Lists source naming list.children params →
    params.isContradictory = false →
      P (.function result params.types params.isVariadic (params.isPrototype naming.lang))

namespace Sustained

variable {source : Bytes} {naming : Naming} {Good : Node → Prop} {P : CType → Prop}

section Nodes

variable (h : Sustained source naming Good P) {node : Node}

include h

theorem child {field : Field} (hGood : Good node) : ∀ child ∈ node.child? field, Good child :=
  fun child hChild => h.children node hGood child (Node.mem_children_of_child? hChild)

theorem innerDeclarator (hGood : Good node) : ∀ inner ∈ node.innerDeclarator, Good inner :=
  fun inner hInner => h.children node hGood inner (Node.mem_children_of_innerDeclarator hInner)

end Nodes

/-! ## Chains of operators -/

private theorem everywhere_getD {result : Option CType} {t : CType}
    (hResult : ∀ r ∈ result, Everywhere P r) (hBase : Everywhere P t) :
    Everywhere P (result.getD t) := by
  cases result with
  | none => exact hBase
  | some r => exact hResult r rfl

mutual

/-- A chain of operators keeps the property, from the base type on. -/
theorem declares (h : Sustained source naming Good P) : ∀ {node : Node}
    {chain : List DeclaratorOperator} {name? : Option Node},
    Declares source naming node chain name? → Good node → ∀ {t : CType}, Everywhere P t →
      Everywhere P (declaredType t chain)
  | _, _, _, .name _, _, _, hBase => hBase
  | _, _, _, .pointer _ hInner, hGood, _, hBase => by
      rw [declaredType_concat]
      exact h.holds hInner (h.child hGood) (everywhere_pointer_iff.mpr ⟨h.pointer _ _, hBase⟩)
  | _, _, _, .reference _ hInner, hGood, _, hBase => by
      rw [declaredType_concat]
      exact h.holds hInner (h.innerDeclarator hGood)
        (everywhere_reference_iff.mpr ⟨h.reference _ _, hBase⟩)
  | _, _, _, .array _ hInner, hGood, _, hBase => by
      rw [declaredType_concat]
      exact h.holds hInner (h.child hGood)
        (everywhere_array_iff.mpr ⟨h.array _ _ hGood, hBase⟩)
  | node, _, _, .function _ hTrailing hList hParams hConsistent hInner, hGood, _, hBase => by
      rw [declaredType_concat]
      have hGoodList := h.child hGood _ hList
      have hEntries := h.lists hParams (h.children _ hGoodList)
      have hResult := everywhere_getD (h.returns hTrailing (h.children node hGood)) hBase
      exact h.holds hInner (h.child hGood) (everywhere_function_iff.mpr
        ⟨h.function _ _ _ hGoodList hParams hConsistent, hResult, hEntries⟩)
  | _, _, _, .grouped _ hInner, hGood, _, hBase => h.holds hInner (h.innerDeclarator hGood) hBase

private theorem holds (h : Sustained source naming Good P) : ∀ {place : Option Node}
    {chain : List DeclaratorOperator} {name? : Option Node},
    Holds source naming place chain name? → (∀ node ∈ place, Good node) → ∀ {t : CType},
      Everywhere P t → Everywhere P (declaredType t chain)
  | _, _, _, .nothing, _, _, hBase => hBase
  | _, _, _, .declarator hDeclares, hGood, _, hBase => h.declares hDeclares (hGood _ rfl) hBase

/-- A node with a specifier and a declarator has a type with the property. -/
theorem hasType (h : Sustained source naming Good P) : ∀ {node : Node} {t : CType},
    HasType source naming node t → Good node → Everywhere P t
  | node, _, .intro hBase hInner, hGood =>
      h.holds hInner (h.child hGood) (h.specified node _ hGood hBase)

private theorem returns (h : Sustained source naming Good P) : ∀ {children : List Node}
    {result : Option CType}, Returns source naming children result →
      (∀ child ∈ children, Good child) → ∀ t ∈ result, Everywhere P t
  | _, _, .nothing _, _ => by simp
  | _, _, .unspecified _ _, _ => by simp
  | _, _, .type hTrailing hDescriptor hType, hGood => by
      rintro t ⟨⟩
      have hGoodTrailing := hGood _ (List.mem_of_find?_eq_some hTrailing)
      have hGoodDescriptor := h.children _ hGoodTrailing _ (List.mem_of_find?_eq_some hDescriptor)
      exact h.hasType hType hGoodDescriptor

/-- The types in a parameter list have the property. -/
theorem lists (h : Sustained source naming Good P) : ∀ {nodes : List Node}
    {params : ParameterTypes}, Lists source naming nodes params → (∀ node ∈ nodes, Good node) →
      ∀ t ∈ params.types, Everywhere P t
  | _, _, .nil, _ => by simp
  | _, _, .punctuation _ hRest, hGood => h.lists hRest (List.forall_mem_cons.mp hGood).2
  | _, _, .ellipsis _ hRest, hGood => by
      have hTypes := h.lists hRest (List.forall_mem_cons.mp hGood).2
      exact hTypes
  | _, _, .void _ _ _ hRest, hGood => by
      have hTypes := h.lists hRest (List.forall_mem_cons.mp hGood).2
      exact hTypes
  | _, _, .parameter _ hType _ hRest, hGood => by
      obtain ⟨hGoodFirst, hGoodRest⟩ := List.forall_mem_cons.mp hGood
      exact List.forall_mem_cons.mpr
        ⟨(h.hasType hType hGoodFirst).adjustedParameter h.pointer, h.lists hRest hGoodRest⟩

end

/-! ## Names -/

mutual

/-- The name inside a good declarator is good. -/
theorem declaredName (h : Sustained source naming Good P) : ∀ {node : Node}
    {chain : List DeclaratorOperator} {name? : Option Node},
    Declares source naming node chain name? → Good node → ∀ name ∈ name?, Good name
  | _, _, _, .name _, hGood => by simpa using hGood
  | _, _, _, .pointer _ hInner, hGood => h.heldName hInner (h.child hGood)
  | _, _, _, .reference _ hInner, hGood => h.heldName hInner (h.innerDeclarator hGood)
  | _, _, _, .array _ hInner, hGood => h.heldName hInner (h.child hGood)
  | _, _, _, .function _ _ _ _ _ hInner, hGood => h.heldName hInner (h.child hGood)
  | _, _, _, .grouped _ hInner, hGood => h.heldName hInner (h.innerDeclarator hGood)

private theorem heldName (h : Sustained source naming Good P) : ∀ {place : Option Node}
    {chain : List DeclaratorOperator} {name? : Option Node},
    Holds source naming place chain name? → (∀ node ∈ place, Good node) → ∀ name ∈ name?, Good name
  | _, _, _, .nothing, _ => by simp
  | _, _, _, .declarator hDeclares, hGood => h.declaredName hDeclares (hGood _ rfl)

end

/-! ## What is read -/

variable (h : Sustained source naming Good P)

include h

/-- A declarator that is read from good nodes keeps the property. -/
theorem applied {place : Option Node} {declarator : Declarator} {t t' : CType}
    (hGood : ∀ node ∈ place, Good node) (hRead : Declarator.at? source place = some declarator)
    (hBase : Everywhere P t) (hApply : declarator.applied? naming t = some t') :
    Everywhere P t' := by
  obtain ⟨chain, name?, hHolds⟩ := holds_of_read hRead hApply
  obtain ⟨other, hOther, -, hMeans⟩ := hHolds.read
  obtain rfl : declarator = other := Option.some.inj (hRead.symm.trans hOther)
  rw [hMeans.applied?_eq, Option.some.injEq] at hApply
  rw [← hApply]
  exact h.holds hHolds hGood hBase

/-- A declaration that is read from a good node has a type with the property. -/
theorem declaration {node : Node} {declaration : Declaration} {t : CType} (hGood : Good node)
    (hRead : Declaration.ofNode? source node = some declaration)
    (hType : declaration.type? naming = some t) : Everywhere P t :=
  h.hasType (hasType_of_read hRead hType) hGood

end Sustained

end FunctionCatalog
