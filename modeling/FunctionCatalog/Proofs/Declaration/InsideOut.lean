import FunctionCatalog.Proofs.Declaration.Operators

/-!
# Declarators are read inside out

Reading a declarator and applying it goes from the outside in: each operator is applied to what the
operators outside of it have made. What comes out is the type in which the operator nearest the name
is outermost, for a chain of any length, with parameter lists and trailing return types that are
declared in the same way.

## Main results

* `Declares.read` — a chain of operators around a name is read as that name and the declared type.
* `Lists.read` — a parameter list is read as the adjusted types of its parameters.
-/

namespace FunctionCatalog

variable {source : Bytes} {naming : Naming}

/-! ## Finding the parts of a node -/

/-- The declarator that stands at a place, if any. -/
def Declarator.at? (source : Bytes) : Option Node → Option Declarator
  | none => some .nothing
  | some node => Declarator.ofNode? source node

theorem Declarator.among?_eq (accept : Node → Bool) (nodes : List Node) :
    Declarator.among? source accept nodes = Declarator.at? source (nodes.find? accept) := by
  induction nodes with
  | nil => rfl
  | cons node rest ih =>
      rw [Declarator.among?, List.find?_cons]
      cases accept node with
      | true => rfl
      | false => exact ih

theorem Parameter.list?_eq (nodes : List Node) :
    Parameter.list? source nodes =
      (nodes.find? (·.field? == some .parameters)).bind
        fun list => Parameter.ofNodes? source list.children := by
  induction nodes with
  | nil => rfl
  | cons node rest ih =>
      obtain ⟨kind, start, stop, isNamed, hasError, field?, entries⟩ := node
      rw [Parameter.list?, List.find?_cons]
      cases field? == some .parameters with
      | true => rfl
      | false => exact ih

theorem Declaration.firstDescriptor?_eq (parts : List Node) :
    Declaration.firstDescriptor? source parts =
      match parts.find? (fun part => part.isNamed && part.kind == .typeDescriptor) with
      | none => some none
      | some descriptor => (Declaration.ofNode? source descriptor).map some := by
  induction parts with
  | nil => rfl
  | cons part rest ih =>
      rw [Declaration.firstDescriptor?, List.find?_cons]
      cases part.isNamed && part.kind == .typeDescriptor with
      | true => rfl
      | false => exact ih

theorem Declaration.trailing?_eq (nodes : List Node) :
    Declaration.trailing? source nodes =
      match nodes.find? (·.kind == .trailingReturnType) with
      | none => some none
      | some trailing => Declaration.firstDescriptor? source trailing.children := by
  induction nodes with
  | nil => rfl
  | cons node rest ih =>
      obtain ⟨kind, start, stop, isNamed, hasError, field?, parts⟩ := node
      rw [Declaration.trailing?, List.find?_cons]
      cases kind == .trailingReturnType with
      | true => rfl
      | false => exact ih

theorem find?_isInside (node : Node) :
    node.children.find? (Node.isInside node.children) = node.innerDeclarator := by
  unfold Node.innerDeclarator Node.child?
  cases hField : node.children.any Node.isInDeclaratorField with
  | true =>
      have hInside : Node.isInside node.children = Node.isInDeclaratorField := by
        funext child
        simp [Node.isInside, hField]
      obtain ⟨child, hMem, hChild⟩ := List.any_eq_true.mp hField
      obtain ⟨first, hFirst⟩ := Option.isSome_iff_exists.mp
        (List.find?_isSome.mpr ⟨child, hMem, hChild⟩)
      rw [hInside, hFirst]
      change _ = Option.or (node.children.find? Node.isInDeclaratorField) _
      rw [hFirst]
      rfl
  | false =>
      have hInside : Node.isInside node.children = Node.mayDeclare := by
        funext child
        simp [Node.isInside, hField]
      have hNone : node.children.find? Node.isInDeclaratorField = none := by
        rw [List.find?_eq_none]
        intro child hMem hChild
        have hAny : node.children.any Node.isInDeclaratorField = true :=
          List.any_eq_true.mpr ⟨child, hMem, hChild⟩
        simp [hField] at hAny
      rw [hInside]
      change _ = Option.or (node.children.find? Node.isInDeclaratorField) _
      rw [hNone]
      rfl

/-! ## One operator -/

section Operator

variable {node : Node}

theorem Declarator.ofNode?_name {kind : NameKind} (hKind : node.kind = .name kind) :
    Declarator.ofNode? source node = some (.name ⟨kind, node.text? source⟩) := by
  obtain ⟨_, start, stop, isNamed, hasError, field?, children⟩ := node
  subst hKind
  rw [Declarator.ofNode?]

theorem Declarator.ofNode?_pointer {form : DeclaratorForm}
    (hKind : node.kind = .pointerDeclarator form) :
    Declarator.ofNode? source node =
      (Declarator.at? source (node.child? .declarator)).map
        (.pointer (Qualifiers.ofNodes source node.children)) := by
  obtain ⟨_, start, stop, isNamed, hasError, field?, children⟩ := node
  subst hKind
  rw [Declarator.ofNode?, Declarator.among?_eq]
  rfl

theorem Declarator.ofNode?_reference {form : DeclaratorForm}
    (hKind : node.kind = .referenceDeclarator form) :
    Declarator.ofNode? source node =
      (Declarator.at? source node.innerDeclarator).map
        (.reference (node.children.any (·.kind == .doubleAmpersand))) := by
  rw [← find?_isInside]
  obtain ⟨_, start, stop, isNamed, hasError, field?, children⟩ := node
  subst hKind
  rw [Declarator.ofNode?, Declarator.among?_eq]

theorem Declarator.ofNode?_array {form : DeclaratorForm}
    (hKind : node.kind = .arrayDeclarator form) :
    Declarator.ofNode? source node =
      (Declarator.at? source (node.child? .declarator)).map
        (.array (arraySize? source node.children)) := by
  obtain ⟨_, start, stop, isNamed, hasError, field?, children⟩ := node
  subst hKind
  rw [Declarator.ofNode?, Declarator.among?_eq]
  rfl

theorem Declarator.ofNode?_function {form : DeclaratorForm}
    (hKind : node.kind = .functionDeclarator form) :
    Declarator.ofNode? source node =
      (do
        let trailing ← Declaration.trailing? source node.children
        let params ← (node.child? .parameters).bind
          fun list => Parameter.ofNodes? source list.children
        let inner ← Declarator.at? source (node.child? .declarator)
        some (.function trailing params inner)) := by
  obtain ⟨_, start, stop, isNamed, hasError, field?, children⟩ := node
  subst hKind
  rw [Declarator.ofNode?, Declarator.among?_eq, Parameter.list?_eq]
  rfl

theorem Declarator.ofNode?_grouped
    (hKind : (∃ form, node.kind = .parenthesizedDeclarator form) ∨
      node.kind = .attributedDeclarator ∨ node.kind = .initDeclarator) :
    Declarator.ofNode? source node =
      (Declarator.at? source node.innerDeclarator).map .grouped := by
  rw [← find?_isInside]
  obtain ⟨kind, start, stop, isNamed, hasError, field?, children⟩ := node
  rcases hKind with ⟨form, hKind⟩ | hKind | hKind <;> subst hKind <;>
    rw [Declarator.ofNode?, Declarator.among?_eq]

theorem Declaration.ofNode?_eq :
    Declaration.ofNode? source node =
      (do
        let type ← node.child? .type
        let specifier ← Specifier.ofNode? source type
        let declarator ← Declarator.at? source (node.child? .declarator)
        some (.mk specifier (Qualifiers.ofNodes source node.children) declarator)) := by
  obtain ⟨kind, start, stop, isNamed, hasError, field?, children⟩ := node
  rw [Declaration.ofNode?, Declarator.among?_eq]
  rfl

end Operator

/-! ## Chains of operators -/

/-- The declared name that a node is. -/
def Node.declaredName? (source : Bytes) (node : Node) : Option DeclaredName :=
  match node.kind with
  | .name kind => some ⟨kind, node.text? source⟩
  | _ => none

/-- What a declarator with a chain of operators around a name comes to. -/
structure Declarator.Means (naming : Naming) (declarator : Declarator)
    (chain : List DeclaratorOperator) (name? : Option DeclaredName) : Prop where
  /-- The name inside is this one. -/
  name?_eq : declarator.name? = name?
  /-- Whatever type is specified, the chain makes the type of the name. -/
  applied?_eq : ∀ t, declarator.applied? naming t = some (declaredType t chain)

namespace Declarator.Means

variable {inner : Declarator} {chain : List DeclaratorOperator} {name? : Option DeclaredName}

/-- An operator outside of a chain comes to stand at its end. -/
theorem outer (hInner : inner.Means naming chain name?) {declarator : Declarator}
    {operator : DeclaratorOperator} (hName : declarator.name? = inner.name?)
    (hApply : ∀ t, declarator.applied? naming t = inner.applied? naming (operator.applied t)) :
    declarator.Means naming (chain ++ [operator]) name? where
  name?_eq := hName.trans hInner.name?_eq
  applied?_eq := by
    intro t
    rw [hApply, hInner.applied?_eq, declaredType_concat]

theorem pointer (hInner : inner.Means naming chain name?) (quals : Qualifiers) :
    (Declarator.pointer quals inner).Means naming (chain ++ [.pointer quals]) name? := by
  refine hInner.outer rfl fun t => ?_
  rw [Declarator.applied?, DeclaratorOperator.applied]

theorem reference (hInner : inner.Means naming chain name?) (rvalue : Bool) :
    (Declarator.reference rvalue inner).Means naming (chain ++ [.reference rvalue]) name? := by
  refine hInner.outer rfl fun t => ?_
  rw [Declarator.applied?, DeclaratorOperator.applied]

theorem array (hInner : inner.Means naming chain name?) (size : Option String) :
    (Declarator.array size inner).Means naming (chain ++ [.array size]) name? := by
  refine hInner.outer rfl fun t => ?_
  rw [Declarator.applied?, DeclaratorOperator.applied]

theorem function (hInner : inner.Means naming chain name?) {trailing : Option Declaration}
    {result : Option CType} {entries : List Parameter} {params : ParameterTypes}
    (hResult : ∀ t, Declaration.typeOr? naming trailing t = some (result.getD t))
    (hEntries : Parameter.types? naming entries = some params)
    (hConsistent : params.isContradictory = false) :
    (Declarator.function trailing entries inner).Means naming
      (chain ++ [.function result params.types params.isVariadic
        (params.isPrototype naming.lang)]) name? := by
  refine hInner.outer rfl fun t => ?_
  have hFunction : params.functionType? naming.lang (result.getD t) =
      some (.function (result.getD t) params.types params.isVariadic
        (params.isPrototype naming.lang)) := by
    simp [ParameterTypes.functionType?, hConsistent]
  rw [Declarator.applied?, hResult, hEntries, DeclaratorOperator.applied]
  simp only [Option.bind_eq_bind, Option.bind_some, hFunction]

theorem grouped (hInner : inner.Means naming chain name?) :
    (Declarator.grouped inner).Means naming chain name? where
  name?_eq := hInner.name?_eq
  applied?_eq := by
    intro t
    rw [Declarator.applied?, hInner.applied?_eq]

end Declarator.Means

theorem Parameter.ofNodes?_punctuation {node : Node}
    (hKind : node.kind ∈ [.openingParenthesis, .closingParenthesis, .comma, .comment])
    (rest : List Node) :
    Parameter.ofNodes? source (node :: rest) = Parameter.ofNodes? source rest := by
  simp only [List.mem_cons, List.not_mem_nil, or_false] at hKind
  rcases hKind with hKind | hKind | hKind | hKind <;> rw [Parameter.ofNodes?, hKind]

theorem Parameter.ofNodes?_ellipsis {node : Node}
    (hKind : node.kind ∈ [.variadicParameter, .ellipsis, .variadicParameterDeclaration])
    (rest : List Node) :
    Parameter.ofNodes? source (node :: rest) =
      (Parameter.ofNodes? source rest).map (.ellipsis :: ·) := by
  simp only [List.mem_cons, List.not_mem_nil, or_false] at hKind
  rcases hKind with hKind | hKind | hKind <;> rw [Parameter.ofNodes?, hKind]

theorem Parameter.ofNodes?_declared {node : Node}
    (hKind : node.kind ∈ [.parameterDeclaration, .optionalParameterDeclaration])
    (rest : List Node) :
    Parameter.ofNodes? source (node :: rest) =
      (do
        let declaration ← Declaration.ofNode? source node
        let params ← Parameter.ofNodes? source rest
        some (.declared declaration :: params)) := by
  simp only [List.mem_cons, List.not_mem_nil, or_false] at hKind
  rcases hKind with hKind | hKind <;> rw [Parameter.ofNodes?, hKind]

private theorem Parameter.types?_declared {specifier : Specifier} {quals : Qualifiers}
    {declarator : Declarator} {t : CType} {rest : List Parameter} {params : ParameterTypes}
    (hApply : declarator.applied? naming ((specifier.type naming).qualified quals) = some t)
    (hTypes : Parameter.types? naming rest = some params) :
    Parameter.types? naming (.declared (.mk specifier quals declarator) :: rest) =
      if declarator.isNothing && t.isVoid then some { params with saysNone := true }
      else some { params with types := t.adjustedParameter :: params.types } := by
  rw [Parameter.types?, hApply, hTypes]
  rfl

theorem specifiedType?_eq_some_iff {node : Node} {base : CType} :
    node.specifiedType? source naming = some base ↔
      ∃ type specifier, node.child? .type = some type ∧
        Specifier.ofNode? source type = some specifier ∧
        (specifier.type naming).qualified (Qualifiers.ofNodes source node.children) = base := by
  simp only [Node.specifiedType?, Option.bind_eq_bind, Option.bind_eq_some_iff,
    Option.some.injEq]
  constructor
  · rintro ⟨type, hType, specifier, hSpecifier, hBase⟩
    exact ⟨type, specifier, hType, hSpecifier, hBase⟩
  · rintro ⟨type, specifier, hType, hSpecifier, hBase⟩
    exact ⟨type, hType, specifier, hSpecifier, hBase⟩

mutual

/-- A chain of operators around a name is read as that name and the declared type. -/
theorem Declares.read : ∀ {node : Node} {chain : List DeclaratorOperator} {name? : Option Node},
    Declares source naming node chain name? →
      ∃ declarator, Declarator.ofNode? source node = some declarator ∧
        declarator.isNothing = false ∧
        declarator.Means naming chain (name?.bind (·.declaredName? source))
  | node, _, _, .name hKind => by
      refine ⟨_, Declarator.ofNode?_name hKind, rfl, ?_, fun _ => rfl⟩
      simp [Declarator.name?, Node.declaredName?, hKind]
  | _, _, _, .pointer hKind hInner => by
      obtain ⟨inner, hRead, -, hMeans⟩ := hInner.read
      exact ⟨_, by rw [Declarator.ofNode?_pointer hKind, hRead]; rfl, rfl, hMeans.pointer _⟩
  | _, _, _, .reference hKind hInner => by
      obtain ⟨inner, hRead, -, hMeans⟩ := hInner.read
      exact ⟨_, by rw [Declarator.ofNode?_reference hKind, hRead]; rfl, rfl, hMeans.reference _⟩
  | _, _, _, .array hKind hInner => by
      obtain ⟨inner, hRead, -, hMeans⟩ := hInner.read
      exact ⟨_, by rw [Declarator.ofNode?_array hKind, hRead]; rfl, rfl, hMeans.array _⟩
  | _, _, _, .function hKind hTrailing hList hParams hConsistent hInner => by
      obtain ⟨trailing, hReadTrailing, hResult⟩ := hTrailing.read
      obtain ⟨entries, hReadEntries, hEntries⟩ := hParams.read
      obtain ⟨inner, hRead, -, hMeans⟩ := hInner.read
      refine ⟨.function trailing entries inner, ?_, rfl,
        hMeans.function hResult hEntries hConsistent⟩
      rw [Declarator.ofNode?_function hKind, hReadTrailing, hList, hRead]
      simp [hReadEntries]
  | _, _, _, .grouped hKind hInner => by
      obtain ⟨inner, hRead, -, hMeans⟩ := hInner.read
      exact ⟨_, by rw [Declarator.ofNode?_grouped hKind, hRead]; rfl, rfl, hMeans.grouped⟩

/-- What may stand at the place of a declarator is read likewise, and as nothing only if nothing is
there. -/
theorem Holds.read : ∀ {node? : Option Node} {chain : List DeclaratorOperator}
    {name? : Option Node}, Holds source naming node? chain name? →
      ∃ declarator, Declarator.at? source node? = some declarator ∧
        (declarator.isNothing = true ↔ node? = none) ∧
        declarator.Means naming chain (name?.bind (·.declaredName? source))
  | _, _, _, .nothing => ⟨.nothing, rfl, by simp [Declarator.isNothing], rfl, fun _ => rfl⟩
  | _, _, _, .declarator hDeclares => by
      obtain ⟨declarator, hRead, hSome, hMeans⟩ := hDeclares.read
      exact ⟨declarator, hRead, by simp [hSome], hMeans⟩

/-- A specifier with at most one declarator is read as a declaration of its type. -/
theorem HasType.read : ∀ {node : Node} {t : CType}, HasType source naming node t →
    ∃ specifier quals declarator,
      Declaration.ofNode? source node = some (.mk specifier quals declarator) ∧
        (declarator.isNothing = true ↔ node.child? .declarator = none) ∧
        declarator.applied? naming ((specifier.type naming).qualified quals) = some t
  | node, _, .intro hBase hInner => by
      obtain ⟨declarator, hRead, hNothing, hMeans⟩ := hInner.read
      obtain ⟨type, specifier, hType, hSpecifier, rfl⟩ := specifiedType?_eq_some_iff.mp hBase
      refine ⟨specifier, _, declarator, ?_, hNothing, hMeans.applied?_eq _⟩
      rw [Declaration.ofNode?_eq, hType, hRead]
      simp [hSpecifier]

/-- A trailing return type is read as the type that the function returns. -/
theorem Returns.read : ∀ {children : List Node} {result : Option CType},
    Returns source naming children result →
      ∃ trailing, Declaration.trailing? source children = some trailing ∧
        ∀ t, Declaration.typeOr? naming trailing t = some (result.getD t)
  | _, _, .nothing hTrailing => by
      refine ⟨none, ?_, fun _ => rfl⟩
      rw [Declaration.trailing?_eq, hTrailing]
  | _, _, .unspecified hTrailing hDescriptor => by
      refine ⟨none, ?_, fun _ => rfl⟩
      rw [Declaration.trailing?_eq, hTrailing]
      simp only [Declaration.firstDescriptor?_eq, hDescriptor]
  | _, _, .type hTrailing hDescriptor hType => by
      obtain ⟨specifier, quals, declarator, hRead, -, hApply⟩ := hType.read
      refine ⟨some (.mk specifier quals declarator), ?_, fun _ => hApply⟩
      rw [Declaration.trailing?_eq, hTrailing]
      simp only [Declaration.firstDescriptor?_eq, hDescriptor, hRead, Option.map_some]

/-- A parameter list is read as the adjusted types of its parameters. -/
theorem Lists.read : ∀ {nodes : List Node} {params : ParameterTypes},
    Lists source naming nodes params →
      ∃ entries, Parameter.ofNodes? source nodes = some entries ∧
        Parameter.types? naming entries = some params
  | _, _, .nil => ⟨[], rfl, rfl⟩
  | _, _, .punctuation hKind hRest => by
      obtain ⟨entries, hRead, hTypes⟩ := hRest.read
      exact ⟨entries, by rw [Parameter.ofNodes?_punctuation hKind, hRead], hTypes⟩
  | _, _, .ellipsis hKind hRest => by
      obtain ⟨entries, hRead, hTypes⟩ := hRest.read
      refine ⟨.ellipsis :: entries, ?_, ?_⟩
      · rw [Parameter.ofNodes?_ellipsis hKind, hRead]
        rfl
      · rw [Parameter.types?, hTypes]
        rfl
  | _, _, .void hKind hType hUnnamed hRest => by
      obtain ⟨specifier, quals, declarator, hReadType, hNothing, hApply⟩ := hType.read
      obtain ⟨entries, hRead, hTypes⟩ := hRest.read
      refine ⟨.declared (.mk specifier quals declarator) :: entries, ?_, ?_⟩
      · rw [Parameter.ofNodes?_declared hKind, hReadType, hRead]
        rfl
      · have hVoid : (declarator.isNothing && (CType.ofName "void").isVoid) = true := by
          rw [hNothing.mpr hUnnamed, CType.isVoid_iff.mpr rfl]
          rfl
        rw [Parameter.types?_declared hApply hTypes, if_pos hVoid]
  | _, _, .parameter hKind hType hOther hRest => by
      obtain ⟨specifier, quals, declarator, hReadType, hNothing, hApply⟩ := hType.read
      obtain ⟨entries, hRead, hTypes⟩ := hRest.read
      refine ⟨.declared (.mk specifier quals declarator) :: entries, ?_, ?_⟩
      · rw [Parameter.ofNodes?_declared hKind, hReadType, hRead]
        rfl
      · rw [Parameter.types?_declared hApply hTypes, if_neg]
        rw [Bool.and_eq_true, hNothing, CType.isVoid_iff]
        exact hOther

end

end FunctionCatalog
