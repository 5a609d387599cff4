import FunctionCatalog.Proofs.Declaration.InsideOut

/-!
# Nothing else is a declarator

Whatever the reader takes for a declarator, and gives a type, is a chain of operators around a name
or around nothing. So the chains are exactly the declarators that have a meaning, and what is shown
of chains is shown of everything that is read.

## Main results

* `declares_iff` — the chains of operators are the declarators that are read and have a type.
-/

namespace FunctionCatalog

variable {source : Bytes} {naming : Naming}

/-! ## Sizes of nodes -/

private theorem sizeOf_find?_le (accept : Node → Bool) (nodes : List Node) :
    sizeOf (nodes.find? accept) ≤ sizeOf nodes := by
  cases hFind : nodes.find? accept with
  | none =>
      cases nodes with
      | nil => exact Nat.le_refl 1
      | cons node rest =>
          rw [Option.none.sizeOf_spec, List.cons.sizeOf_spec]
          omega
  | some node =>
      have hLt := List.sizeOf_lt_of_mem (List.mem_of_find?_eq_some hFind)
      rw [Option.some.sizeOf_spec]
      omega

private theorem sizeOf_children_lt (node : Node) : sizeOf node.children < sizeOf node := by
  obtain ⟨kind, start, stop, isNamed, hasError, field?, children⟩ := node
  rw [Node.mk.sizeOf_spec]
  show sizeOf children < _
  omega

private theorem sizeOf_child?_lt (node : Node) (field : Field) :
    sizeOf (node.child? field) < sizeOf node := by
  have hFind := sizeOf_find?_le (·.field? == some field) node.children
  have hChildren := sizeOf_children_lt node
  unfold Node.child?
  omega

private theorem sizeOf_innerDeclarator_lt (node : Node) :
    sizeOf node.innerDeclarator < sizeOf node := by
  rw [← find?_isInside]
  have hFind := sizeOf_find?_le (Node.isInside node.children) node.children
  have hChildren := sizeOf_children_lt node
  omega

/-! ## What is read is a chain -/

/-- The kinds of nodes that are read as declarators. -/
theorem kind_of_ofNode? {node : Node} {declarator : Declarator}
    (hRead : Declarator.ofNode? source node = some declarator) :
    (∃ kind, node.kind = .name kind) ∨ (∃ form, node.kind = .pointerDeclarator form) ∨
      (∃ form, node.kind = .referenceDeclarator form) ∨
      (∃ form, node.kind = .arrayDeclarator form) ∨
      (∃ form, node.kind = .functionDeclarator form) ∨
      (∃ form, node.kind = .parenthesizedDeclarator form) ∨
      node.kind = .attributedDeclarator ∨ node.kind = .initDeclarator := by
  obtain ⟨kind, start, stop, isNamed, hasError, field?, children⟩ := node
  cases kind <;> first | simp [Declarator.ofNode?] at hRead; done | simp

/-- The kinds of nodes that are read as entries of a parameter list, or passed over there. -/
theorem kind_of_ofNodes? {node : Node} {rest : List Node} {entries : List Parameter}
    (hRead : Parameter.ofNodes? source (node :: rest) = some entries) :
    node.kind ∈ [.openingParenthesis, .closingParenthesis, .comma, .comment] ∨
      node.kind ∈ [.variadicParameter, .ellipsis, .variadicParameterDeclaration] ∨
      node.kind ∈ [.parameterDeclaration, .optionalParameterDeclaration] := by
  cases hKind : node.kind <;> simp [Parameter.ofNodes?, hKind] at hRead ⊢

mutual

theorem declares_of_read {node : Node} {declarator : Declarator} {t t' : CType}
    (hRead : Declarator.ofNode? source node = some declarator)
    (hApply : declarator.applied? naming t = some t') :
    ∃ chain name?, Declares source naming node chain name? := by
  obtain ⟨kind, hKind⟩ | ⟨form, hKind⟩ | ⟨form, hKind⟩ | ⟨form, hKind⟩ | ⟨form, hKind⟩ | hKind :=
    kind_of_ofNode? hRead
  · exact ⟨_, _, .name hKind⟩
  · rw [Declarator.ofNode?_pointer hKind, Option.map_eq_some_iff] at hRead
    obtain ⟨inner, hInner, rfl⟩ := hRead
    rw [Declarator.applied?] at hApply
    obtain ⟨chain, name?, hHolds⟩ := holds_of_read hInner hApply
    exact ⟨_, _, .pointer hKind hHolds⟩
  · rw [Declarator.ofNode?_reference hKind, Option.map_eq_some_iff] at hRead
    obtain ⟨inner, hInner, rfl⟩ := hRead
    rw [Declarator.applied?] at hApply
    obtain ⟨chain, name?, hHolds⟩ := holds_of_read hInner hApply
    exact ⟨_, _, .reference hKind hHolds⟩
  · rw [Declarator.ofNode?_array hKind, Option.map_eq_some_iff] at hRead
    obtain ⟨inner, hInner, rfl⟩ := hRead
    rw [Declarator.applied?] at hApply
    obtain ⟨chain, name?, hHolds⟩ := holds_of_read hInner hApply
    exact ⟨_, _, .array hKind hHolds⟩
  · rw [Declarator.ofNode?_function hKind] at hRead
    simp only [Option.bind_eq_bind, Option.bind_eq_some_iff, Option.some.injEq] at hRead
    obtain ⟨trailing, hTrailing, entries, ⟨list, hList, hEntries⟩, inner, hInner, rfl⟩ := hRead
    rw [Declarator.applied?] at hApply
    simp only [Option.bind_eq_bind, Option.bind_eq_some_iff] at hApply
    obtain ⟨result, hResult, params, hParams, function, hFunction, hApply⟩ := hApply
    obtain ⟨chain, name?, hHolds⟩ := holds_of_read hInner hApply
    obtain ⟨result?, hReturns⟩ := returns_of_read hTrailing hResult
    have hLists := lists_of_read hEntries hParams
    have hConsistent : params.isContradictory = false := by
      cases hContradictory : params.isContradictory with
      | false => rfl
      | true => simp [ParameterTypes.functionType?, hContradictory] at hFunction
    exact ⟨_, _, .function hKind hReturns hList hLists hConsistent hHolds⟩
  · rw [Declarator.ofNode?_grouped hKind, Option.map_eq_some_iff] at hRead
    obtain ⟨inner, hInner, rfl⟩ := hRead
    rw [Declarator.applied?] at hApply
    obtain ⟨chain, name?, hHolds⟩ := holds_of_read hInner hApply
    exact ⟨_, _, .grouped hKind hHolds⟩
termination_by sizeOf node
decreasing_by
  all_goals have hChild := sizeOf_child?_lt node .declarator
  all_goals have hInner := sizeOf_innerDeclarator_lt node
  all_goals have hChildren := sizeOf_children_lt node
  all_goals first | omega | skip
  have hParameters := sizeOf_child?_lt node .parameters
  have hEntries := sizeOf_children_lt list
  rw [hList, Option.some.sizeOf_spec] at hParameters
  omega

theorem holds_of_read {node? : Option Node} {declarator : Declarator} {t t' : CType}
    (hRead : Declarator.at? source node? = some declarator)
    (hApply : declarator.applied? naming t = some t') :
    ∃ chain name?, Holds source naming node? chain name? := by
  cases node? with
  | none => exact ⟨_, _, .nothing⟩
  | some node =>
      obtain ⟨chain, name?, hDeclares⟩ := declares_of_read hRead hApply
      exact ⟨_, _, .declarator hDeclares⟩
termination_by sizeOf node?

theorem hasType_of_read {node : Node} {declaration : Declaration} {t : CType}
    (hRead : Declaration.ofNode? source node = some declaration)
    (hType : declaration.type? naming = some t) : HasType source naming node t := by
  rw [Declaration.ofNode?_eq] at hRead
  simp only [Option.bind_eq_bind, Option.bind_eq_some_iff, Option.some.injEq] at hRead
  obtain ⟨type, hFound, specifier, hSpecifier, declarator, hDeclarator, rfl⟩ := hRead
  rw [Declaration.type?] at hType
  obtain ⟨chain, name?, hHolds⟩ := holds_of_read hDeclarator hType
  have hBase : node.specifiedType? source naming = some _ :=
    specifiedType?_eq_some_iff.mpr ⟨type, specifier, hFound, hSpecifier, rfl⟩
  obtain ⟨other, hOther, -, hMeans⟩ := hHolds.read
  obtain rfl : declarator = other := Option.some.inj (hDeclarator.symm.trans hOther)
  rw [hMeans.applied?_eq, Option.some.injEq] at hType
  rw [← hType]
  exact .intro hBase hHolds
termination_by sizeOf node
decreasing_by exact sizeOf_child?_lt node .declarator

private theorem returns_of_read {children : List Node} {trailing : Option Declaration}
    {t t' : CType} (hRead : Declaration.trailing? source children = some trailing)
    (hType : Declaration.typeOr? naming trailing t = some t') :
    ∃ result, Returns source naming children result := by
  rw [Declaration.trailing?_eq] at hRead
  cases hTrailing : children.find? (·.kind == .trailingReturnType) with
  | none => exact ⟨_, .nothing hTrailing⟩
  | some node =>
      simp only [hTrailing, Declaration.firstDescriptor?_eq] at hRead
      cases hDescriptor : node.children.find?
          (fun part => part.isNamed && part.kind == .typeDescriptor) with
      | none => exact ⟨_, .unspecified hTrailing hDescriptor⟩
      | some descriptor =>
          simp only [hDescriptor, Option.map_eq_some_iff] at hRead
          obtain ⟨declaration, hDeclaration, rfl⟩ := hRead
          rw [Declaration.typeOr?] at hType
          exact ⟨_, .type hTrailing hDescriptor (hasType_of_read hDeclaration hType)⟩
termination_by sizeOf children
decreasing_by
  have hNode := sizeOf_find?_le (·.kind == .trailingReturnType) children
  have hParts := sizeOf_find?_le (fun part => part.isNamed && part.kind == .typeDescriptor)
    node.children
  have hChildren := sizeOf_children_lt node
  rw [hTrailing, Option.some.sizeOf_spec] at hNode
  rw [hDescriptor, Option.some.sizeOf_spec] at hParts
  omega

theorem lists_of_read {nodes : List Node} {entries : List Parameter} {params : ParameterTypes}
    (hRead : Parameter.ofNodes? source nodes = some entries)
    (hTypes : Parameter.types? naming entries = some params) :
    Lists source naming nodes params := by
  cases nodes with
  | nil =>
      simp only [Parameter.ofNodes?, Option.some.injEq] at hRead
      subst hRead
      simp only [Parameter.types?, Option.some.injEq] at hTypes
      subst hTypes
      exact .nil
  | cons node rest =>
      rcases kind_of_ofNodes? hRead with hKind | hKind | hKind
      · rw [Parameter.ofNodes?_punctuation hKind] at hRead
        exact .punctuation hKind (lists_of_read hRead hTypes)
      · rw [Parameter.ofNodes?_ellipsis hKind, Option.map_eq_some_iff] at hRead
        obtain ⟨others, hOthers, rfl⟩ := hRead
        simp only [Parameter.types?, Option.bind_eq_bind, Option.bind_eq_some_iff,
          Option.some.injEq] at hTypes
        obtain ⟨otherParams, hOtherTypes, rfl⟩ := hTypes
        exact .ellipsis hKind (lists_of_read hOthers hOtherTypes)
      · rw [Parameter.ofNodes?_declared hKind] at hRead
        simp only [Option.bind_eq_bind, Option.bind_eq_some_iff, Option.some.injEq] at hRead
        obtain ⟨⟨specifier, quals, declarator⟩, hDeclaration, others, hOthers, rfl⟩ := hRead
        rw [Parameter.types?] at hTypes
        simp only [Option.bind_eq_bind, Option.bind_eq_some_iff] at hTypes
        obtain ⟨t, hApply, otherParams, hOtherTypes, hTypes⟩ := hTypes
        have hLists := lists_of_read hOthers hOtherTypes
        have hType : HasType source naming node t :=
          hasType_of_read hDeclaration (by rw [Declaration.type?, hApply])
        have hNothing : declarator.isNothing = true ↔ node.child? .declarator = none := by
          obtain ⟨specifier', quals', declarator', hOther, hIff, -⟩ := hType.read
          rw [hDeclaration] at hOther
          cases hOther
          exact hIff
        split at hTypes
        · rename_i hVoid
          rw [Bool.and_eq_true, hNothing, CType.isVoid_iff] at hVoid
          obtain ⟨hUnnamed, rfl⟩ := hVoid
          rw [← Option.some.inj hTypes]
          exact .void hKind hType hUnnamed hLists
        · rename_i hOther
          rw [Bool.and_eq_true, hNothing, CType.isVoid_iff] at hOther
          rw [← Option.some.inj hTypes]
          exact .parameter hKind hType hOther hLists
termination_by sizeOf nodes

end

/-- The chains of operators are the declarators that are read and have a type, and the type is the
declared one. -/
theorem declares_iff {node : Node} {base t : CType} {name? : Option DeclaredName} :
    (∃ chain inside, Declares source naming node chain inside ∧
      inside.bind (·.declaredName? source) = name? ∧ declaredType base chain = t) ↔
      ∃ declarator, Declarator.ofNode? source node = some declarator ∧
        declarator.name? = name? ∧ declarator.applied? naming base = some t := by
  constructor
  · rintro ⟨chain, inside, hDeclares, rfl, rfl⟩
    obtain ⟨declarator, hRead, -, hMeans⟩ := hDeclares.read
    exact ⟨declarator, hRead, hMeans.name?_eq, hMeans.applied?_eq base⟩
  · rintro ⟨declarator, hRead, hName, hApply⟩
    obtain ⟨chain, inside, hDeclares⟩ := declares_of_read hRead hApply
    obtain ⟨other, hOther, -, hMeans⟩ := hDeclares.read
    obtain rfl : declarator = other := Option.some.inj (hRead.symm.trans hOther)
    refine ⟨chain, inside, hDeclares, hMeans.name?_eq.symm.trans hName, ?_⟩
    exact Option.some.inj ((hMeans.applied?_eq base).symm.trans hApply)

end FunctionCatalog
