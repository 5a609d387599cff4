import FunctionCatalog.Declaration.Meaning
import FunctionCatalog.Declaration.OfNode

/-!
# Operators around a name

What the syntax of declarators says, without a reader. A declarator is a chain of operators around a
name, and the chain is listed from the name outwards: in `*f(int)` the function stands in front of
the pointer. The type declared has the operator nearest the name outermost, and the operator at the
end of the chain applies to the specified type (`declaredType`). `Declares` says of a node which
chain it is and which name stands inside; parentheses, attributes and initial values add no
operator.
-/

namespace FunctionCatalog

/-- An operator of a declarator. -/
inductive DeclaratorOperator where
  | pointer (quals : Qualifiers)
  | reference (rvalue : Bool)
  | array (size : Option String)
  | function (trailing : Option CType) (params : List CType) (variadic prototyped : Bool)

namespace DeclaratorOperator

/-- The type that an operator makes of another one. A function with a trailing return type returns
that type whatever it is applied to. -/
def applied : DeclaratorOperator → CType → CType
  | pointer quals, t => .pointer t quals
  | reference rvalue, t => .reference t rvalue
  | array size, t => .array t size
  | function trailing params variadic prototyped, t =>
    .function (trailing.getD t) params variadic prototyped

/-- Whether an operator is that of a function. -/
def isFunction : DeclaratorOperator → Bool
  | function .. => true
  | pointer .. | reference .. | array .. => false

end DeclaratorOperator

/-- The type that a chain of operators makes of a base type. The operators are listed from the name
outwards. -/
def declaredType (base : CType) : List DeclaratorOperator → CType
  | [] => base
  | nearest :: outer => nearest.applied (declaredType base outer)

/-- The operator farthest from the name applies to the base type. -/
theorem declaredType_concat (base : CType) (chain : List DeclaratorOperator)
    (farthest : DeclaratorOperator) :
    declaredType base (chain ++ [farthest]) = declaredType (farthest.applied base) chain := by
  induction chain with
  | nil => rfl
  | cons nearest outer ih => rw [List.cons_append, declaredType, declaredType, ih]

/-! ## Nodes that are declarators -/

/-- The node at the place of a declarator inside a grouping or a reference: the one in the field,
and without it the first one that may declare. -/
def Node.innerDeclarator (node : Node) : Option Node :=
  (node.child? .declarator).or (node.children.find? Node.mayDeclare)

variable (source : Bytes) (naming : Naming)

/-- The type that a node's specifier and qualifiers give, before any declarator. -/
def Node.specifiedType? (node : Node) : Option CType := do
  let type ← node.child? .type
  let specifier ← Specifier.ofNode? source type
  some ((specifier.type naming).qualified (Qualifiers.ofNodes source node.children))

mutual

/-- A node is a declarator with these operators, from the name outwards, around this name. -/
inductive Declares : Node → List DeclaratorOperator → Option Node → Prop
  | name {node : Node} {kind : NameKind} (hKind : node.kind = .name kind) :
    Declares node [] (some node)
  | pointer {node : Node} {form : DeclaratorForm} {chain : List DeclaratorOperator}
    {name? : Option Node} (hKind : node.kind = .pointerDeclarator form)
    (hInner : Holds (node.child? .declarator) chain name?) :
    Declares node (chain ++ [.pointer (Qualifiers.ofNodes source node.children)]) name?
  | reference {node : Node} {form : DeclaratorForm} {chain : List DeclaratorOperator}
    {name? : Option Node} (hKind : node.kind = .referenceDeclarator form)
    (hInner : Holds node.innerDeclarator chain name?) :
    Declares node (chain ++ [.reference (node.children.any (·.kind == .doubleAmpersand))]) name?
  | array {node : Node} {form : DeclaratorForm} {chain : List DeclaratorOperator}
    {name? : Option Node} (hKind : node.kind = .arrayDeclarator form)
    (hInner : Holds (node.child? .declarator) chain name?) :
    Declares node (chain ++ [.array (arraySize? source node.children)]) name?
  | function {node list : Node} {form : DeclaratorForm} {chain : List DeclaratorOperator}
    {name? : Option Node} {trailing : Option CType} {params : ParameterTypes}
    (hKind : node.kind = .functionDeclarator form)
    (hTrailing : Returns node.children trailing) (hList : node.child? .parameters = some list)
    (hParams : Lists list.children params) (hConsistent : params.isContradictory = false)
    (hInner : Holds (node.child? .declarator) chain name?) :
    Declares node
      (chain ++ [.function trailing params.types params.isVariadic
        (params.isPrototype naming.lang)]) name?
  | grouped {node : Node} {chain : List DeclaratorOperator} {name? : Option Node}
    (hKind : (∃ form, node.kind = .parenthesizedDeclarator form) ∨
      node.kind = .attributedDeclarator ∨ node.kind = .initDeclarator)
    (hInner : Holds node.innerDeclarator chain name?) : Declares node chain name?

/-- What may stand at the place of a declarator: one, or nothing. -/
inductive Holds : Option Node → List DeclaratorOperator → Option Node → Prop
  | nothing : Holds none [] none
  | declarator {node : Node} {chain : List DeclaratorOperator} {name? : Option Node}
    (hDeclares : Declares node chain name?) : Holds (some node) chain name?

/-- A node with a specifier and at most one declarator gives its name this type. -/
inductive HasType : Node → CType → Prop
  | intro {node : Node} {base : CType} {chain : List DeclaratorOperator} {name? : Option Node}
    (hBase : node.specifiedType? source naming = some base)
    (hInner : Holds (node.child? .declarator) chain name?) : HasType node (declaredType base chain)

/-- The trailing return type among the children of a function declarator. -/
inductive Returns : List Node → Option CType → Prop
  | nothing {children : List Node}
    (hTrailing : children.find? (·.kind == .trailingReturnType) = none) : Returns children none
  | unspecified {children : List Node} {trailing : Node}
    (hTrailing : children.find? (·.kind == .trailingReturnType) = some trailing)
    (hDescriptor :
      trailing.children.find? (fun part => part.isNamed && part.kind == .typeDescriptor) = none) :
    Returns children none
  | type {children : List Node} {trailing descriptor : Node} {result : CType}
    (hTrailing : children.find? (·.kind == .trailingReturnType) = some trailing)
    (hDescriptor : trailing.children.find?
      (fun part => part.isNamed && part.kind == .typeDescriptor) = some descriptor)
    (hType : HasType descriptor result) : Returns children (some result)

/-- The entries of a parameter list, with the punctuation between them. -/
inductive Lists : List Node → ParameterTypes → Prop
  | nil : Lists [] {}
  | punctuation {node : Node} {rest : List Node} {params : ParameterTypes}
    (hKind : node.kind ∈ [.openingParenthesis, .closingParenthesis, .comma, .comment])
    (hRest : Lists rest params) : Lists (node :: rest) params
  | ellipsis {node : Node} {rest : List Node} {params : ParameterTypes}
    (hKind : node.kind ∈ [.variadicParameter, .ellipsis, .variadicParameterDeclaration])
    (hRest : Lists rest params) : Lists (node :: rest) { params with isVariadic := true }
  | void {node : Node} {rest : List Node} {params : ParameterTypes}
    (hKind : node.kind ∈ [.parameterDeclaration, .optionalParameterDeclaration])
    (hType : HasType node (.ofName "void")) (hUnnamed : node.child? .declarator = none)
    (hRest : Lists rest params) : Lists (node :: rest) { params with saysNone := true }
  | parameter {node : Node} {rest : List Node} {params : ParameterTypes} {t : CType}
    (hKind : node.kind ∈ [.parameterDeclaration, .optionalParameterDeclaration])
    (hType : HasType node t) (hOther : ¬ (node.child? .declarator = none ∧ t = .ofName "void"))
    (hRest : Lists rest params) :
    Lists (node :: rest) { params with types := t.adjustedParameter :: params.types }

end

variable {source naming}

mutual

/-- The name inside a declarator is a name. -/
theorem Declares.name_kind : ∀ {node : Node} {chain : List DeclaratorOperator}
    {name? : Option Node}, Declares source naming node chain name? →
      ∀ name ∈ name?, ∃ kind, name.kind = .name kind
  | node, _, _, .name hKind => by
      intro name hName
      obtain rfl : node = name := by simpa using hName
      exact ⟨_, hKind⟩
  | _, _, _, .pointer _ hInner => hInner.name_kind
  | _, _, _, .reference _ hInner => hInner.name_kind
  | _, _, _, .array _ hInner => hInner.name_kind
  | _, _, _, .function _ _ _ _ _ hInner => hInner.name_kind
  | _, _, _, .grouped _ hInner => hInner.name_kind

theorem Holds.name_kind : ∀ {node? : Option Node} {chain : List DeclaratorOperator}
    {name? : Option Node}, Holds source naming node? chain name? →
      ∀ name ∈ name?, ∃ kind, name.kind = .name kind
  | _, _, _, .nothing => by simp
  | _, _, _, .declarator hDeclares => hDeclares.name_kind

end

end FunctionCatalog
