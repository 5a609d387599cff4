import FunctionCatalog.Proofs.Declaration.InsideOut

/-!
# Reading and applying a declarator in one pass

A declaration is read from the tree first and given its meaning afterwards. Both go through the
tree in the same way, so they come to one recursion over the nodes: every operator changes the
type made so far and hands it to the declarator inside. What fails, in reading or in meaning,
fails the whole, so the order of the steps makes no difference.

## Main results

* `declaredAt?_pointer`, `declaredAt?_reference`, `declaredAt?_array`, `declaredAt?_grouped`,
  `declaredAt?_function` — one operator at a time.
* `parametersAt?_declared` — one parameter at a time.
-/

namespace FunctionCatalog

/-- The name and the type that a declarator declares, when the declaration has made `t` of its
specifier so far. -/
def Declarator.declared? (naming : Naming) (declarator : Declarator) (t : CType) :
    Option (Option DeclaredName × CType) :=
  (declarator.applied? naming t).map (declarator.name?, ·)

section

variable (source : Bytes) (naming : Naming)

/-- The name and the type that are declared at the place of a declarator. -/
def declaredAt? (place : Option Node) (t : CType) : Option (Option DeclaredName × CType) :=
  (Declarator.at? source place).bind (·.declared? naming t)

/-- The type alone that is declared at the place of a declarator. -/
def typeAt? (place : Option Node) (t : CType) : Option CType :=
  (declaredAt? source naming place t).map Prod.snd

/-- The type that a node with a specifier and at most one declarator gives its name. -/
def Node.declaredType? (node : Node) : Option CType :=
  (node.specifiedType? source naming).bind (typeAt? source naming (node.child? .declarator))

/-- The types of the parameters that the nodes inside a parameter list are. -/
def parametersAt? (nodes : List Node) : Option ParameterTypes :=
  (Parameter.ofNodes? source nodes).bind (Parameter.types? naming)

/-- The type descriptor of the trailing return type of a function declarator. -/
def Node.trailingDescriptor? (node : Node) : Option Node :=
  (node.children.find? (·.kind == .trailingReturnType)).bind
    fun trailing => trailing.children.find? fun part => part.isNamed && part.kind == .typeDescriptor

/-- What a function declarator returns, when the declaration has made `t` so far. -/
def Node.resultType? (node : Node) (t : CType) : Option CType :=
  match node.trailingDescriptor? with
  | none => some t
  | some descriptor => descriptor.declaredType? source naming

end

variable {source : Bytes} {naming : Naming} {node : Node}

/-! ## Declarations -/

private theorem Declarator.isNothing_of_ofNode? {declarator : Declarator}
    (hRead : Declarator.ofNode? source node = some declarator) : declarator.isNothing = false := by
  cases declarator with
  | nothing =>
      obtain ⟨kind, start, stop, isNamed, hasError, field?, children⟩ := node
      cases kind <;> simp [Declarator.ofNode?, Option.bind_eq_some_iff] at hRead
  | name _ | grouped _ | pointer _ _ | reference _ _ | array _ _ | function _ _ _ => rfl

private theorem Declarator.isNothing_at? {place : Option Node} {declarator : Declarator}
    (hRead : Declarator.at? source place = some declarator) :
    declarator.isNothing = true ↔ place = none := by
  cases place with
  | none =>
      obtain rfl : .nothing = declarator := Option.some.inj hRead
      exact iff_of_true rfl rfl
  | some node =>
      rw [isNothing_of_ofNode? hRead]
      exact iff_of_false Bool.false_ne_true (Option.some_ne_none node)

/-- The type of a declaration that is read from a node. -/
theorem Declaration.ofNode?_bind_type? :
    (Declaration.ofNode? source node).bind (·.type? naming) = node.declaredType? source naming := by
  rw [Declaration.ofNode?_eq, Node.declaredType?, Node.specifiedType?]
  cases node.child? .type with
  | none => rfl
  | some type =>
      cases hSpecifier : Specifier.ofNode? source type with
      | none => simp [hSpecifier]
      | some specifier =>
          simp only [hSpecifier, Option.bind_eq_bind, Option.bind_some, typeAt?, declaredAt?]
          cases Declarator.at? source (node.child? .declarator) with
          | none => rfl
          | some read =>
              simp only [Option.bind_some, Declaration.type?, Declarator.declared?]
              cases read.applied? naming _ <;> rfl

/-! ## One operator -/

theorem declaredAt?_name {kind : NameKind} (hKind : node.kind = .name kind) (t : CType) :
    declaredAt? source naming (some node) t = some (some ⟨kind, node.text? source⟩, t) := by
  rw [declaredAt?, Declarator.at?, Declarator.ofNode?_name hKind]
  rfl

theorem declaredAt?_pointer {form : DeclaratorForm} (hKind : node.kind = .pointerDeclarator form)
    (t : CType) :
    declaredAt? source naming (some node) t =
      declaredAt? source naming (node.child? .declarator)
        (.pointer t (Qualifiers.ofNodes source node.children)) := by
  rw [declaredAt?, Declarator.at?, Declarator.ofNode?_pointer hKind, Option.bind_map]
  rfl

theorem declaredAt?_reference {form : DeclaratorForm}
    (hKind : node.kind = .referenceDeclarator form) (t : CType) :
    declaredAt? source naming (some node) t =
      declaredAt? source naming node.innerDeclarator
        (.reference t (node.children.any (·.kind == .doubleAmpersand))) := by
  rw [declaredAt?, Declarator.at?, Declarator.ofNode?_reference hKind, Option.bind_map]
  rfl

theorem declaredAt?_array {form : DeclaratorForm} (hKind : node.kind = .arrayDeclarator form)
    (t : CType) :
    declaredAt? source naming (some node) t =
      declaredAt? source naming (node.child? .declarator)
        (.array t (arraySize? source node.children)) := by
  rw [declaredAt?, Declarator.at?, Declarator.ofNode?_array hKind, Option.bind_map]
  rfl

theorem declaredAt?_grouped
    (hKind : (∃ form, node.kind = .parenthesizedDeclarator form) ∨
      node.kind = .attributedDeclarator ∨ node.kind = .initDeclarator) (t : CType) :
    declaredAt? source naming (some node) t =
      declaredAt? source naming node.innerDeclarator t := by
  rw [declaredAt?, Declarator.at?, Declarator.ofNode?_grouped hKind, Option.bind_map]
  rfl

/-- A trailing return type takes the place of the type made so far. -/
theorem trailing?_bind_typeOr? (t : CType) :
    ((Declaration.trailing? source node.children).bind
        fun trailing => Declaration.typeOr? naming trailing t) =
      node.resultType? source naming t := by
  rw [Declaration.trailing?_eq, Node.resultType?, Node.trailingDescriptor?]
  cases node.children.find? (·.kind == .trailingReturnType) with
  | none => rfl
  | some trailing =>
      simp only [Declaration.firstDescriptor?_eq, Option.bind_some]
      cases trailing.children.find? fun part => part.isNamed && part.kind == .typeDescriptor with
      | none => rfl
      | some descriptor =>
          rw [Option.bind_map]
          exact Declaration.ofNode?_bind_type?

theorem declaredAt?_function {form : DeclaratorForm} (hKind : node.kind = .functionDeclarator form)
    (t : CType) :
    declaredAt? source naming (some node) t =
      (do
        let result ← node.resultType? source naming t
        let list ← node.child? .parameters
        let params ← parametersAt? source naming list.children
        let function ← params.functionType? naming.lang result
        declaredAt? source naming (node.child? .declarator) function) := by
  rw [declaredAt?, Declarator.at?, Declarator.ofNode?_function hKind, ← trailing?_bind_typeOr?]
  simp only [declaredAt?, parametersAt?, Option.bind_eq_bind]
  cases Declaration.trailing? source node.children with
  | none => rfl
  | some trailing =>
      cases node.child? .parameters with
      | none => simp
      | some list =>
          cases hEntries : Parameter.ofNodes? source list.children with
          | none => simp [hEntries]
          | some entries =>
              cases Declarator.at? source (node.child? .declarator) with
              | none => simp
              | some inner =>
                  simp only [Option.bind_some, hEntries, Declarator.declared?, Declarator.applied?,
                    Declarator.name?, Option.bind_eq_bind, Option.map_bind, Function.comp_def]

/-! ## One parameter -/

theorem parametersAt?_punctuation
    (hKind : node.kind ∈ [.openingParenthesis, .closingParenthesis, .comma, .comment])
    (rest : List Node) :
    parametersAt? source naming (node :: rest) = parametersAt? source naming rest := by
  rw [parametersAt?, Parameter.ofNodes?_punctuation hKind, parametersAt?]

theorem parametersAt?_ellipsis
    (hKind : node.kind ∈ [.variadicParameter, .ellipsis, .variadicParameterDeclaration])
    (rest : List Node) :
    parametersAt? source naming (node :: rest) =
      (parametersAt? source naming rest).map ({ · with isVariadic := true }) := by
  rw [parametersAt?, Parameter.ofNodes?_ellipsis hKind, parametersAt?, Option.bind_map]
  cases Parameter.ofNodes? source rest with
  | none => rfl
  | some entries =>
      simp only [Option.bind_some, Function.comp_apply, Parameter.types?]
      cases Parameter.types? naming entries <;> rfl

/-- The parameters when one more is declared in front of them. One of type `void` without a
declarator says that there are none. -/
def ParameterTypes.withFirst (params : ParameterTypes) (isBare : Bool) (t : CType) :
    ParameterTypes :=
  if isBare && t.isVoid then { params with saysNone := true }
  else { params with types := t.adjustedParameter :: params.types }

theorem parametersAt?_declared
    (hKind : node.kind ∈ [.parameterDeclaration, .optionalParameterDeclaration])
    (rest : List Node) :
    parametersAt? source naming (node :: rest) =
      (do
        let t ← node.declaredType? source naming
        let params ← parametersAt? source naming rest
        some (params.withFirst (node.child? .declarator).isNone t)) := by
  rw [parametersAt?, Parameter.ofNodes?_declared hKind, ← Declaration.ofNode?_bind_type?]
  simp only [parametersAt?, Option.bind_eq_bind]
  cases hRead : Declaration.ofNode? source node with
  | none => rfl
  | some declaration =>
      cases Parameter.ofNodes? source rest with
      | none => simp
      | some entries =>
          obtain ⟨specifier, quals, declarator⟩ := declaration
          have hBare : declarator.isNothing = (node.child? .declarator).isNone := by
            rw [Declaration.ofNode?_eq] at hRead
            simp only [Option.bind_eq_bind, Option.bind_eq_some_iff, Option.some.injEq,
              Declaration.mk.injEq] at hRead
            obtain ⟨type, -, specifier, -, read, hDeclarator, -, -, rfl⟩ := hRead
            rw [Bool.eq_iff_iff, Declarator.isNothing_at? hDeclarator, Option.isNone_iff_eq_none]
          simp only [Option.bind_some, Declaration.type?, Parameter.types?, Option.bind_eq_bind,
            hBare, ParameterTypes.withFirst]
          cases declarator.applied? naming _ with
          | none => rfl
          | some t =>
              cases Parameter.types? naming entries with
              | none => rfl
              | some params => exact (apply_ite some _ _ _).symm

end FunctionCatalog
