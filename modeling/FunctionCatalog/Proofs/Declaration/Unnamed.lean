import FunctionCatalog.Proofs.Declaration.InOnePass

/-!
# Declarators with and without names

A declarator has one form around a name and another one without a name, and the declarator inside
is found in different ways in the two: in a field, or as the first child that may declare.
Parentheses may stand where there is a name and be missing where there is none. `SameOperators`
says of two declarators, in whichever forms, that they list the same operators; the names in their
parameter lists may be other ones or missing, at any depth, and parameters may have defaults. Such
declarators make the same type of the same base.

## Main results

* `SameOperators.declaredAt?_eq` — the same operators make the same type.
* `SameEntries.parametersAt?_eq` — parameter lists that differ in names and defaults say the same.
-/

namespace FunctionCatalog

/-- At the place of a declarator stands a name or nothing. -/
def IsBare (place : Option Node) : Prop :=
  ∀ node ∈ place, ∃ kind, node.kind = .name kind

/-- A declarator that adds no operator to the one inside. -/
def Node.IsGrouping (node : Node) : Prop :=
  (∃ form, node.kind = .parenthesizedDeclarator form) ∨
    node.kind = .attributedDeclarator ∨ node.kind = .initDeclarator

/-- What is declared, without the name unless it is `kept`. -/
def keepName (kept : Bool) (declared : Option DeclaredName × CType) : Option DeclaredName × CType :=
  (if kept then declared.1 else none, declared.2)

section

variable (source source' : Bytes) (naming : Naming)

mutual

/-- The same operators stand at the places of two declarators. The name inside is the same one if
it is `kept`, and otherwise any or none on either side. -/
inductive SameOperators : Bool → Option Node → Option Node → Prop
  | bare {kept : Bool} {place place' : Option Node} (hBare : IsBare place) (hBare' : IsBare place')
    (hName : kept = true →
      place.bind (·.declaredName? source) = place'.bind (·.declaredName? source')) :
    SameOperators kept place place'
  | pointer {kept : Bool} {node node' : Node} {form form' : DeclaratorForm}
    (hKind : node.kind = .pointerDeclarator form) (hKind' : node'.kind = .pointerDeclarator form')
    (hQuals : Qualifiers.ofNodes source node.children = Qualifiers.ofNodes source' node'.children)
    (hInner : SameOperators kept (node.child? .declarator) (node'.child? .declarator)) :
    SameOperators kept (some node) (some node')
  | reference {kept : Bool} {node node' : Node} {form form' : DeclaratorForm}
    (hKind : node.kind = .referenceDeclarator form)
    (hKind' : node'.kind = .referenceDeclarator form')
    (hRvalue : node.children.any (·.kind == .doubleAmpersand) =
      node'.children.any (·.kind == .doubleAmpersand))
    (hInner : SameOperators kept node.innerDeclarator node'.innerDeclarator) :
    SameOperators kept (some node) (some node')
  | array {kept : Bool} {node node' : Node} {form form' : DeclaratorForm}
    (hKind : node.kind = .arrayDeclarator form) (hKind' : node'.kind = .arrayDeclarator form')
    (hSize : arraySize? source node.children = arraySize? source' node'.children)
    (hInner : SameOperators kept (node.child? .declarator) (node'.child? .declarator)) :
    SameOperators kept (some node) (some node')
  | function {kept : Bool} {node node' list list' : Node} {form form' : DeclaratorForm}
    (hKind : node.kind = .functionDeclarator form) (hKind' : node'.kind = .functionDeclarator form')
    (hResult : SameResult node node') (hList : node.child? .parameters = some list)
    (hList' : node'.child? .parameters = some list')
    (hEntries : SameEntries list.children list'.children)
    (hInner : SameOperators kept (node.child? .declarator) (node'.child? .declarator)) :
    SameOperators kept (some node) (some node')
  | grouped {kept : Bool} {node : Node} {place' : Option Node} (hGrouping : node.IsGrouping)
    (hInner : SameOperators kept node.innerDeclarator place') :
    SameOperators kept (some node) place'
  | groupedOther {kept : Bool} {place : Option Node} {node' : Node} (hGrouping : node'.IsGrouping)
    (hInner : SameOperators kept place node'.innerDeclarator) :
    SameOperators kept place (some node')

/-- Two function declarators have no trailing return type, or the same one. -/
inductive SameResult : Node → Node → Prop
  | nothing {node node' : Node} (hNone : node.trailingDescriptor? = none)
    (hNone' : node'.trailingDescriptor? = none) : SameResult node node'
  | type {node node' descriptor descriptor' : Node}
    (hSome : node.trailingDescriptor? = some descriptor)
    (hSome' : node'.trailingDescriptor? = some descriptor')
    (hSpecified : descriptor.specifiedType? source naming =
      descriptor'.specifiedType? source' naming)
    (hInner : SameOperators false (descriptor.child? .declarator)
      (descriptor'.child? .declarator)) : SameResult node node'

/-- Two parameter lists have the same parameters, up to their names and defaults. A parameter of
type `void` has a declarator in both or in neither. -/
inductive SameEntries : List Node → List Node → Prop
  | nil : SameEntries [] []
  | punctuation {node : Node} {nodes nodes' : List Node}
    (hKind : node.kind ∈ [.openingParenthesis, .closingParenthesis, .comma, .comment])
    (hRest : SameEntries nodes nodes') : SameEntries (node :: nodes) nodes'
  | punctuationOther {node' : Node} {nodes nodes' : List Node}
    (hKind : node'.kind ∈ [.openingParenthesis, .closingParenthesis, .comma, .comment])
    (hRest : SameEntries nodes nodes') : SameEntries nodes (node' :: nodes')
  | ellipsis {node node' : Node} {nodes nodes' : List Node}
    (hKind : node.kind ∈ [.variadicParameter, .ellipsis, .variadicParameterDeclaration])
    (hKind' : node'.kind ∈ [.variadicParameter, .ellipsis, .variadicParameterDeclaration])
    (hRest : SameEntries nodes nodes') : SameEntries (node :: nodes) (node' :: nodes')
  | parameter {node node' : Node} {nodes nodes' : List Node}
    (hKind : node.kind ∈ [.parameterDeclaration, .optionalParameterDeclaration])
    (hKind' : node'.kind ∈ [.parameterDeclaration, .optionalParameterDeclaration])
    (hSpecified : node.specifiedType? source naming = node'.specifiedType? source' naming)
    (hInner : SameOperators false (node.child? .declarator) (node'.child? .declarator))
    (hVoid : node.declaredType? source naming = some (.ofName "void") →
      (node.child? .declarator).isNone = (node'.child? .declarator).isNone)
    (hRest : SameEntries nodes nodes') : SameEntries (node :: nodes) (node' :: nodes')

end

end

variable {source source' : Bytes} {naming : Naming}

/-- A bare place adds no operator. -/
theorem declaredAt?_of_isBare {place : Option Node} (hBare : IsBare place) (t : CType) :
    declaredAt? source naming place t = some (place.bind (·.declaredName? source), t) := by
  cases place with
  | none => rfl
  | some node =>
      obtain ⟨kind, hKind⟩ := hBare node rfl
      rw [declaredAt?_name hKind, Option.bind_some, Node.declaredName?, hKind]

/-- Unless its type is `void`, it makes no difference whether a parameter has a declarator. -/
theorem ParameterTypes.withFirst_congr {t : CType} {isBare isBare' : Bool}
    (hVoid : t = .ofName "void" → isBare = isBare') (params : ParameterTypes) :
    params.withFirst isBare t = params.withFirst isBare' t := by
  cases hIsVoid : t.isVoid with
  | true => rw [hVoid (CType.isVoid_iff.mp hIsVoid)]
  | false => simp [withFirst, hIsVoid]

/-- Whether the name is kept makes no difference to the type. -/
theorem typeAt?_congr {kept : Bool} {place place' : Option Node}
    (hSame : ∀ t, (declaredAt? source naming place t).map (keepName kept) =
      (declaredAt? source' naming place' t).map (keepName kept)) :
    typeAt? source naming place = typeAt? source' naming place' := by
  funext t
  have hTypes := congrArg (Option.map Prod.snd) (hSame t)
  rwa [Option.map_map, Option.map_map] at hTypes

private theorem declaredType?_congr {node node' : Node}
    (hSpecified : node.specifiedType? source naming = node'.specifiedType? source' naming)
    (hInner : ∀ t, (declaredAt? source naming (node.child? .declarator) t).map (keepName false) =
      (declaredAt? source' naming (node'.child? .declarator) t).map (keepName false)) :
    node.declaredType? source naming = node'.declaredType? source' naming := by
  rw [Node.declaredType?, hSpecified, typeAt?_congr hInner, Node.declaredType?]

mutual

/-- **Declarators with the same operators declare the same type**, or are both refused. -/
theorem SameOperators.declaredAt?_eq : ∀ {kept : Bool} {place place' : Option Node},
    SameOperators source source' naming kept place place' → ∀ t,
      (declaredAt? source naming place t).map (keepName kept) =
        (declaredAt? source' naming place' t).map (keepName kept)
  | kept, _, _, .bare hBare hBare' hName, t => by
      rw [declaredAt?_of_isBare hBare, declaredAt?_of_isBare hBare']
      cases kept with
      | true => rw [hName rfl]
      | false => rfl
  | _, _, _, .pointer hKind hKind' hQuals hInner, t => by
      rw [declaredAt?_pointer hKind, declaredAt?_pointer hKind', hQuals, hInner.declaredAt?_eq]
  | _, _, _, .reference hKind hKind' hRvalue hInner, t => by
      rw [declaredAt?_reference hKind, declaredAt?_reference hKind', hRvalue,
        hInner.declaredAt?_eq]
  | _, _, _, .array hKind hKind' hSize hInner, t => by
      rw [declaredAt?_array hKind, declaredAt?_array hKind', hSize, hInner.declaredAt?_eq]
  | _, _, _, .function hKind hKind' hResult hList hList' hEntries hInner, t => by
      have hResult := hResult.resultType?_eq t
      have hParams := hEntries.parametersAt?_eq
      have hInside := hInner.declaredAt?_eq
      rw [declaredAt?_function hKind, declaredAt?_function hKind', hList, hList', hResult]
      simp only [Option.bind_eq_bind, Option.bind_some, Option.map_bind, Function.comp_def, hParams,
        hInside]
  | _, _, _, .grouped hGrouping hInner, t => by
      rw [declaredAt?_grouped hGrouping, hInner.declaredAt?_eq]
  | _, _, _, .groupedOther hGrouping hInner, t => by
      rw [declaredAt?_grouped hGrouping, hInner.declaredAt?_eq]

private theorem SameResult.resultType?_eq : ∀ {node node' : Node},
    SameResult source source' naming node node' → ∀ t,
      node.resultType? source naming t = node'.resultType? source' naming t
  | _, _, .nothing hNone hNone', t => by rw [Node.resultType?, hNone, Node.resultType?, hNone']
  | _, _, .type hSome hSome' hSpecified hInner, t => by
      rw [Node.resultType?, hSome, Node.resultType?, hSome']
      exact declaredType?_congr hSpecified hInner.declaredAt?_eq

/-- Parameter lists that differ in names and defaults say the same. -/
theorem SameEntries.parametersAt?_eq : ∀ {nodes nodes' : List Node},
    SameEntries source source' naming nodes nodes' →
      parametersAt? source naming nodes = parametersAt? source' naming nodes'
  | _, _, .nil => rfl
  | _, _, .punctuation hKind hRest => by
      rw [parametersAt?_punctuation hKind, hRest.parametersAt?_eq]
  | _, _, .punctuationOther hKind hRest => by
      rw [parametersAt?_punctuation hKind, hRest.parametersAt?_eq]
  | _, _, .ellipsis hKind hKind' hRest => by
      rw [parametersAt?_ellipsis hKind, parametersAt?_ellipsis hKind', hRest.parametersAt?_eq]
  | _, _, .parameter hKind hKind' hSpecified hInner hVoid hRest => by
      have hTypes := declaredType?_congr hSpecified hInner.declaredAt?_eq
      rw [parametersAt?_declared hKind, parametersAt?_declared hKind', hRest.parametersAt?_eq,
        ← hTypes]
      refine Option.bind_congr fun t hType => Option.bind_congr fun params _ => ?_
      rw [ParameterTypes.withFirst_congr]
      rintro rfl
      exact hVoid hType

end

end FunctionCatalog
