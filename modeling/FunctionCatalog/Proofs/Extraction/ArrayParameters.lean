import FunctionCatalog.Proofs.CType.Unambiguous
import FunctionCatalog.Proofs.Declaration.Unnamed
import FunctionCatalog.Proofs.Extraction.References
import Mathlib

/-!
# Parameters declared as arrays

A parameter of an array type is a pointer to the elements, and what stands in the brackets besides
the size qualifies that pointer: `T a[Q n]` declares what `T *Q a` declares. The operator next to
the name decides which of the two a parameter is, whatever operators the declarator has outside it.
The pointer takes the qualifiers behind its star. The brackets give the size alone, so the pointer
that an array becomes has no qualifiers, and the two parameters are spelled alike when there were
none to take.

## Main results

* `NearestOperator.exists_applied` — the operator next to the name is applied last.
* `CType.spelling_pointerTo_eq_iff` — qualifiers of a pointer show in its spelling.
* `Node.IsParameter.array_spelled_as_pointer_iff` — arrays and pointers as parameters.
-/

namespace FunctionCatalog

open LinkageGuard (ascii)

namespace Node

/-- A declarator that adds an operator to the one inside. -/
def IsOperator (node : Node) : Prop :=
  ∃ form, node.kind = .pointerDeclarator form ∨ node.kind = .referenceDeclarator form ∨
    node.kind = .arrayDeclarator form ∨ node.kind = .functionDeclarator form

/-- The place of the declarator inside an operator or a grouping. -/
def inside (node : Node) : Option Node :=
  match node.kind with
  | .referenceDeclarator _ | .parenthesizedDeclarator _ | .attributedDeclarator
  | .initDeclarator => node.innerDeclarator
  | _ => node.child? .declarator

private theorem inside_of_isGrouping {node : Node} (hGrouping : node.IsGrouping) :
    node.inside = node.innerDeclarator := by
  obtain ⟨form, hKind⟩ | hKind | hKind := hGrouping <;> simp only [inside, hKind]

end Node

/-- No operator stands at the place of a declarator: a name or nothing does, perhaps grouped. -/
inductive HasNoOperator : Option Node → Prop
  | bare {place : Option Node} (hBare : IsBare place) : HasNoOperator place
  | grouped {node : Node} (hGrouping : node.IsGrouping) (hInner : HasNoOperator node.inside) :
    HasNoOperator (some node)

/-- The operator next to the name, or to the place of a name, in a declarator. -/
inductive NearestOperator : Option Node → Node → Prop
  | here {operator : Node} (hOperator : operator.IsOperator)
    (hInside : HasNoOperator operator.inside) : NearestOperator (some operator) operator
  | inside {node operator : Node} (hNode : node.IsOperator ∨ node.IsGrouping)
    (hInner : NearestOperator node.inside operator) : NearestOperator (some node) operator

section

variable {source : Bytes} {naming : Naming}

/-! ## The operator that is applied last -/

private theorem typeAt?_grouped {node : Node} (hGrouping : node.IsGrouping) (t : CType) :
    typeAt? source naming (some node) t = typeAt? source naming node.inside t := by
  rw [typeAt?, declaredAt?_grouped hGrouping, Node.inside_of_isGrouping hGrouping, typeAt?]

private theorem HasNoOperator.typeAt?_eq {place : Option Node} (hNone : HasNoOperator place)
    (t : CType) :
    typeAt? source naming place t = some t := by
  induction hNone with
  | bare hBare => rw [typeAt?, declaredAt?_of_isBare hBare, Option.map_some]
  | grouped hGrouping _ ih => rw [typeAt?_grouped hGrouping, ih]

/-- What is declared is declared by the declarator inside, of some other type. -/
theorem exists_typeAt?_inside {node : Node} {t r : CType}
    (hNode : node.IsOperator ∨ node.IsGrouping)
    (hType : typeAt? source naming (some node) t = some r) :
    ∃ t', typeAt? source naming node.inside t' = some r := by
  obtain ⟨form, hKind | hKind | hKind | hKind⟩ | hGrouping := hNode
  · rw [typeAt?, declaredAt?_pointer hKind] at hType
    exact ⟨_, by rwa [Node.inside, hKind]⟩
  · rw [typeAt?, declaredAt?_reference hKind] at hType
    exact ⟨_, by rwa [Node.inside, hKind]⟩
  · rw [typeAt?, declaredAt?_array hKind] at hType
    exact ⟨_, by rwa [Node.inside, hKind]⟩
  · rw [typeAt?, declaredAt?_function hKind] at hType
    simp only [Option.bind_eq_bind, Option.map_eq_some_iff, Option.bind_eq_some_iff] at hType
    obtain ⟨declared, ⟨-, -, -, -, -, -, function, -, hInner⟩, hType⟩ := hType
    refine ⟨function, ?_⟩
    rw [Node.inside, hKind, typeAt?, hInner, Option.map_some, hType]
  · exact ⟨t, by rwa [← typeAt?_grouped hGrouping]⟩

/-- The operator next to the name is applied last. -/
theorem NearestOperator.exists_applied {place : Option Node} {operator : Node}
    (hNearest : NearestOperator place operator) {t r : CType}
    (hType : typeAt? source naming place t = some r) :
    operator.IsOperator ∧ HasNoOperator operator.inside ∧
      ∃ t', typeAt? source naming (some operator) t' = some r := by
  induction hNearest generalizing t with
  | here hOperator hInside => exact ⟨hOperator, hInside, t, hType⟩
  | inside hNode _ ih =>
      obtain ⟨t', hInner⟩ := exists_typeAt?_inside hNode hType
      exact ih hInner

/-- Brackets next to the name declare an array. -/
theorem NearestOperator.exists_array {place : Option Node} {brackets : Node}
    {form : DeclaratorForm} (hNearest : NearestOperator place brackets)
    (hKind : brackets.kind = .arrayDeclarator form) {t r : CType}
    (hType : typeAt? source naming place t = some r) :
    ∃ element, r = .array element (arraySize? source brackets.children) := by
  obtain ⟨-, hInside, element, hApplied⟩ := hNearest.exists_applied hType
  rw [Node.inside, hKind] at hInside
  rw [typeAt?, declaredAt?_array hKind, ← typeAt?, hInside.typeAt?_eq] at hApplied
  exact ⟨element, (Option.some.inj hApplied).symm⟩

/-- A star next to the name declares a pointer, with the qualifiers behind the star. -/
theorem NearestOperator.exists_pointer {place : Option Node} {star : Node}
    {form : DeclaratorForm} (hNearest : NearestOperator place star)
    (hKind : star.kind = .pointerDeclarator form) {t r : CType}
    (hType : typeAt? source naming place t = some r) :
    ∃ pointee, r = .pointer pointee (Qualifiers.ofNodes source star.children) := by
  obtain ⟨-, hInside, pointee, hApplied⟩ := hNearest.exists_applied hType
  rw [Node.inside, hKind] at hInside
  rw [typeAt?, declaredAt?_pointer hKind, ← typeAt?, hInside.typeAt?_eq] at hApplied
  exact ⟨pointee, (Option.some.inj hApplied).symm⟩

end

/-! ## Spellings of pointers -/

private theorem enclosedIf_injective {asked : Bool} {text text' : String}
    (hSame : enclosedIf asked text = enclosedIf asked text') : text = text' := by
  cases asked with
  | false => exact hSame
  | true => simpa [enclosedIf] using hSame

namespace CType

/-- Qualifiers of a pointer show in its spelling. -/
theorem spelling_pointerTo_eq_iff (lang : Language) (t : CType) (quals : Qualifiers) :
    (pointerTo t).spelling lang = (pointer t quals).spelling lang ↔ quals = ∅ := by
  refine ⟨fun hSame => ?_, fun hNone => by rw [hNone, pointerTo]⟩
  have hStar (quals : Qualifiers) : (TypeLayer.pointer quals).beside lang "" =
      "*" ++ quals.spelling lang := by
    by_cases hNone : quals = ∅
    · simp [TypeLayer.beside, hNone, Qualifiers.spelling_empty]
    · simp [TypeLayer.beside, hNone, blankBefore]
  have hAround (quals : Qualifiers) := spellAround_onto lang (.pointer quals) t ""
  simp only [TypeLayer.onto, hStar] at hAround
  rw [pointerTo, spelling, spelling, hAround, hAround] at hSame
  have hInner := spellAround_injective (enclosedIf_ne_empty (by simp))
    (enclosedIf_ne_empty (by simp)) hSame
  have hQuals : (∅ : Qualifiers).spelling lang = quals.spelling lang := by
    simpa using enclosedIf_injective hInner
  exact (Qualifiers.spelling_inj hQuals).symm

/-- Adjustment leaves qualifiers at the top of a type. -/
theorem adjustedParameter_qualified {t : CType} (hFront : t.bindsBehindName = false)
    (quals : Qualifiers) : (t.qualified quals).adjustedParameter = t.qualified quals := by
  cases t with
  | named | pointer | reference => rfl
  | array | function => contradiction

end CType

/-! ## Parameters -/

namespace Node

/-- A parameter of type `t` that has `operator` next to its name. -/
structure IsParameter (source : Bytes) (naming : Naming) (param operator : Node) (t : CType) :
    Prop where
  kind_mem : param.kind ∈ [.parameterDeclaration, .optionalParameterDeclaration]
  nearest : NearestOperator (param.child? .declarator) operator
  type_eq : param.declaredType? source naming = some t

namespace IsParameter

variable {source : Bytes} {naming : Naming} {param operator : Node} {t : CType}

private theorem exists_typeAt? (hParam : param.IsParameter source naming operator t) :
    ∃ base, typeAt? source naming (param.child? .declarator) base = some t := by
  have hType := hParam.type_eq
  rw [declaredType?, Option.bind_eq_some_iff] at hType
  obtain ⟨base, -, hAt⟩ := hType
  exact ⟨base, hAt⟩

/-- The parameter stands in the list with its adjusted type. -/
theorem parametersAt?_cons (hParam : param.IsParameter source naming operator t)
    (rest : List Node) :
    parametersAt? source naming (param :: rest) = (parametersAt? source naming rest).map
      fun params => { params with types := t.adjustedParameter :: params.types } := by
  have hDeclarator : (param.child? .declarator).isNone = false := by
    have hNearest := hParam.nearest
    generalize param.child? .declarator = place at hNearest
    cases hNearest <;> rfl
  rw [parametersAt?_declared hParam.kind_mem, hParam.type_eq, hDeclarator]
  simp only [Option.bind_eq_bind, Option.bind_some, ParameterTypes.withFirst, Bool.false_and]
  exact Option.map_eq_bind.symm

end IsParameter

/-- **Arrays and pointers as parameters.** With brackets next to its name, a parameter is an array
of some `element`, and stands in the list as a plain pointer to it. With a star there, it is a
pointer with the qualifiers behind the star. If these are the `quals` in the brackets, and the
pointer is one to `element`, then the two are spelled alike when there are no qualifiers, and only
then. -/
theorem IsParameter.array_spelled_as_pointer_iff {source source' : Bytes} {naming naming' : Naming}
    {array pointer brackets star : Node} {form form' : DeclaratorForm} {t t' : CType}
    (hArray : array.IsParameter source naming brackets t)
    (hBrackets : brackets.kind = .arrayDeclarator form)
    (hPointer : pointer.IsParameter source' naming' star t')
    (hStar : star.kind = .pointerDeclarator form')
    (hQuals : Qualifiers.ofNodes source' star.children =
      Qualifiers.ofNodes source brackets.children) :
    let quals := Qualifiers.ofNodes source brackets.children
    ∃ element pointee,
      t = .array element (arraySize? source brackets.children) ∧ t' = .pointer pointee quals ∧
      (∀ rest, parametersAt? source naming (array :: rest) =
        (parametersAt? source naming rest).map
          fun params => { params with types := .pointerTo element :: params.types }) ∧
      (∀ rest, parametersAt? source' naming' (pointer :: rest) =
        (parametersAt? source' naming' rest).map
          fun params => { params with types := .pointer pointee quals :: params.types }) ∧
      -- The pointer is the one that the array becomes, once it has the qualifiers.
      (element = pointee →
        (CType.pointerTo element).qualified quals = .pointer pointee quals ∧
        ∀ lang, (CType.pointerTo element).spelling lang =
          (CType.pointer pointee quals).spelling lang ↔ quals = ∅) ∧
      -- Whatever is no array and no function keeps the qualifiers at its top.
      ∀ (other : CType) extra, other.bindsBehindName = false →
        (other.qualified extra).adjustedParameter = other.qualified extra := by
  intro quals
  obtain ⟨base, hType⟩ := hArray.exists_typeAt?
  obtain ⟨element, rfl⟩ := hArray.nearest.exists_array hBrackets hType
  obtain ⟨base', hType'⟩ := hPointer.exists_typeAt?
  obtain ⟨pointee, hPointee⟩ := hPointer.nearest.exists_pointer hStar hType'
  obtain rfl : t' = .pointer pointee quals := hPointee.trans (by rw [hQuals])
  refine ⟨element, pointee, rfl, rfl, hArray.parametersAt?_cons, hPointer.parametersAt?_cons,
    ?_, fun other extra hFront => CType.adjustedParameter_qualified hFront extra⟩
  rintro rfl
  refine ⟨?_, fun lang => CType.spelling_pointerTo_eq_iff lang element _⟩
  rw [CType.pointerTo, CType.qualified, Qualifiers.empty_merge]

/-- The parameters `int *a[static 3][4]` and `int *(*a)[4]` are both `int *(*)[4]`. The parameter
`int a[const 4]` is the pointer that `int *const a` is without its `const`, and spelled
otherwise. -/
theorem IsParameter.array_spelled_as_pointer_static :
    let source := ascii "int *a[static 3][4]"
    let source' := ascii "int *(*a)[4]"
    let constSource := ascii "int a[const 4]"
    let constSource' := ascii "int *const a"
    let naming : Naming := { lang := .c, aliases := {} }
    let type := spanning .primitiveType 0 3 (some .type) []
    let brackets := spanning (.arrayDeclarator .naming) 5 16 (some .declarator)
      [spanning (.name .identifier) 5 6 (some .declarator) [],
        spanning (.other "static") 7 13 none [],
        spanning (.other "number_literal") 14 15 (some .size) []]
    let array := spanning .parameterDeclaration 0 19 none
      [type, spanning (.pointerDeclarator .naming) 4 19 (some .declarator)
        [spanning (.arrayDeclarator .naming) 5 19 (some .declarator)
          [brackets, spanning (.other "number_literal") 17 18 (some .size) []]]]
    let star := spanning (.pointerDeclarator .naming) 6 8 none
      [spanning (.name .identifier) 7 8 (some .declarator) []]
    let pointer := spanning .parameterDeclaration 0 12 none
      [type, spanning (.pointerDeclarator .naming) 4 12 (some .declarator)
        [spanning (.arrayDeclarator .naming) 5 12 (some .declarator)
          [spanning (.parenthesizedDeclarator .naming) 5 9 (some .declarator) [star],
            spanning (.other "number_literal") 10 11 (some .size) []]]]
    let constBrackets := spanning (.arrayDeclarator .naming) 4 14 (some .declarator)
      [spanning (.name .identifier) 4 5 (some .declarator) [],
        spanning .typeQualifier 6 11 none [],
        spanning (.other "number_literal") 12 13 (some .size) []]
    let constArray := spanning .parameterDeclaration 0 14 none [type, constBrackets]
    let constStar := spanning (.pointerDeclarator .naming) 4 12 (some .declarator)
      [spanning .typeQualifier 5 10 none [],
        spanning (.name .identifier) 11 12 (some .declarator) []]
    let constPointer := spanning .parameterDeclaration 0 12 none [type, constStar]
    let element : CType := .array (.pointerTo (.ofName "int")) (some "4")
    let int : CType := .ofName "int"
    -- no qualifiers
    (array.IsParameter source naming brackets (.array element (some "3")) ∧
      pointer.IsParameter source' naming star (.pointer element ∅) ∧
      (CType.pointerTo element).spelling .c = (CType.pointer element ∅).spelling .c ∧
      (CType.pointerTo element).spelling .c = "int *(*)[4]") ∧
    -- one qualifier
    constArray.IsParameter constSource naming constBrackets (.array int (some "4")) ∧
      constPointer.IsParameter constSource' naming constStar
        (.pointer int { isConst := true }) ∧
      (CType.pointerTo int).qualified { isConst := true } = .pointer int { isConst := true } ∧
      ∀ lang, (CType.pointerTo int).spelling lang ≠
        (CType.pointer int { isConst := true }).spelling lang := by
  intro source source' constSource constSource' naming type brackets array star pointer
    constBrackets constArray constStar constPointer element int
  have hNamed (node : Node) (hName : node.kind = .name .identifier) :
      HasNoOperator (some node) :=
    .bare fun other hOther => ⟨.identifier, by rwa [← Option.some.inj hOther]⟩
  have hBrackets : NearestOperator (array.child? .declarator) brackets :=
    .inside (.inl ⟨.naming, .inl rfl⟩) <| .inside (.inl ⟨.naming, .inr (.inr (.inl rfl))⟩) <|
      .here ⟨.naming, .inr (.inr (.inl rfl))⟩ (hNamed _ rfl)
  have hStar : NearestOperator (pointer.child? .declarator) star :=
    .inside (.inl ⟨.naming, .inl rfl⟩) <| .inside (.inl ⟨.naming, .inr (.inr (.inl rfl))⟩) <|
      .inside (.inr (.inl ⟨.naming, rfl⟩)) <| .here ⟨.naming, .inl rfl⟩ (hNamed _ rfl)
  have hArray : array.IsParameter source naming brackets (.array element (some "3")) :=
    ⟨List.mem_cons_self, hBrackets, rfl⟩
  have hPointer : pointer.IsParameter source' naming star (.pointer element ∅) :=
    ⟨List.mem_cons_self, hStar, rfl⟩
  have hConstArray :
      constArray.IsParameter constSource naming constBrackets (.array int (some "4")) :=
    ⟨List.mem_cons_self, .here ⟨.naming, .inr (.inr (.inl rfl))⟩ (hNamed _ rfl), rfl⟩
  have hConstPointer : constPointer.IsParameter constSource' naming constStar
      (.pointer int { isConst := true }) :=
    ⟨List.mem_cons_self, .here ⟨.naming, .inl rfl⟩ (hNamed _ rfl), rfl⟩
  obtain ⟨_, _, hElement, hPointee, -, -, hAlike, -⟩ :=
    hArray.array_spelled_as_pointer_iff rfl hPointer rfl rfl
  cases hElement
  cases hPointee
  obtain ⟨-, hSpelling⟩ := hAlike rfl
  obtain ⟨_, _, hElement, hPointee, -, -, hConstAlike, -⟩ :=
    hConstArray.array_spelled_as_pointer_iff rfl hConstPointer rfl rfl
  cases hElement
  cases hPointee
  obtain ⟨hQualified, hConstSpelling⟩ := hConstAlike rfl
  exact ⟨⟨hArray, hPointer, (hSpelling .c).mpr rfl, by decide⟩, hConstArray, hConstPointer,
    hQualified, fun lang hSame => absurd ((hConstSpelling lang).mp hSame) (by decide)⟩

/-- The prototypes `void f(int a[const 4]);` and `void f(int *const a);` declare one function, and
are recorded with different signatures. -/
theorem array_qualifiers_dropped :
    let source := ascii "void f(int a[const 4]);"
    let source' := ascii "void f(int *const a);"
    let naming : Naming := { lang := .c, aliases := {} }
    let function (stop : Nat) (declarator : Node) :=
      spanning (.other "translation_unit") 0 stop none
        [spanning .declaration 0 stop none
          [spanning .primitiveType 0 4 (some .type) [],
            spanning (.functionDeclarator .naming) 5 (stop - 1) (some .declarator)
              [spanning (.name .identifier) 5 6 (some .declarator) [],
                spanning (.other "parameter_list") 6 (stop - 1) (some .parameters)
                  [spanning .parameterDeclaration 7 (stop - 2) none
                    [spanning .primitiveType 7 10 (some .type) [], declarator]]]]]
    let array := function 23 <| spanning (.arrayDeclarator .naming) 11 21 (some .declarator)
      [spanning (.name .identifier) 11 12 (some .declarator) [],
        spanning .typeQualifier 13 18 none [],
        spanning (.other "number_literal") 19 20 (some .size) []]
    let pointer := function 21 <| spanning (.pointerDeclarator .naming) 11 19 (some .declarator)
      [spanning .typeQualifier 12 17 none [],
        spanning (.name .identifier) 18 19 (some .declarator) []]
    (array.walkItems source naming).records.map FunctionRecord.prototype =
        [("f", ["void", "int *"])] ∧
      (pointer.walkItems source' naming).records.map FunctionRecord.prototype =
        [("f", ["void", "int *const"])] := by
  intro source source' naming function array pointer
  let declared (declarator : Declarator) : Declaration := .mk (.name "void") ∅
    (.function none [.declared (.mk (.name "int") ∅ declarator)]
      (.name ⟨.identifier, some "f"⟩))
  let name : Declarator := .name ⟨.identifier, some "a"⟩
  have hArray : array.fileDeclarations source =
      [.value (declared (.array (some "4") name))] := rfl
  have hPointer : pointer.fileDeclarations source' =
      [.value (declared (.pointer { isConst := true } name))] := rfl
  have hArrayPrototype : (declared (.array (some "4") name)).prototype? naming =
      some ("f", ["void", "int *"]) := by decide
  have hPointerPrototype : (declared (.pointer { isConst := true } name)).prototype? naming =
      some ("f", ["void", "int *const"]) := by decide
  constructor
  · rw [prototypes_walkItems, hArray]
    simp only [List.foldl_cons, List.foldl_nil, Outline.add, hArrayPrototype, Option.toList_some,
      List.nil_append]
  · rw [prototypes_walkItems, hPointer]
    simp only [List.foldl_cons, List.foldl_nil, Outline.add, hPointerPrototype, Option.toList_some,
      List.nil_append]

end Node

end FunctionCatalog
