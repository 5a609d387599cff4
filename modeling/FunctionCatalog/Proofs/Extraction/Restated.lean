import FunctionCatalog.Proofs.Declaration.Unnamed
import FunctionCatalog.Proofs.Extraction.FunctionRecord
import FunctionCatalog.Proofs.Extraction.Items
import Mathlib

/-!
# The same function, declared and defined

A prototype and the definition of its function differ in the names of parameters, in defaults and
in the kind of the item, and a type name may be defined by a `typedef` or by `using`. What is kept
of an item depends on its specified type and on the operators of its declarators alone, so the two
prototypes are one, and so are the two definitions of the type name.

A `typedef` whose declarator ends in the keyword of a builtin type is not read at all
(`Naming.afterTypedef_ne_afterUsing`), while `using` takes any name.

## Main results

* `SameFunctions.outline_takeIn_eq` — a declaration and a definition add the same prototypes.
* `SameAlias.naming_eq` — a `typedef` and a `using` declaration of the same type add the same name.
* `named_unnamed_agree` — both, and the agreement of declarators that they come from.
-/

namespace FunctionCatalog

variable {source source' : Bytes} {naming : Naming}

/-! ## What is made of a name and a type -/

/-- What is made of a declaration by way of its name and type, said of the nodes that it is read
from. -/
theorem Declaration.ofNodes?_bind {α : Type} (owner declarator : Node)
    (f : Option DeclaredName × CType → Option α) :
    ((Declaration.ofNodes? source owner declarator).bind fun declaration =>
        (declaration.type? naming).bind fun t => f (declaration.name?, t)) =
      (owner.specifiedType? source naming).bind fun base =>
        (declaredAt? source naming (some declarator) base).bind f := by
  simp only [Declaration.ofNodes?, Node.specifiedType?, declaredAt?, Declarator.at?]
  cases owner.child? .type with
  | none => rfl
  | some type =>
      cases hSpecifier : Specifier.ofNode? source type with
      | none => simp [hSpecifier]
      | some specifier =>
          cases Declarator.ofNode? source declarator with
          | none => simp [hSpecifier]
          | some read =>
              simp [hSpecifier, Declaration.type?, Declaration.name?, Declarator.declared?,
                Option.bind_map]

private theorem Declaration.ofNodes?_bind_type? (owner declarator : Node) :
    (Declaration.ofNodes? source owner declarator).bind (·.type? naming) =
      (owner.specifiedType? source naming).bind (typeAt? source naming (some declarator)) := by
  have hTypeAt : typeAt? source naming (some declarator) = fun base =>
      (declaredAt? source naming (some declarator) base).bind fun declared => some declared.2 :=
    funext fun _ => Option.map_eq_bind
  rw [hTypeAt, ← Declaration.ofNodes?_bind]
  simp only [Option.bind_fun_some]

/-- The name and the signature of the free function of a name and a type. -/
def prototypeOf? (lang : Language) : Option DeclaredName × CType → Option (String × List String)
  | (some name, .function result params _ _) =>
    if name.kind.isFree then
      name.text?.map fun text => (functionName text, (result :: params).map (·.spelling lang))
    else none
  | _ => none

theorem Declaration.prototype?_eq (declaration : Declaration) :
    declaration.prototype? naming =
      (declaration.type? naming).bind fun t => prototypeOf? naming.lang (declaration.name?, t) := by
  unfold Declaration.prototype? Declaration.function?
  cases hName : declaration.name? with
  | none => cases declaration.type? naming <;> rfl
  | some name =>
      cases hType : declaration.type? naming with
      | none => cases name.kind.isFree <;> simp
      | some t =>
          cases hFree : name.kind.isFree with
          | false => cases t <;> simp [prototypeOf?, hFree]
          | true =>
              cases t with
              | function result params variadic prototyped =>
                  cases hText : name.text? <;> simp [prototypeOf?, hFree, hText]
              | named _ _ | pointer _ _ | reference _ _ | array _ _ => simp [prototypeOf?]

/-! ## Functions -/

/-- Two items, each a declaration or the definition of a function, declare the same functions. -/
structure SameFunctions (source source' : Bytes) (naming : Naming) (owner owner' : Node) :
    Prop where
  isValue : owner.kind ∈ [.declaration, .functionDefinition]
  isValue' : owner'.kind ∈ [.declaration, .functionDefinition]
  hasError_eq : owner.hasError = owner'.hasError
  specifiedType?_eq : owner.specifiedType? source naming = owner'.specifiedType? source' naming
  sameOperators : List.Forall₂
    (fun declarator declarator' =>
      SameOperators source source' naming true (some declarator) (some declarator'))
    owner.declarators owner'.declarators

/-- The prototype that a node declares with one of its declarators. -/
def Node.prototypeAt? (source : Bytes) (naming : Naming) (owner declarator : Node) :
    Option (String × List String) :=
  (owner.specifiedType? source naming).bind fun base =>
    (declaredAt? source naming (some declarator) base).bind (prototypeOf? naming.lang)

theorem Outline.foldl_add_value (declarations : List Declaration) (outline : Outline) :
    (declarations.map ItemDeclaration.value).foldl Outline.add outline =
      { outline with
        prototypes := outline.prototypes
          ++ declarations.filterMap (·.prototype? outline.naming) } := by
  induction declarations generalizing outline with
  | nil => simp
  | cons declaration rest ih =>
      rw [List.map_cons, List.foldl_cons, ih]
      cases hPrototype : declaration.prototype? outline.naming <;> simp [Outline.add, hPrototype]

/-- A declaration or definition adds the prototypes of its declarators. -/
theorem Walk.outline_takeIn (walk : Walk) {item : Item}
    (hKind : item.node.kind ∈ [.declaration, .functionDefinition])
    (hError : item.node.hasError = false) :
    (walk.takeIn source item).outline =
      { walk.outline with
        prototypes := walk.outline.prototypes
          ++ item.node.declarators.filterMap (item.node.prototypeAt? source walk.naming) } := by
  have hDefinitions : item.node.definitions source = [] := by
    simp only [List.mem_cons, List.not_mem_nil, or_false] at hKind
    rcases hKind with hKind | hKind <;> simp [Node.definitions, hKind]
  have hValues : item.node.declarations source =
      (item.node.declarators.filterMap (Declaration.ofNodes? source item.node)).map .value := by
    simp [Node.declarations, hError, hDefinitions]
  have hPrototype : ∀ declarator,
      (Declaration.ofNodes? source item.node declarator).bind (·.prototype? walk.naming) =
        item.node.prototypeAt? source walk.naming declarator := by
    intro declarator
    simp only [Declaration.prototype?_eq]
    exact Declaration.ofNodes?_bind item.node declarator (prototypeOf? walk.naming.lang)
  rw [Walk.takeIn_eq_foldl, Walk.outline_foldl_add, hValues, Outline.foldl_add_value,
    List.filterMap_filterMap]
  simp only [Walk.outline, hPrototype]

/-- With the name kept, nothing is forgotten. -/
theorem SameOperators.declaredAt?_eq_of_kept {place place' : Option Node}
    (hSame : SameOperators source source' naming true place place') (t : CType) :
    declaredAt? source naming place t = declaredAt? source' naming place' t := by
  have hKept : keepName true = id := rfl
  simpa only [hKept, Option.map_id_fun, id_eq] using hSame.declaredAt?_eq t

/-- A declaration and a definition of the same functions add the same prototypes. -/
theorem SameFunctions.outline_takeIn_eq {item item' : Item}
    (hSame : SameFunctions source source' naming item.node item'.node) {walk : Walk}
    (hNaming : walk.naming = naming) :
    (walk.takeIn source item).outline = (walk.takeIn source' item').outline := by
  subst hNaming
  cases hError : item.node.hasError with
  | true =>
      have hError' : item'.node.hasError = true := hSame.hasError_eq ▸ hError
      rw [Walk.takeIn, if_pos hError, Walk.takeIn, if_pos hError']
  | false =>
      have hError' : item'.node.hasError = false := hSame.hasError_eq ▸ hError
      rw [Walk.outline_takeIn walk hSame.isValue hError,
        Walk.outline_takeIn walk hSame.isValue' hError']
      have hPrototypes :
          item.node.declarators.filterMap (item.node.prototypeAt? source walk.naming) =
            item'.node.declarators.filterMap (item'.node.prototypeAt? source' walk.naming) := by
        refine filterMap_eq_of_forall₂ hSame.sameOperators ?_
        intro declarator declarator' hOperators
        simp only [Node.prototypeAt?, hSame.specifiedType?_eq, hOperators.declaredAt?_eq_of_kept]
      rw [hPrototypes]

/-! ## Type names -/

/-- A `typedef` with one declarator defines the name that a `using` declaration defines, as the same
type. No unnamed tag is defined with it. -/
structure SameAlias (source source' : Bytes) (naming : Naming)
    (owner declarator other descriptor : Node) : Prop where
  only : owner.childrenWith .declarator = [declarator]
  type_eq : other.child? .type = some descriptor
  noUnnamedTag : ∀ type ∈ owner.child? .type, type.isUnnamedTag = false
  specifiedType?_eq : owner.specifiedType? source naming =
    descriptor.specifiedType? source' naming
  sameOperators : SameOperators source source' naming false (some declarator)
    (descriptor.child? .declarator)
  name_eq : ((Declarator.ofNode? source declarator).bind (·.name?)).bind (·.text?) =
    (other.child? .name).bind (·.text? source')

/-- Without an unnamed tag, a `typedef` declares what its specifier and declarator say. -/
theorem Declaration.ofTypedef?_eq {owner declarator : Node}
    (hTag : ∀ type ∈ owner.child? .type, type.isUnnamedTag = false) :
    Declaration.ofTypedef? source owner declarator =
      Declaration.ofNodes? source owner declarator := by
  unfold Declaration.ofTypedef?
  cases hType : owner.child? .type with
  | none => simp [Declaration.ofNodes?, hType]
  | some type => simp [hTag type hType]

/-- A declaration has the name inside its declarator. -/
theorem Declaration.name?_of_ofNodes? {owner declarator : Node} {declaration : Declaration}
    (hRead : Declaration.ofNodes? source owner declarator = some declaration) :
    declaration.name? = (Declarator.ofNode? source declarator).bind (·.name?) := by
  simp only [Declaration.ofNodes?, Option.bind_eq_bind, Option.bind_eq_some_iff,
    Option.some.injEq] at hRead
  obtain ⟨type, -, specifier, -, read, hDeclarator, rfl⟩ := hRead
  rw [hDeclarator]
  rfl

/-- A `typedef` and a `using` declaration of the same type add the same name. -/
theorem SameAlias.naming_eq {owner declarator other descriptor : Node}
    (hSame : SameAlias source source' naming owner declarator other descriptor) :
    naming.afterTypedef source owner = naming.afterUsing source' other := by
  have hTypes : (Declaration.ofNodes? source owner declarator).bind (·.type? naming) =
      descriptor.declaredType? source' naming := by
    rw [Declaration.ofNodes?_bind_type?, hSame.specifiedType?_eq,
      typeAt?_congr hSame.sameOperators.declaredAt?_eq, Node.declaredType?]
  have hDescriptor : ((other.child? .type).bind (Declaration.ofNode? source')).bind
      (·.type? naming) = descriptor.declaredType? source' naming := by
    rw [hSame.type_eq]
    exact Declaration.ofNode?_bind_type?
  rw [Naming.afterTypedef, hSame.only, List.foldl_cons, List.foldl_nil,
    Declaration.ofTypedef?_eq hSame.noUnnamedTag, Naming.afterUsing, hDescriptor, ← hTypes,
    ← hSame.name_eq]
  cases hRead : Declaration.ofNodes? source owner declarator with
  | none => cases ((Declarator.ofNode? source declarator).bind (·.name?)).bind (·.text?) <;> rfl
  | some declaration =>
      rw [← Declaration.name?_of_ofNodes? hRead]
      rfl

/-- **Named and unnamed spellings agree.** -/
theorem named_unnamed_agree (source source' : Bytes) (naming : Naming) :
    -- the same operators make the same type of every base, or are refused in both forms; the name
    -- inside is the same one if that is asked for
    (∀ kept place place', SameOperators source source' naming kept place place' → ∀ base,
      (declaredAt? source naming place base).map (keepName kept) =
        (declaredAt? source' naming place' base).map (keepName kept)) ∧
    -- so a declaration and a definition of the same functions add the same names and signatures
    (∀ (item item' : Item) (walk : Walk), walk.naming = naming →
      SameFunctions source source' naming item.node item'.node →
        (walk.takeIn source item).outline = (walk.takeIn source' item').outline) ∧
    -- and a `typedef` and a `using` declaration define the same name as the same type
    (∀ owner declarator other descriptor,
      SameAlias source source' naming owner declarator other descriptor →
        naming.afterTypedef source owner = naming.afterUsing source' other) :=
  ⟨fun _ _ _ hSame => hSame.declaredAt?_eq,
    fun _ _ _ hNaming hSame => hSame.outline_takeIn_eq hNaming,
    fun _ _ _ _ hSame => hSame.naming_eq⟩

/-- The prototype `int f(int(*)(int));` and the definition `int f(int(*g)(int a)){}` are of one
function with one signature, and `typedef int(*F)(int a);` defines what `using F=int(*)(int);`
does. -/
theorem named_unnamed_agree_callback :
    let unnamed : Bytes :=
      [0x69, 0x6E, 0x74, 0x20, 0x66, 0x28, 0x69, 0x6E, 0x74, 0x28, 0x2A, 0x29, 0x28, 0x69,
        0x6E, 0x74, 0x29, 0x29, 0x3B]
    let named : Bytes :=
      [0x69, 0x6E, 0x74, 0x20, 0x66, 0x28, 0x69, 0x6E, 0x74, 0x28, 0x2A, 0x67, 0x29, 0x28,
        0x69, 0x6E, 0x74, 0x20, 0x61, 0x29, 0x29, 0x7B, 0x7D]
    let typedef : Bytes :=
      [0x74, 0x79, 0x70, 0x65, 0x64, 0x65, 0x66, 0x20, 0x69, 0x6E, 0x74, 0x28, 0x2A, 0x46,
        0x29, 0x28, 0x69, 0x6E, 0x74, 0x20, 0x61, 0x29, 0x3B]
    let other : Bytes :=
      [0x75, 0x73, 0x69, 0x6E, 0x67, 0x20, 0x46, 0x3D, 0x69, 0x6E, 0x74, 0x28, 0x2A, 0x29,
        0x28, 0x69, 0x6E, 0x74, 0x29, 0x3B]
    let naming : Naming := { lang := .cpp, aliases := {} }
    let callback := Node.spanning (.functionDeclarator .abstract) 9 17 (some .declarator)
      [.spanning (.parenthesizedDeclarator .abstract) 9 12 (some .declarator)
          [.spanning (.pointerDeclarator .abstract) 10 11 none []],
        .spanning (.other "parameter_list") 12 17 (some .parameters)
          [.spanning .parameterDeclaration 13 16 none
            [.spanning .primitiveType 13 16 (some .type) []]]]
    let declaration := Node.spanning .declaration 0 19 none
      [.spanning .primitiveType 0 3 (some .type) [],
        .spanning (.functionDeclarator .naming) 4 18 (some .declarator)
          [.spanning (.name .identifier) 4 5 (some .declarator) [],
            .spanning (.other "parameter_list") 5 18 (some .parameters)
              [.spanning .parameterDeclaration 6 17 none
                [.spanning .primitiveType 6 9 (some .type) [], callback]]]]
    let namedCallback := Node.spanning (.functionDeclarator .naming) 9 20 (some .declarator)
      [.spanning (.parenthesizedDeclarator .naming) 9 13 (some .declarator)
          [.spanning (.pointerDeclarator .naming) 10 12 none
            [.spanning (.name .identifier) 11 12 (some .declarator) []]],
        .spanning (.other "parameter_list") 13 20 (some .parameters)
          [.spanning .parameterDeclaration 14 19 none
            [.spanning .primitiveType 14 17 (some .type) [],
              .spanning (.name .identifier) 18 19 (some .declarator) []]]]
    let definition := Node.spanning .functionDefinition 0 23 none
      [.spanning .primitiveType 0 3 (some .type) [],
        .spanning (.functionDeclarator .naming) 4 21 (some .declarator)
          [.spanning (.name .identifier) 4 5 (some .declarator) [],
            .spanning (.other "parameter_list") 5 21 (some .parameters)
              [.spanning .parameterDeclaration 6 20 none
                [.spanning .primitiveType 6 9 (some .type) [], namedCallback]]]]
    let definedName := Node.spanning (.functionDeclarator .naming) 11 22 (some .declarator)
      [.spanning (.parenthesizedDeclarator .naming) 11 15 (some .declarator)
          [.spanning (.pointerDeclarator .naming) 12 14 none
            [.spanning (.name .type) 13 14 (some .declarator) []]],
        .spanning (.other "parameter_list") 15 22 (some .parameters)
          [.spanning .parameterDeclaration 16 21 none
            [.spanning .primitiveType 16 19 (some .type) [],
              .spanning (.name .identifier) 20 21 (some .declarator) []]]]
    let owner := Node.spanning .typeDefinition 0 23 none
      [.spanning .primitiveType 8 11 (some .type) [], definedName]
    let descriptor := Node.spanning .typeDescriptor 8 19 (some .type)
      [.spanning .primitiveType 8 11 (some .type) [],
        .spanning (.functionDeclarator .abstract) 11 19 (some .declarator)
          [.spanning (.parenthesizedDeclarator .abstract) 11 14 (some .declarator)
              [.spanning (.pointerDeclarator .abstract) 12 13 none []],
            .spanning (.other "parameter_list") 14 19 (some .parameters)
              [.spanning .parameterDeclaration 15 18 none
                [.spanning .primitiveType 15 18 (some .type) []]]]]
    let usage := Node.spanning .aliasDeclaration 0 20 none
      [.spanning (.name .type) 6 7 (some .name) [], descriptor]
    (Walk.takeIn unnamed { naming } ⟨declaration, []⟩).outline =
        (Walk.takeIn named { naming } ⟨definition, []⟩).outline ∧
      (Walk.takeIn unnamed { naming } ⟨declaration, []⟩).outline.prototypes =
        [("f", ["int", "int (*)(int)"])] ∧
      naming.afterTypedef typedef owner = naming.afterUsing other usage ∧
      (naming.afterTypedef typedef owner).locals =
        [("F", .pointer (.function (.ofName "int") [.ofName "int"] false true) ∅)] := by
  intro unnamed named typedef other naming callback declaration namedCallback definition definedName
    owner descriptor usage
  have hBare : ∀ (source source' : Bytes) (place place' : Option Node),
      IsBare place → IsBare place' → SameOperators source source' naming false place place' :=
    fun _ _ _ _ hBare hBare' => .bare hBare hBare' fun hKept => absurd hKept Bool.false_ne_true
  have hName : ∀ (kind : NameKind) (start stop : Nat),
      IsBare (some (Node.spanning (.name kind) start stop (some .declarator) [])) := by
    rintro kind start stop _ ⟨⟩
    exact ⟨kind, rfl⟩
  have hNothing : IsBare none := fun _ hNode => absurd hNode (by simp)
  have hNotVoid : ¬ some (CType.ofName "int") = some (CType.ofName "void") := by simp [CType.ofName]
  have hCallback : SameOperators unnamed named naming false (some callback) (some namedCallback) :=
    .function rfl rfl (.nothing rfl rfl) rfl rfl
      (.parameter (by decide) (by decide) rfl (hBare _ _ none _ hNothing (hName .identifier 18 19))
        (fun hVoid => absurd hVoid hNotVoid) .nil)
      (.grouped (.inl ⟨_, rfl⟩) (.groupedOther (.inl ⟨_, rfl⟩)
        (.pointer rfl rfl rfl (hBare _ _ none _ hNothing (hName .identifier 11 12)))))
  have hFunctions : SameFunctions unnamed named naming declaration definition :=
    { isValue := by decide
      isValue' := by decide
      hasError_eq := rfl
      specifiedType?_eq := rfl
      sameOperators := .cons
        (.function rfl rfl (.nothing rfl rfl) rfl rfl
          (.parameter (by decide) (by decide) rfl hCallback (fun _ => rfl) .nil)
          (.bare (hName .identifier 4 5) (hName .identifier 4 5) fun _ => rfl)) .nil }
  have hAlias : SameAlias typedef other naming owner definedName usage descriptor :=
    { only := rfl
      type_eq := rfl
      noUnnamedTag := by
        rintro _ ⟨⟩
        rfl
      specifiedType?_eq := rfl
      sameOperators :=
        .function rfl rfl (.nothing rfl rfl) rfl rfl
          (.parameter (by decide) (by decide) rfl
            (hBare _ _ _ none (hName .identifier 20 21) hNothing)
            (fun hVoid => absurd hVoid hNotVoid) .nil)
          (.grouped (.inl ⟨_, rfl⟩) (.groupedOther (.inl ⟨_, rfl⟩)
            (.pointer rfl rfl rfl (hBare _ _ _ none (hName .type 13 14) hNothing))))
      name_eq := rfl }
  refine ⟨(named_unnamed_agree unnamed named naming).2.1 ⟨declaration, []⟩ ⟨definition, []⟩
      { naming } rfl hFunctions, ?_,
    (named_unnamed_agree typedef other naming).2.2 owner definedName usage descriptor hAlias, ?_⟩
  · rfl
  · rfl

/-- In `typedef unsigned int size_t;`, the name that is defined is the keyword of a builtin type
for the grammar, and as such it is no declarator. So the `typedef` adds nothing, while `using
size_t=unsigned int;`, which specifies the same type without an operator, adds the name. -/
theorem Naming.afterTypedef_ne_afterUsing :
    let typedef : Bytes :=
      [0x74, 0x79, 0x70, 0x65, 0x64, 0x65, 0x66, 0x20, 0x75, 0x6E, 0x73, 0x69, 0x67, 0x6E,
        0x65, 0x64, 0x20, 0x69, 0x6E, 0x74, 0x20, 0x73, 0x69, 0x7A, 0x65, 0x5F, 0x74, 0x3B]
    let other : Bytes :=
      [0x75, 0x73, 0x69, 0x6E, 0x67, 0x20, 0x73, 0x69, 0x7A, 0x65, 0x5F, 0x74, 0x3D, 0x75,
        0x6E, 0x73, 0x69, 0x67, 0x6E, 0x65, 0x64, 0x20, 0x69, 0x6E, 0x74, 0x3B]
    let naming : Naming := { lang := .cpp, aliases := {} }
    let owner := Node.spanning .typeDefinition 0 28 none
      [.spanning .sizedTypeSpecifier 8 20 (some .type) [],
        .spanning .primitiveType 21 27 (some .declarator) []]
    let descriptor := Node.spanning .typeDescriptor 13 25 (some .type)
      [.spanning .sizedTypeSpecifier 13 25 (some .type) []]
    let usage := Node.spanning .aliasDeclaration 0 26 none
      [.spanning (.name .type) 6 12 (some .name) [], descriptor]
    owner.specifiedType? typedef naming = some (.ofName "unsigned int") ∧
      descriptor.specifiedType? other naming = some (.ofName "unsigned int") ∧
      descriptor.child? .declarator = none ∧
      (naming.afterTypedef typedef owner).locals = [] ∧
      (naming.afterUsing other usage).locals = [("size_t", .ofName "unsigned int")] := by
  intro typedef other naming owner descriptor usage
  exact ⟨by cbv, by cbv, rfl, rfl, by cbv⟩

end FunctionCatalog
