import FunctionCatalog.Extraction.Walk
import FunctionCatalog.Proofs.Declaration.Exhaustive

/-!
# Which declarators give records

A declarator gives a record if the name inside is a plain identifier or an operator and the type of
the name is a function. If the specified type is no function, that depends on nothing but the
operator nearest the name: a function that returns a pointer gives a record, a pointer to a function
does not.

## Main results

* `Declares.recorded` — what is read of a chain of operators around a name, and when it gives a
  record.
* `exists_declares_of_functionRecord?` — nothing but such a chain gives a record.
-/

namespace FunctionCatalog

/-- Whether a type is that of a function. -/
def CType.isFunction : CType → Bool
  | .function .. => true
  | .named .. | .pointer .. | .reference .. | .array .. => false

private theorem CType.isFunction_iff {t : CType} :
    t.isFunction = true ↔
      ∃ result params variadic prototyped, t = .function result params variadic prototyped := by
  cases t <;> simp [isFunction]

@[simp] theorem DeclaratorOperator.isFunction_applied (operator : DeclaratorOperator) (t : CType) :
    (operator.applied t).isFunction = operator.isFunction := by
  cases operator <;> rfl

theorem NameKind.isFree_iff {kind : NameKind} :
    kind.isFree = true ↔ kind = .identifier ∨ kind = .operator := by
  cases kind <;> simp [isFree]

/-- The operator nearest the name decides whether a function is declared, unless there is none. -/
theorem isFunction_declaredType {base : CType} (hBase : base.isFunction = false)
    (chain : List DeclaratorOperator) :
    (declaredType base chain).isFunction = true ↔
      ∃ nearest outer, chain = nearest :: outer ∧ nearest.isFunction = true := by
  cases chain with
  | nil => simp [declaredType, hBase]
  | cons nearest outer => simp [declaredType]

variable {source : Bytes} {naming : Naming}

theorem Declaration.function?_eq_some_iff {declaration : Declaration} {name : String}
    {types : List CType} :
    declaration.function? naming = some (name, types) ↔
      ∃ declared text result params variadic prototyped,
        declaration.name? = some declared ∧ declared.kind.isFree = true ∧
          declared.text? = some text ∧
          declaration.type? naming = some (.function result params variadic prototyped) ∧
          name = functionName text ∧ types = result :: params := by
  constructor
  · intro hFunction
    simp only [Declaration.function?, Option.bind_eq_bind, Option.bind_eq_some_iff] at hFunction
    obtain ⟨declared, hName, hFunction⟩ := hFunction
    split at hFunction
    · rename_i hFree
      obtain ⟨t, hType, hFunction⟩ := Option.bind_eq_some_iff.mp hFunction
      split at hFunction
      · rename_i result params variadic prototyped
        obtain ⟨text, hText, hPair⟩ := Option.bind_eq_some_iff.mp hFunction
        simp only [Option.some.injEq, Prod.mk.injEq] at hPair
        exact ⟨declared, text, result, params, variadic, prototyped, hName, hFree, hText, hType,
          hPair.1.symm, hPair.2.symm⟩
      · simp at hFunction
    · simp at hFunction
  · rintro ⟨declared, text, result, params, variadic, prototyped, hName, hFree, hText, hType,
      rfl, rfl⟩
    simp [Declaration.function?, hName, hFree, hText, hType]

/-- A declarator gives a record if it declares a function by a plain name or an operator. -/
theorem functionRecord?_eq_some_iff {before : List Node} {owner declarator : Node}
    {record : FunctionRecord} :
    functionRecord? source naming before owner declarator = some record ↔
      ∃ declaration name types, Declaration.ofNodes? source owner declarator = some declaration ∧
        declaration.function? naming = some (name, types) ∧
        record =
          { name
            signature := types.map (·.spelling naming.lang)
            commentTokens := owner.commentTokens source before } := by
  simp only [functionRecord?, Option.bind_eq_bind, Option.bind_eq_some_iff, Option.some.injEq]
  constructor
  · rintro ⟨declaration, hRead, ⟨name, types⟩, hFunction, rfl⟩
    exact ⟨declaration, name, types, hRead, hFunction, rfl⟩
  · rintro ⟨declaration, name, types, hRead, hFunction, rfl⟩
    exact ⟨declaration, hRead, (name, types), hFunction, rfl⟩

/-- What a declaration with a known name and type gives. -/
theorem functionRecord?_eq_some_iff_of_read {before : List Node} {owner declarator : Node}
    {declaration : Declaration} {kind : NameKind} {text : String} {t : CType}
    {record : FunctionRecord}
    (hRead : Declaration.ofNodes? source owner declarator = some declaration)
    (hName : declaration.name? = some ⟨kind, some text⟩)
    (hType : declaration.type? naming = some t) :
    functionRecord? source naming before owner declarator = some record ↔
      kind.isFree = true ∧ ∃ result params variadic prototyped,
        t = .function result params variadic prototyped ∧
          record =
            { name := functionName text
              signature := (result :: params).map (·.spelling naming.lang)
              commentTokens := owner.commentTokens source before } := by
  rw [functionRecord?_eq_some_iff]
  constructor
  · rintro ⟨other, name, types, hOther, hFunction, rfl⟩
    obtain rfl : declaration = other := Option.some.inj (hRead.symm.trans hOther)
    obtain ⟨declared, otherText, result, params, variadic, prototyped, hOtherName, hFree,
      hOtherText, hOtherType, rfl, rfl⟩ := Declaration.function?_eq_some_iff.mp hFunction
    obtain rfl : ⟨kind, some text⟩ = declared := Option.some.inj (hName.symm.trans hOtherName)
    obtain rfl : text = otherText := Option.some.inj hOtherText
    have hFunctionType := Option.some.inj (hType.symm.trans hOtherType)
    exact ⟨hFree, result, params, variadic, prototyped, hFunctionType, rfl⟩
  · rintro ⟨hFree, result, params, variadic, prototyped, rfl, rfl⟩
    refine ⟨declaration, functionName text, result :: params, hRead, ?_, rfl⟩
    exact Declaration.function?_eq_some_iff.mpr ⟨_, text, result, params, variadic, prototyped,
      hName, hFree, rfl, hType, rfl, rfl⟩

theorem ofNodes?_eq_some_iff {owner declarator : Node} {declaration : Declaration} :
    Declaration.ofNodes? source owner declarator = some declaration ↔
      ∃ type specifier read, owner.child? .type = some type ∧
        Specifier.ofNode? source type = some specifier ∧
        Declarator.ofNode? source declarator = some read ∧
        declaration = .mk specifier (Qualifiers.ofNodes source owner.children) read := by
  simp only [Declaration.ofNodes?, Option.bind_eq_bind, Option.bind_eq_some_iff,
    Option.some.injEq]
  constructor
  · rintro ⟨type, hType, specifier, hSpecifier, read, hRead, rfl⟩
    exact ⟨type, specifier, read, hType, hSpecifier, hRead, rfl⟩
  · rintro ⟨type, specifier, read, hType, hSpecifier, hRead, rfl⟩
    exact ⟨type, hType, specifier, hSpecifier, read, hRead, rfl⟩

/-- A record comes from a chain of operators around a plain name or an operator, and from a chain
that declares a function. -/
theorem exists_declares_of_functionRecord? {before : List Node} {owner declarator : Node}
    {record : FunctionRecord}
    (hRecord : functionRecord? source naming before owner declarator = some record) :
    ∃ base chain name, owner.specifiedType? source naming = some base ∧
      Declares source naming declarator chain (some name) ∧
      (name.kind = .name .identifier ∨ name.kind = .name .operator) ∧
      (declaredType base chain).isFunction = true := by
  obtain ⟨declaration, _, _, hRead, hFunction, -⟩ := functionRecord?_eq_some_iff.mp hRecord
  obtain ⟨type, specifier, read, hType, hSpecifier, hReadDeclarator, rfl⟩ :=
    ofNodes?_eq_some_iff.mp hRead
  obtain ⟨declared, _, result, params, variadic, prototyped, hName, hFree, -, hDeclared, -⟩ :=
    Declaration.function?_eq_some_iff.mp hFunction
  rw [Declaration.type?] at hDeclared
  obtain ⟨chain, inside, hDeclares, hInside, hChain⟩ :=
    declares_iff.mpr ⟨read, hReadDeclarator, hName, hDeclared⟩
  obtain ⟨name, rfl, hDeclaredName⟩ := Option.bind_eq_some_iff.mp hInside
  obtain ⟨kind, hKind⟩ := hDeclares.name_kind name rfl
  obtain rfl : ⟨kind, name.text? source⟩ = declared := by
    simpa [Node.declaredName?, hKind] using hDeclaredName
  refine ⟨_, chain, name, specifiedType?_eq_some_iff.mpr ⟨type, specifier, hType, hSpecifier, rfl⟩,
    hDeclares, ?_, ?_⟩
  · simpa only [hKind, Kind.name.injEq] using NameKind.isFree_iff.mp hFree
  · exact CType.isFunction_iff.mpr ⟨result, params, variadic, prototyped, hChain⟩

/-- **Declarators are folded inside out, and functions give records**: a chain of operators around
a name is read as that name and the declared type. It gives a record if the name is an identifier or
an operator and the type is a function; unless the specified type is one, that is if the operator
nearest the name is a function. The record lists the return type and the parameters. -/
theorem Declares.recorded {owner declarator type name : Node} {specifier : Specifier}
    {chain : List DeclaratorOperator} {text : String} (before : List Node)
    (hType : owner.child? .type = some type)
    (hSpecifier : Specifier.ofNode? source type = some specifier)
    (hDeclares : Declares source naming declarator chain (some name))
    (hText : name.text? source = some text) :
    let base := (specifier.type naming).qualified (Qualifiers.ofNodes source owner.children)
    let record? := functionRecord? source naming before owner declarator
    let isFreeName := name.kind = .name .identifier ∨ name.kind = .name .operator
    (∃ read kind, Declarator.ofNode? source declarator = some read ∧ name.kind = .name kind ∧
      read.name? = some ⟨kind, some text⟩ ∧
      (∀ t, read.applied? naming t = some (declaredType t chain)) ∧
      ∃ declaration, Declaration.ofNodes? source owner declarator = some declaration ∧
        declaration.name? = read.name? ∧
        declaration.type? naming = some (declaredType base chain)) ∧
    (record?.isSome = true ↔ isFreeName ∧ (declaredType base chain).isFunction = true) ∧
    (base.isFunction = false → (record?.isSome = true ↔ isFreeName ∧
      ∃ nearest outer, chain = nearest :: outer ∧ nearest.isFunction = true)) ∧
    ∀ record ∈ record?, ∃ result params variadic prototyped,
      declaredType base chain = .function result params variadic prototyped ∧
        record.name = functionName text ∧
        record.signature = (result :: params).map (·.spelling naming.lang) := by
  intro base record? isFreeName
  obtain ⟨read, hReadDeclarator, -, hMeans⟩ := hDeclares.read
  obtain ⟨kind, hKind⟩ := hDeclares.name_kind name rfl
  have hName : read.name? = some ⟨kind, some text⟩ := by
    rw [hMeans.name?_eq]
    simp [Node.declaredName?, hKind, hText]
  let declaration : Declaration :=
    .mk specifier (Qualifiers.ofNodes source owner.children) read
  have hRead : Declaration.ofNodes? source owner declarator = some declaration :=
    ofNodes?_eq_some_iff.mpr ⟨type, specifier, read, hType, hSpecifier, hReadDeclarator, rfl⟩
  have hDeclared : declaration.type? naming = some (declaredType base chain) :=
    hMeans.applied?_eq base
  have hFree : isFreeName ↔ kind.isFree = true := by
    simp only [isFreeName, hKind, Kind.name.injEq, NameKind.isFree_iff]
  have hIff : ∀ record, record? = some record ↔ _ := fun record =>
    functionRecord?_eq_some_iff_of_read hRead hName hDeclared
  have hRecorded : record?.isSome = true ↔
      isFreeName ∧ (declaredType base chain).isFunction = true := by
    rw [Option.isSome_iff_exists, hFree, CType.isFunction_iff]
    constructor
    · rintro ⟨record, hRecord⟩
      obtain ⟨hKindFree, result, params, variadic, prototyped, hFunction, -⟩ :=
        (hIff record).mp hRecord
      exact ⟨hKindFree, result, params, variadic, prototyped, hFunction⟩
    · rintro ⟨hKindFree, result, params, variadic, prototyped, hFunction⟩
      exact ⟨_, (hIff _).mpr
        ⟨hKindFree, result, params, variadic, prototyped, hFunction, rfl⟩⟩
  refine ⟨⟨read, kind, hReadDeclarator, hKind, hName, hMeans.applied?_eq, declaration, hRead, rfl,
    hDeclared⟩, hRecorded, ?_, ?_⟩
  · intro hBase
    rw [hRecorded, isFunction_declaredType hBase]
  · intro record hRecord
    obtain ⟨-, result, params, variadic, prototyped, hFunction, rfl⟩ := (hIff record).mp hRecord
    exact ⟨result, params, variadic, prototyped, hFunction, rfl, rfl⟩

/-- A node over a range of offsets. -/
def Node.spanning (kind : Kind) (start stop : Nat) (field? : Option Field) (children : List Node) :
    Node where
  kind
  start
  stop
  isNamed := true
  hasError := false
  field?
  children

/-- In `int *(f)(int);`, the function is nearest the name, and the pointer is what it returns. -/
theorem Declares.recorded_pointer_result :
    let source : Bytes :=
      [0x69, 0x6E, 0x74, 0x20, 0x2A, 0x28, 0x66, 0x29, 0x28, 0x69, 0x6E, 0x74, 0x29, 0x3B]
    let name := Node.spanning (.name .identifier) 6 7 none []
    let param := Node.spanning .parameterDeclaration 9 12 none
      [.spanning .primitiveType 9 12 (some .type) []]
    let function := Node.spanning (.functionDeclarator .naming) 5 13 (some .declarator)
      [.spanning (.parenthesizedDeclarator .naming) 5 8 (some .declarator) [name],
        .spanning (.other "parameter_list") 8 13 (some .parameters)
          [.spanning .openingParenthesis 8 9 none [], param,
            .spanning .closingParenthesis 12 13 none []]]
    let declarator := Node.spanning (.pointerDeclarator .naming) 4 13 (some .declarator) [function]
    let owner := Node.spanning .declaration 0 14 none
      [.spanning .primitiveType 0 3 (some .type) [], declarator]
    let naming : Naming := { lang := .c, aliases := {} }
    let chain : List DeclaratorOperator := [.function none [.ofName "int"] false true, .pointer ∅]
    Declares source naming declarator chain (some name) ∧
      ∃ record, functionRecord? source naming [] owner declarator = some record ∧
        record.name = "f" ∧ record.signature = ["int *", "int"] := by
  intro source name param function declarator owner naming chain
  have hParam : HasType source naming param (declaredType (.ofName "int") []) :=
    .intro rfl .nothing
  have hGroup : Holds source naming (function.child? .declarator) [] (some name) :=
    .declarator (.grouped (Or.inl ⟨_, rfl⟩) (.declarator (.name rfl)))
  have hParams : Lists source naming [.spanning .openingParenthesis 8 9 none [], param,
      .spanning .closingParenthesis 12 13 none []] { types := [.ofName "int"] } :=
    .punctuation (by decide) (.parameter (by decide) hParam (by simp [declaredType, CType.ofName])
      (.punctuation (by decide) .nil))
  have hFunction : Declares source naming function
      ([] ++ [.function none [.ofName "int"] false true]) (some name) :=
    .function rfl (.nothing rfl) rfl hParams rfl hGroup
  have hPointer : Declares source naming declarator
      ([.function none [.ofName "int"] false true] ++
        [.pointer (Qualifiers.ofNodes source declarator.children)]) (some name) :=
    .pointer rfl (.declarator hFunction)
  have hDeclares : Declares source naming declarator chain (some name) := hPointer
  have hType : owner.child? .type = some (.spanning .primitiveType 0 3 (some .type) []) := rfl
  have hSpecifier : Specifier.ofNode? source (.spanning .primitiveType 0 3 (some .type) []) =
      some (.name "int") := rfl
  have hText : name.text? source = some "f" := rfl
  obtain ⟨-, hRecorded, -, hRecord⟩ := Declares.recorded [] hType hSpecifier hDeclares hText
  obtain ⟨record, hSome⟩ :=
    Option.isSome_iff_exists.mp (hRecorded.mpr ⟨Or.inl rfl, rfl⟩)
  obtain ⟨result, params, variadic, prototyped, hDeclared, hName, hSignature⟩ :=
    hRecord record hSome
  refine ⟨hDeclares, record, hSome, hName.trans (by decide), ?_⟩
  injection hDeclared with hResult hTypes
  rw [hSignature, ← hResult, ← hTypes]
  rfl

end FunctionCatalog
