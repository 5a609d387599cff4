import FunctionCatalog.Declaration.Meaning

/-!
# Expanding type names

What a declaration means when the names that a file defines are replaced by their own definitions,
and the names in these again, as far as it goes. No order plays a part in this, and no table of what
is known so far: a glossary holds all definitions at once. Reading a declaration with a table is the
same, as long as the table has every name that the declaration uses right.

## Main results

* `Glossary.Gives` — the type that a declaration gives its name, by expansion.
* `Glossary.gives_iff` — a declaration that is read with the right names gives this type.
-/

namespace FunctionCatalog

/-- The type names of a file: the language, the names known in every file, and all definitions. -/
structure Glossary where
  lang : Language
  aliases : TypeAliases
  definitions : List (String × Declaration)

namespace Glossary

/-- The names that the file defines. -/
def names (glossary : Glossary) : List String :=
  glossary.definitions.map Prod.fst

section Expansion

variable (glossary : Glossary)

mutual

/-- The type that a specifier names. -/
inductive Names : Specifier → CType → Prop
  | definition {name : String} {declaration : Declaration} {type : CType}
    (hDefinition : (name, declaration) ∈ glossary.definitions) (hGives : Gives declaration type) :
    Names (.name name) type
  | configured {name spelling : String} (hOther : name ∉ glossary.names)
    (hConfigured : glossary.aliases.entries.lookup name = some spelling) :
    Names (.name name) (.ofName spelling)
  | library {name spelling : String} (hOther : name ∉ glossary.names)
    (hConfigured : glossary.aliases.entries.lookup name = none)
    (hLibrary : libraryAlias? glossary.lang name = some spelling) :
    Names (.name name) (.ofName spelling)
  | itself {name : String} (hOther : name ∉ glossary.names)
    (hConfigured : glossary.aliases.entries.lookup name = none)
    (hLibrary : libraryAlias? glossary.lang name = none) : Names (.name name) (.ofName name)
  | builtin {text : String} : Names (.builtin text) (.ofName (canonicalBuiltin text))
  | tag {kind : TagKind} {name? : Option String} :
    Names (.tag kind name?) (.ofName (kind.typeName name? glossary.lang))
  | namedBy {name : String} : Names (.namedBy name) (.ofName name)
  | verbatim {text : String} : Names (.verbatim text) (.ofName (normalizeSpelling text))

/-- The type that a declaration gives its name: the qualifiers go on the type that the specifier
names, and the declarator around that. -/
inductive Gives : Declaration → CType → Prop
  | intro {specifier : Specifier} {quals : Qualifiers} {declarator : Declarator}
    {base type : CType} (hBase : Names specifier base)
    (hMakes : Makes declarator (base.qualified quals) type) :
    Gives (.mk specifier quals declarator) type

/-- The type of the name in a declarator around a type. -/
inductive Makes : Declarator → CType → CType → Prop
  | nothing {type : CType} : Makes .nothing type type
  | name {name : DeclaredName} {type : CType} : Makes (.name name) type type
  | grouped {inner : Declarator} {type made : CType} (hInner : Makes inner type made) :
    Makes (.grouped inner) type made
  | pointer {quals : Qualifiers} {inner : Declarator} {type made : CType}
    (hInner : Makes inner (.pointer type quals) made) : Makes (.pointer quals inner) type made
  | reference {rvalue : Bool} {inner : Declarator} {type made : CType}
    (hInner : Makes inner (.reference type rvalue) made) : Makes (.reference rvalue inner) type made
  | array {size : Option String} {inner : Declarator} {type made : CType}
    (hInner : Makes inner (.array type size) made) : Makes (.array size inner) type made
  | function {trailing : Option Declaration} {params : List Parameter} {inner : Declarator}
    {type result made : CType} {types : ParameterTypes} (hResult : Returns trailing type result)
    (hParams : Lists params types) (hSound : types.isContradictory = false)
    (hInner : Makes inner
      (.function result types.types types.isVariadic (types.isPrototype glossary.lang)) made) :
    Makes (.function trailing params inner) type made

/-- The result of a function that is declared to return a type, or has a trailing one. -/
inductive Returns : Option Declaration → CType → CType → Prop
  | declared {type : CType} : Returns none type type
  | trailing {declaration : Declaration} {type result : CType} (hGives : Gives declaration result) :
    Returns (some declaration) type result

/-- What the entries of a parameter list say, where parameters are adjusted. -/
inductive Lists : List Parameter → ParameterTypes → Prop
  | nil : Lists [] {}
  | ellipsis {rest : List Parameter} {types : ParameterTypes} (hRest : Lists rest types) :
    Lists (.ellipsis :: rest) { types with isVariadic := true }
  | void {specifier : Specifier} {quals : Qualifiers} {rest : List Parameter}
    {types : ParameterTypes} (hVoid : Gives (.mk specifier quals .nothing) (.ofName "void"))
    (hRest : Lists rest types) :
    Lists (.declared (.mk specifier quals .nothing) :: rest) { types with saysNone := true }
  | parameter {specifier : Specifier} {quals : Qualifiers} {declarator : Declarator}
    {type : CType} {rest : List Parameter} {types : ParameterTypes}
    (hGives : Gives (.mk specifier quals declarator) type)
    (hSome : declarator.isNothing = true → type ≠ .ofName "void") (hRest : Lists rest types) :
    Lists (.declared (.mk specifier quals declarator) :: rest)
      { types with types := type.adjustedParameter :: types.types }

end

end Expansion

end Glossary

/-! ## The names that a declaration uses -/

/-- The names that a specifier uses. -/
def Specifier.typeNames : Specifier → List String
  | .name text => [text]
  | _ => []

mutual

/-- The names that are used inside a declarator. -/
def Declarator.typeNames : Declarator → List String
  | .nothing | .name _ => []
  | .grouped inner | .pointer _ inner | .reference _ inner | .array _ inner => inner.typeNames
  | .function trailing params inner =>
    Declaration.trailingTypeNames trailing ++ Parameter.typeNames params ++ inner.typeNames

/-- The names that a declaration uses. -/
def Declaration.typeNames : Declaration → List String
  | .mk specifier _ declarator => specifier.typeNames ++ declarator.typeNames

/-- The names that a trailing return type uses. -/
def Declaration.trailingTypeNames : Option Declaration → List String
  | none => []
  | some declaration => declaration.typeNames

/-- The names that a parameter list uses. -/
def Parameter.typeNames : List Parameter → List String
  | [] => []
  | .ellipsis :: rest => Parameter.typeNames rest
  | .declared declaration :: rest => declaration.typeNames ++ Parameter.typeNames rest

end

namespace Glossary

/-! ## Reading with a table -/

/-- A table has some names right. -/
def Agrees (glossary : Glossary) (naming : Naming) (names : List String) : Prop :=
  ∀ name ∈ names, ∀ type, glossary.Names (.name name) type ↔ naming.resolve name = type

variable {glossary : Glossary} {naming : Naming}

theorem Agrees.left {front back : List String} (h : glossary.Agrees naming (front ++ back)) :
    glossary.Agrees naming front :=
  fun name hName => h name (List.mem_append_left _ hName)

theorem Agrees.right {front back : List String} (h : glossary.Agrees naming (front ++ back)) :
    glossary.Agrees naming back :=
  fun name hName => h name (List.mem_append_right _ hName)

private theorem names_iff (hLang : naming.lang = glossary.lang) {specifier : Specifier}
    (hNames : glossary.Agrees naming specifier.typeNames) (type : CType) :
    glossary.Names specifier type ↔ specifier.type naming = type := by
  cases specifier with
  | name name => exact hNames name (List.mem_singleton_self name) type
  | builtin text => exact ⟨fun | .builtin => rfl, fun hType => hType ▸ .builtin⟩
  | tag kind name? =>
      rw [Specifier.type, hLang]
      exact ⟨fun | .tag => rfl, fun hType => hType ▸ .tag⟩
  | namedBy name => exact ⟨fun | .namedBy => rfl, fun hType => hType ▸ .namedBy⟩
  | verbatim text => exact ⟨fun | .verbatim => rfl, fun hType => hType ▸ .verbatim⟩

-- The induction is on the syntax of one declaration. Where expansion goes on in the definition of a
-- name, the table has the answer.
mutual

private theorem makes_iff (hLang : naming.lang = glossary.lang) : ∀ declarator : Declarator,
    glossary.Agrees naming declarator.typeNames → ∀ type made : CType,
      glossary.Makes declarator type made ↔ declarator.applied? naming type = some made
  | .nothing, _, type, made => by
      rw [Declarator.applied?, Option.some.injEq]
      exact ⟨fun | .nothing => rfl, fun hType => hType ▸ .nothing⟩
  | .name name, _, type, made => by
      rw [Declarator.applied?, Option.some.injEq]
      exact ⟨fun | .name => rfl, fun hType => hType ▸ .name⟩
  | .grouped inner, hNames, type, made => by
      rw [Declarator.applied?, ← makes_iff hLang inner hNames]
      exact ⟨fun | .grouped hInner => hInner, .grouped⟩
  | .pointer quals inner, hNames, type, made => by
      rw [Declarator.applied?, ← makes_iff hLang inner hNames]
      exact ⟨fun | .pointer hInner => hInner, .pointer⟩
  | .reference rvalue inner, hNames, type, made => by
      rw [Declarator.applied?, ← makes_iff hLang inner hNames]
      exact ⟨fun | .reference hInner => hInner, .reference⟩
  | .array size inner, hNames, type, made => by
      rw [Declarator.applied?, ← makes_iff hLang inner hNames]
      exact ⟨fun | .array hInner => hInner, .array⟩
  | .function trailing params inner, hNames, type, made => by
      have hTrailing := returns_iff hLang trailing hNames.left.left type
      have hParams := lists_iff hLang params hNames.left.right
      have hInner := makes_iff hLang inner hNames.right
      rw [Declarator.applied?]
      constructor
      · intro hMakes
        cases hMakes with
        | function hResult hLists hSound hMakes =>
            rw [hTrailing] at hResult
            rw [hParams] at hLists
            rw [hInner] at hMakes
            simp [hResult, hLists, ParameterTypes.functionType?, hSound, hLang, hMakes]
      · intro hApply
        obtain ⟨result, hResult, hApply⟩ := Option.bind_eq_some_iff.1 hApply
        obtain ⟨types, hLists, hApply⟩ := Option.bind_eq_some_iff.1 hApply
        obtain ⟨whole, hWhole, hApply⟩ := Option.bind_eq_some_iff.1 hApply
        rw [ParameterTypes.functionType?] at hWhole
        split at hWhole
        · cases hWhole
        · next hSound =>
            cases hWhole
            rw [hLang] at hApply
            exact .function ((hTrailing _).2 hResult) ((hParams _).2 hLists)
              (eq_false_of_ne_true hSound) ((hInner _ _).2 hApply)

/-- Read with a table that has its names right, a declaration gives the type of its expansion. -/
theorem gives_iff (hLang : naming.lang = glossary.lang) : ∀ declaration : Declaration,
    glossary.Agrees naming declaration.typeNames → ∀ type : CType,
      glossary.Gives declaration type ↔ declaration.type? naming = some type
  | .mk specifier quals declarator, hNames, type => by
      have hBase := names_iff hLang hNames.left
      rw [Declaration.type?, ← makes_iff hLang declarator hNames.right]
      constructor
      · rintro ⟨hNamed, hMakes⟩
        rwa [(hBase _).1 hNamed]
      · exact fun hMakes => .intro ((hBase _).2 rfl) hMakes

private theorem returns_iff (hLang : naming.lang = glossary.lang) : ∀ trailing : Option Declaration,
    glossary.Agrees naming (Declaration.trailingTypeNames trailing) → ∀ type result : CType,
      glossary.Returns trailing type result ↔
        Declaration.typeOr? naming trailing type = some result
  | none, _, type, result => by
      rw [Declaration.typeOr?, Option.some.injEq]
      exact ⟨fun | .declared => rfl, fun hType => hType ▸ .declared⟩
  | some declaration, hNames, type, result => by
      rw [Declaration.typeOr?, ← gives_iff hLang declaration hNames]
      exact ⟨fun | .trailing hGives => hGives, .trailing⟩

private theorem lists_iff (hLang : naming.lang = glossary.lang) : ∀ params : List Parameter,
    glossary.Agrees naming (Parameter.typeNames params) → ∀ types : ParameterTypes,
      glossary.Lists params types ↔ Parameter.types? naming params = some types
  | [], _, types => by
      rw [Parameter.types?, Option.some.injEq]
      exact ⟨fun | .nil => rfl, fun hTypes => hTypes ▸ .nil⟩
  | .ellipsis :: rest, hNames, types => by
      have hRest := lists_iff hLang rest hNames
      rw [Parameter.types?]
      constructor
      · intro hLists
        cases hLists with
        | ellipsis hLists => rw [(hRest _).1 hLists]; rfl
      · intro hTypes
        obtain ⟨types', hLists, hTypes⟩ := Option.bind_eq_some_iff.1 hTypes
        cases hTypes
        exact .ellipsis ((hRest _).2 hLists)
  | .declared (.mk specifier quals declarator) :: rest, hNames, types => by
      have hGives := gives_iff hLang (.mk specifier quals declarator) hNames.left
      have hRest := lists_iff hLang rest hNames.right
      rw [Declaration.type?] at hGives
      rw [Parameter.types?]
      constructor
      · intro hLists
        cases hLists with
        | void hVoid hLists =>
            rw [hGives] at hVoid
            rw [hRest] at hLists
            simp [hVoid, hLists, Declarator.isNothing, CType.isVoid, CType.ofName]
        | parameter hType hSome hLists =>
            rw [hGives] at hType
            rw [hRest] at hLists
            simp only [hType, hLists, Option.bind_eq_bind, Option.bind_some]
            rw [if_neg]
            rw [Bool.and_eq_true, CType.isVoid_iff]
            exact fun h => hSome h.1 h.2
      · intro hTypes
        obtain ⟨type, hType, hTypes⟩ := Option.bind_eq_some_iff.1 hTypes
        obtain ⟨types', hLists, hTypes⟩ := Option.bind_eq_some_iff.1 hTypes
        split at hTypes
        · next hVoid =>
            obtain ⟨hNothing, hVoid⟩ := Bool.and_eq_true_iff.1 hVoid
            cases hTypes
            cases declarator with
            | nothing =>
                rw [CType.isVoid_iff.1 hVoid] at hType
                exact .void ((hGives _).2 hType) ((hRest _).2 hLists)
            | _ => cases hNothing
        · next hSome =>
            cases hTypes
            refine .parameter ((hGives _).2 hType) ?_ ((hRest _).2 hLists)
            rintro hNothing rfl
            exact hSome (Bool.and_eq_true_iff.2 ⟨hNothing, CType.isVoid_iff.2 rfl⟩)

end

end Glossary

end FunctionCatalog
