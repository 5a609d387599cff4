import FunctionCatalog.Proofs.Declaration.Expansion
import FunctionCatalog.Proofs.Extraction.Appending
import FunctionCatalog.Proofs.Extraction.FunctionRecord
import Mathlib

/-!
# The type names of a file

A walk reads every declaration with the type names that it has come across so far, each with a type
that was made when the name was defined. In a file that defines its type names before it uses them,
this comes to the same as expanding names by their definitions wherever they are used: the table is
right about the names defined so far, and has no others.

## Main results

* `Glossary.Knows.define` — a definition leaves the table right.
* `Glossary.exists_outcomes` — from there on, functions have the prototypes that expansion gives.
* `Node.typeNames_expanded` — so they have in a file, and no record changes later.
-/

namespace FunctionCatalog

/-! ## The glossary of a file -/

namespace ItemDeclaration

/-- The type name that is defined, with its definition. -/
def definition? : ItemDeclaration → Option (String × Declaration)
  | typeName name declaration => some (name, declaration)
  | value _ => none

/-- The declaration of a function or an object. -/
def value? : ItemDeclaration → Option Declaration
  | typeName _ _ => none
  | value declaration => some declaration

/-- The type names that are used. -/
def typeNames : ItemDeclaration → List String
  | typeName _ declaration | value declaration => declaration.typeNames

end ItemDeclaration

/-- The type names that are defined by some declarations. -/
def definedNames (declarations : List ItemDeclaration) : List String :=
  (declarations.filterMap ItemDeclaration.definition?).map Prod.fst

/-- The glossary of a file. A definition that cannot be read defines nothing. -/
def Node.glossary (source : Bytes) (lang : Language) (aliases : TypeAliases) (root : Node) :
    Glossary where
  lang
  aliases
  definitions := (root.fileDeclarations source).filterMap ItemDeclaration.definition?

theorem Naming.resolve_declare (naming : Naming) (name other : String) (type : CType) :
    (naming.declare name type).resolve other =
      if other = name then type else naming.resolve other := by
  rw [Naming.declare, Naming.resolve, List.lookup_cons]
  by_cases hSame : other = name
  · rw [if_pos hSame, hSame, beq_self_eq_true]
  · rw [if_neg hSame, beq_eq_false_iff_ne.2 hSame]
    rfl

namespace Glossary

/-- The prototype of the free function that a declaration declares. -/
def Declares (glossary : Glossary) (declaration : Declaration)
    (prototype : String × List String) : Prop :=
  ∃ name text result params variadic prototyped,
    declaration.name? = some name ∧ name.kind.isFree = true ∧ name.text? = some text ∧
      glossary.Gives declaration (.function result params variadic prototyped) ∧
      prototype = (functionName text, (result :: params).map (·.spelling glossary.lang))

/-- The declarations of a file define its type names, each once, with a type, and before its
uses. -/
structure DefinesFirst (glossary : Glossary) (declarations : List ItemDeclaration) : Prop where
  distinct : glossary.names.Nodup
  typed : ∀ definition ∈ glossary.definitions, ∃ type, glossary.Gives definition.2 type
  before : ∀ front declaration back, declarations = front ++ declaration :: back →
    ∀ name ∈ declaration.typeNames, name ∈ glossary.names → name ∈ definedNames front

/-! ## What a table knows -/

/-- A table is right about some names of a glossary, and has no others. -/
structure Knows (glossary : Glossary) (naming : Naming) (known : List String) : Prop where
  lang_eq : naming.lang = glossary.lang
  aliases_eq : naming.aliases = glossary.aliases
  agrees : glossary.Agrees naming known
  lookup_eq_none : ∀ name, name ∉ known → naming.locals.lookup name = none

variable {glossary : Glossary} {naming : Naming} {known : List String}

/-- What a name stands for that the file does not define. -/
theorem names_other_iff {name : String} (hOther : name ∉ glossary.names) (type : CType) :
    glossary.Names (.name name) type ↔
      .ofName ((glossary.aliases.resolve? glossary.lang name).getD name) = type := by
  rw [TypeAliases.resolve?]
  constructor
  · intro hNames
    cases hNames with
    | definition hDefinition _ => exact absurd (List.mem_map_of_mem hDefinition) hOther
    | configured _ hConfigured => rw [hConfigured]; rfl
    | library _ hConfigured hLibrary => rw [hConfigured, hLibrary]; rfl
    | itself _ hConfigured hLibrary => rw [hConfigured, hLibrary]; rfl
  · rintro rfl
    cases hConfigured : glossary.aliases.entries.lookup name with
    | some spelling => exact .configured hOther hConfigured
    | none =>
        cases hLibrary : libraryAlias? glossary.lang name with
        | some spelling => exact .library hOther hConfigured hLibrary
        | none => exact .itself hOther hConfigured hLibrary

/-- What a name stands for that the file defines. -/
theorem names_definition_iff (hDistinct : glossary.names.Nodup) {name : String}
    {declaration : Declaration} (hDefinition : (name, declaration) ∈ glossary.definitions)
    (type : CType) : glossary.Names (.name name) type ↔ glossary.Gives declaration type := by
  have hName : name ∈ glossary.names := List.mem_map_of_mem hDefinition
  constructor
  · intro hNames
    cases hNames with
    | definition hOther hGives =>
        have hSame := List.inj_on_of_nodup_map hDistinct hOther hDefinition rfl
        cases hSame
        exact hGives
    | configured hOther _ => exact absurd hName hOther
    | library hOther _ _ => exact absurd hName hOther
    | itself hOther _ _ => exact absurd hName hOther
  · exact .definition hDefinition

/-- A table that knows the names defined so far is right about everything that uses no others. -/
theorem Knows.agrees_of_mem (h : glossary.Knows naming known) {names : List String}
    (hNames : ∀ name ∈ names, name ∈ glossary.names → name ∈ known) :
    glossary.Agrees naming names := by
  intro name hName type
  by_cases hKnown : name ∈ known
  · exact h.agrees name hKnown type
  · have hOther : name ∉ glossary.names := fun hMem => hKnown (hNames name hName hMem)
    rw [names_other_iff hOther, Naming.resolve, h.lookup_eq_none name hKnown, h.lang_eq,
      h.aliases_eq]

/-- A definition leaves the table right. -/
theorem Knows.define (h : glossary.Knows naming known) (hDistinct : glossary.names.Nodup)
    {name : String} {declaration : Declaration}
    (hDefinition : (name, declaration) ∈ glossary.definitions)
    (hTyped : ∃ type, glossary.Gives declaration type)
    (hNames : glossary.Agrees naming declaration.typeNames) :
    glossary.Knows (naming.define name declaration) (known ++ [name]) := by
  obtain ⟨type, hGives⟩ := hTyped
  have hType : declaration.type? naming = some type :=
    (gives_iff h.lang_eq declaration hNames type).1 hGives
  have hDefine : naming.define name declaration = naming.declare name type := by
    rw [Naming.define, hType]
  rw [hDefine]
  refine ⟨h.lang_eq, h.aliases_eq, ?_, ?_⟩
  · intro other hOther type'
    rw [Naming.resolve_declare]
    by_cases hSame : other = name
    · rw [if_pos hSame, hSame, names_definition_iff hDistinct hDefinition,
        gives_iff h.lang_eq declaration hNames, hType, Option.some.injEq]
    · rw [if_neg hSame]
      refine h.agrees other ?_ type'
      simpa [hSame] using hOther
  · intro other hOther
    have hSame : other ≠ name := by
      rintro rfl
      exact hOther (List.mem_append_right _ (List.mem_singleton_self other))
    rw [Naming.declare, List.lookup_cons, beq_eq_false_iff_ne.2 hSame]
    exact h.lookup_eq_none other fun hMem => hOther (List.mem_append_left _ hMem)

/-- With the right names, a function is recorded as expansion has it. -/
theorem prototype?_eq_some_iff (hLang : naming.lang = glossary.lang) {declaration : Declaration}
    (hNames : glossary.Agrees naming declaration.typeNames) (prototype : String × List String) :
    declaration.prototype? naming = some prototype ↔ glossary.Declares declaration prototype := by
  have hGives := gives_iff hLang declaration hNames
  constructor
  · intro hPrototype
    obtain ⟨⟨text, types⟩, hFunction, rfl⟩ := Option.map_eq_some_iff.1 hPrototype
    obtain ⟨name, hName, hFunction⟩ := Option.bind_eq_some_iff.1 hFunction
    split at hFunction
    · next hFree =>
        obtain ⟨type, hType, hFunction⟩ := Option.bind_eq_some_iff.1 hFunction
        cases type with
        | function result params variadic prototyped =>
            obtain ⟨spelled, hText, hFunction⟩ := Option.bind_eq_some_iff.1 hFunction
            cases hFunction
            exact ⟨name, spelled, result, params, variadic, prototyped, hName, hFree, hText,
              (hGives _).2 hType, by rw [hLang]⟩
        | _ => cases hFunction
    · cases hFunction
  · rintro ⟨name, text, result, params, variadic, prototyped, hName, hFree, hText, hFunction, rfl⟩
    rw [hGives] at hFunction
    simp [Declaration.prototype?, Declaration.function?, hName, hFree, hFunction, hText, hLang]

/-- From a table that knows the names defined so far, functions have the prototypes that expansion
gives, and other declarations have none. -/
theorem exists_outcomes (declarations : List ItemDeclaration)
    (hDefinitions : glossary.definitions = declarations.filterMap ItemDeclaration.definition?)
    (hFirst : glossary.DefinesFirst declarations) :
    ∀ (back front : List ItemDeclaration) (outline : Outline), declarations = front ++ back →
      glossary.Knows outline.naming (definedNames front) →
        ∃ outcomes : List (Option (String × List String)),
          List.Forall₂ (fun declaration outcome => ∀ prototype,
              outcome = some prototype ↔ glossary.Declares declaration prototype)
            (back.filterMap ItemDeclaration.value?) outcomes ∧
          (back.foldl Outline.add outline).prototypes =
            outline.prototypes ++ outcomes.reduceOption := by
  intro back
  induction back with
  | nil =>
      intro front outline _ _
      exact ⟨[], .nil, (List.append_nil _).symm⟩
  | cons declaration rest ih =>
      intro front outline hSplit hKnows
      have hNames : glossary.Agrees outline.naming declaration.typeNames :=
        hKnows.agrees_of_mem (hFirst.before front declaration rest hSplit)
      have hSplit' : declarations = (front ++ [declaration]) ++ rest := by
        rw [hSplit, List.append_assoc, List.singleton_append]
      cases declaration with
      | typeName name definition =>
          have hDefinition : (name, definition) ∈ glossary.definitions := by
            rw [hDefinitions, hSplit, List.mem_filterMap]
            exact ⟨.typeName name definition, List.mem_append_right _ List.mem_cons_self, rfl⟩
          have hNext : glossary.Knows (outline.naming.define name definition)
              (definedNames (front ++ [.typeName name definition])) := by
            rw [definedNames, List.filterMap_append, List.map_append]
            exact hKnows.define hFirst.distinct hDefinition
              (hFirst.typed _ hDefinition) hNames
          exact ih _ _ hSplit' hNext
      | value definition =>
          have hNext : glossary.Knows outline.naming
              (definedNames (front ++ [.value definition])) := by
            rw [definedNames, List.filterMap_append, List.map_append]
            exact (List.append_nil (definedNames front)).symm ▸ hKnows
          obtain ⟨outcomes, hOutcomes, hPrototypes⟩ :=
            ih _ (outline.add (.value definition)) hSplit' hNext
          refine ⟨definition.prototype? outline.naming :: outcomes, .cons ?_ hOutcomes, ?_⟩
          · exact prototype?_eq_some_iff hKnows.lang_eq hNames
          · rw [List.foldl_cons, hPrototypes, Outline.add, List.append_assoc]
            cases definition.prototype? outline.naming <;> rfl

end Glossary

/-- **Type names are expanded**: in a file that defines its type names before it uses them, each
once, functions have the prototypes that their declarations have when every name is replaced by its
own definition; and what comes later changes no record. -/
theorem Node.typeNames_expanded {source : Bytes} {root : Node} {lang : Language}
    {aliases : TypeAliases}
    (hFirst : (root.glossary source lang aliases).DefinesFirst (root.fileDeclarations source)) :
    (∃ outcomes : List (Option (String × List String)),
      List.Forall₂ (fun declaration outcome => ∀ prototype, outcome = some prototype ↔
          (root.glossary source lang aliases).Declares declaration prototype)
        ((root.fileDeclarations source).filterMap ItemDeclaration.value?) outcomes ∧
      (root.walkItems source { lang, aliases }).records.map FunctionRecord.prototype =
        outcomes.reduceOption) ∧
    ∀ front back, root.fileItems = front ++ back →
      (front.foldl (Walk.takeIn source) { naming := { lang, aliases } }).records <+:
        (root.walkItems source { lang, aliases }).records := by
  constructor
  · have hKnows : (root.glossary source lang aliases).Knows { lang, aliases } (definedNames []) :=
      ⟨rfl, rfl, fun name hName => absurd hName List.not_mem_nil, fun _ _ => rfl⟩
    obtain ⟨outcomes, hOutcomes, hPrototypes⟩ :=
      Glossary.exists_outcomes (root.fileDeclarations source) rfl hFirst _ []
        { naming := { lang, aliases } } rfl hKnows
    have hOutline : (root.walkItems source { lang, aliases }).outline = _ :=
      root.outline_walkItems { lang, aliases }
    exact ⟨outcomes, hOutcomes, (congrArg Outline.prototypes hOutline).trans hPrototypes⟩
  · intro front back hItems
    rw [Node.walkItems_eq_foldl, hItems, List.foldl_append]
    exact Walk.records_isPrefix_foldl _ _

/-- In `typedef int A;typedef A*B;B f(A);`, the result of the function is two steps away. -/
theorem Node.typeNames_expanded_chain :
    let source : Bytes :=
      [0x74, 0x79, 0x70, 0x65, 0x64, 0x65, 0x66, 0x20, 0x69, 0x6E, 0x74, 0x20, 0x41, 0x3B, 0x74,
        0x79, 0x70, 0x65, 0x64, 0x65, 0x66, 0x20, 0x41, 0x2A, 0x42, 0x3B, 0x42, 0x20, 0x66, 0x28,
        0x41, 0x29, 0x3B]
    let first := Node.spanning .typeDefinition 0 14 none
      [.spanning .primitiveType 8 11 (some .type) [],
        .spanning (.name .type) 12 13 (some .declarator) []]
    let second := Node.spanning .typeDefinition 14 26 none
      [.spanning (.name .type) 22 23 (some .type) [],
        .spanning (.pointerDeclarator .naming) 23 25 (some .declarator)
          [.spanning (.name .type) 24 25 (some .declarator) []]]
    let function := Node.spanning .declaration 26 33 none
      [.spanning (.name .type) 26 27 (some .type) [],
        .spanning (.functionDeclarator .naming) 28 32 (some .declarator)
          [.spanning (.name .identifier) 28 29 (some .declarator) [],
            .spanning (.other "parameter_list") 29 32 (some .parameters)
              [.spanning .openingParenthesis 29 30 none [],
                .spanning .parameterDeclaration 30 31 none
                  [.spanning (.name .type) 30 31 (some .type) []],
                .spanning .closingParenthesis 31 32 none []]]]
    let root := Node.spanning (.other "translation_unit") 0 33 none [first, second, function]
    (root.glossary source .c {}).DefinesFirst (root.fileDeclarations source) ∧
      (root.walkItems source { lang := .c, aliases := {} }).records.map FunctionRecord.prototype =
        [("f", ["int *", "int"])] := by
  intro source first second function root
  let pointed : Declaration := .mk (.name "A") ∅ (.pointer ∅ (.name ⟨.type, some "B"⟩))
  let plain : Declaration := .mk (.name "int") ∅ (.name ⟨.type, some "A"⟩)
  let declared : Declaration := .mk (.name "B") ∅
    (.function none [.declared (.mk (.name "A") ∅ .nothing)] (.name ⟨.identifier, some "f"⟩))
  have hDeclarations : root.fileDeclarations source =
      [.typeName "A" plain, .typeName "B" pointed, .value declared] := by
    cbv
  let glossary : Glossary :=
    { lang := .c, aliases := {}, definitions := [("A", plain), ("B", pointed)] }
  have hGlossary : root.glossary source .c {} = glossary := by
    rw [Node.glossary, hDeclarations]
    rfl
  have hInt : glossary.Names (.name "int") (.ofName "int") := .itself (by decide) rfl rfl
  have hPlain : glossary.Gives plain (.ofName "int") := .intro hInt .name
  have hA : glossary.Names (.name "A") (.ofName "int") := .definition List.mem_cons_self hPlain
  have hPointed : glossary.Gives pointed (.pointerTo (.ofName "int")) := .intro hA (.pointer .name)
  have hB : glossary.Names (.name "B") (.pointerTo (.ofName "int")) :=
    .definition (List.mem_cons_of_mem _ List.mem_cons_self) hPointed
  have hParams : glossary.Lists [.declared (.mk (.name "A") ∅ .nothing)]
      { types := [.ofName "int"] } :=
    .parameter (.intro hA .nothing) (fun _ => by simp [CType.ofName]) .nil
  have hFunction : glossary.Declares declared ("f", ["int *", "int"]) :=
    ⟨_, "f", .pointerTo (.ofName "int"), [.ofName "int"], false, true, rfl, rfl, rfl,
      .intro hB (.function .declared hParams rfl .name), by decide⟩
  have hFirst : (root.glossary source .c {}).DefinesFirst (root.fileDeclarations source) := by
    rw [hGlossary, hDeclarations]
    refine ⟨by decide, ?_, ?_⟩
    · intro definition hMem
      rcases List.mem_cons.1 hMem with rfl | hMem
      · exact ⟨_, hPlain⟩
      · rcases List.mem_cons.1 hMem with rfl | hMem
        · exact ⟨_, hPointed⟩
        · exact absurd hMem List.not_mem_nil
    · intro front declaration back hSplit name hName hDefined
      rcases front with _ | ⟨_, _ | ⟨_, _ | ⟨_, front⟩⟩⟩
      · cases hSplit
        obtain rfl : name = "int" := List.mem_singleton.1 hName
        exact absurd hDefined (by decide)
      · cases hSplit
        obtain rfl : name = "A" := List.mem_singleton.1 hName
        exact List.mem_cons_self
      · cases hSplit
        exact hDefined
      · simp at hSplit
  refine ⟨hFirst, ?_⟩
  obtain ⟨⟨outcomes, hOutcomes, hRecords⟩, -⟩ := Node.typeNames_expanded hFirst
  rw [hRecords]
  rw [hGlossary, hDeclarations] at hOutcomes
  cases hOutcomes with
  | cons hOutcome hRest =>
      cases hRest
      rw [(hOutcome _).2 hFunction]
      rfl

/-- In `typedef unsigned int size_t;size_t f(size_t);`, the name that is defined is the keyword of a
builtin type for the grammar, and as such it is no declarator. The definition is not read, so the
name stands for what the standard library has it be, and not for its own definition. -/
theorem Node.typeNames_keyword_unread :
    let source : Bytes :=
      [0x74, 0x79, 0x70, 0x65, 0x64, 0x65, 0x66, 0x20, 0x75, 0x6E, 0x73, 0x69, 0x67, 0x6E, 0x65,
        0x64, 0x20, 0x69, 0x6E, 0x74, 0x20, 0x73, 0x69, 0x7A, 0x65, 0x5F, 0x74, 0x3B, 0x73, 0x69,
        0x7A, 0x65, 0x5F, 0x74, 0x20, 0x66, 0x28, 0x73, 0x69, 0x7A, 0x65, 0x5F, 0x74, 0x29, 0x3B]
    let typedef := Node.spanning .typeDefinition 0 28 none
      [.spanning .sizedTypeSpecifier 8 20 (some .type) [],
        .spanning .primitiveType 21 27 (some .declarator) []]
    let function := Node.spanning .declaration 28 45 none
      [.spanning .primitiveType 28 34 (some .type) [],
        .spanning (.functionDeclarator .naming) 35 44 (some .declarator)
          [.spanning (.name .identifier) 35 36 (some .declarator) [],
            .spanning (.other "parameter_list") 36 44 (some .parameters)
              [.spanning .openingParenthesis 36 37 none [],
                .spanning .parameterDeclaration 37 43 none
                  [.spanning .primitiveType 37 43 (some .type) []],
                .spanning .closingParenthesis 43 44 none []]]]
    let root := Node.spanning (.other "translation_unit") 0 45 none [typedef, function]
    let intended : Glossary :=
      { lang := .c
        aliases := {}
        definitions :=
          [("size_t", .mk (.builtin "unsigned int") ∅ (.name ⟨.type, some "size_t"⟩))] }
    typedef.definitions source = [none] ∧
      (∃ declaration, root.fileDeclarations source = [.value declaration] ∧
        intended.Declares declaration ("f", ["unsigned int", "unsigned int"])) ∧
      (root.walkItems source { lang := .c, aliases := {} }).records.map FunctionRecord.prototype =
        [("f", ["unsigned long", "unsigned long"])] := by
  intro source typedef function root intended
  let declared : Declaration := .mk (.name "size_t") ∅
    (.function none [.declared (.mk (.name "size_t") ∅ .nothing)] (.name ⟨.identifier, some "f"⟩))
  have hDeclarations : root.fileDeclarations source = [.value declared] := by cbv
  have hSize : intended.Names (.name "size_t") (.ofName "unsigned int") :=
    .definition List.mem_cons_self (.intro .builtin .name)
  have hParams : intended.Lists [.declared (.mk (.name "size_t") ∅ .nothing)]
      { types := [.ofName "unsigned int"] } :=
    .parameter (.intro hSize .nothing) (fun _ => by simp [CType.ofName]) .nil
  have hFunction : intended.Declares declared ("f", ["unsigned int", "unsigned int"]) :=
    ⟨_, "f", .ofName "unsigned int", [.ofName "unsigned int"], false, true, rfl, rfl, rfl,
      .intro hSize (.function .declared hParams rfl .name), by decide⟩
  refine ⟨by cbv, ⟨declared, hDeclarations, hFunction⟩, ?_⟩
  have hOutline : (root.walkItems source { lang := .c, aliases := {} }).outline = _ :=
    root.outline_walkItems { lang := .c, aliases := {} }
  rw [hDeclarations] at hOutline
  exact congrArg Outline.prototypes hOutline

end FunctionCatalog
