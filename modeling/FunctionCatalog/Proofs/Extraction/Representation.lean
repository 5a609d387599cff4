import FunctionCatalog.Proofs.Declaration.InOnePass
import FunctionCatalog.Proofs.Extraction.FunctionRecord
import FunctionCatalog.Proofs.Extraction.Invariant
import FunctionCatalog.Proofs.LinkageGuard.Lines
import FunctionCatalog.Proofs.Tree.Paths
import Mathlib

/-!
# How types are represented

The parameters of a function type are adjusted when its parameter list is read, and nothing that
is done to the type later touches them: it may be kept under a name, qualified, pointed to,
returned, or become a parameter of another function. So at every depth of every type, whatever
names it went through, no parameter is an array or a function, a function without a prototype is
one of C with empty parentheses, and no parameter that stands without a declarator is `void`.

## Main results

* `Lists.parametersAdjusted` — the invariant where a parameter list is read.
* `Naming.sustained` — every step of building a type keeps it.
* `representation_invariant` — it holds everywhere in the types that names stand for, in those
  that are built, and in those whose spellings are recorded.
-/

namespace FunctionCatalog

open CType

/-! ## Where parameter lists are read -/

/-- Places where parameter lists are read, by what names stand for there and by the node of the
list. -/
abbrev ListPlaces := Naming → Node → Prop

/-- The lists below some nodes, where names stand for the same throughout. -/
def ListPlaces.below (naming : Naming) (nodes : List Node) : ListPlaces :=
  fun there list => there = naming ∧ ∃ node ∈ nodes, list.IsBelow node

/-- What items declare, each declaration with the item that makes it. -/
def Item.declared (source : Bytes) (items : List Item) : List (Node × ItemDeclaration) :=
  items.flatMap fun item => (item.node.declarations source).map (item.node, ·)

/-- What names stand for after some declarations. -/
def Naming.afterAll (naming : Naming) (declarations : List ItemDeclaration) : Naming :=
  (declarations.foldl Outline.add { naming }).naming

/-- The lists that are read for some declarations, each in the item that makes the declaration, and
as names stand after the declarations in front of it. -/
def ListPlaces.ofDeclared (naming : Naming) (declared : List (Node × ItemDeclaration)) :
    ListPlaces :=
  fun there list => ∃ front node declaration back,
    declared = front ++ (node, declaration) :: back ∧
      there = naming.afterAll (front.map Prod.snd) ∧ list.IsBelow node

/-- An entry of a parameter list writes a parameter: the parameter has the adjusted type of the
entry, and without a declarator in the entry it is not `void`. -/
def WritesParameter (source : Bytes) (naming : Naming) (entry : Node) (param : CType) : Prop :=
  (∃ t, entry.declaredType? source naming = some t ∧ param = t.adjustedParameter) ∧
    (entry.child? .declarator = none → param ≠ .ofName "void")

/-- The nodes inside a parameter list write the parameters, an entry for each and in the same order,
or there are none. -/
def WritesParameters (source : Bytes) (naming : Naming) (nodes : List Node) (params : List CType) :
    Prop :=
  params = [] ∨ List.Forall₂ (WritesParameter source naming)
    (nodes.filter (·.kind ∈ [.parameterDeclaration, .optionalParameterDeclaration])) params

/-- What the parameters of a function type are like: they are written in a list that is read at one
of the places. -/
structure ParametersAdjusted (source : Bytes) (places : ListPlaces) (lang : Language)
    (params : List CType) (variadic prototyped : Bool) : Prop where
  noArray : ∀ element size, .array element size ∉ params
  noFunction : ∀ result inner innerVariadic innerPrototyped,
    .function result inner innerVariadic innerPrototyped ∉ params
  unprototyped : prototyped = false → lang = .c ∧ params = [] ∧ variadic = false
  written : ∃ naming list said, places naming list ∧
    parametersAt? source naming list.children = some said ∧ said.types = params ∧
    said.isVariadic = variadic ∧ said.isPrototype lang = prototyped ∧
    WritesParameters source naming list.children params

/-- If a type is a function, its parameters are adjusted. -/
def CType.IsAdjusted (source : Bytes) (places : ListPlaces) (lang : Language) : CType → Prop
  | .function _ params variadic prototyped =>
    ParametersAdjusted source places lang params variadic prototyped
  | _ => True

/-- More places take nothing from what the parameters are like. -/
theorem CType.IsAdjusted.mono {source : Bytes} {places places' : ListPlaces} {lang : Language}
    (hPlaces : places ≤ places') {t : CType}
    (hAdjusted : Everywhere (IsAdjusted source places lang) t) :
    Everywhere (IsAdjusted source places' lang) t := by
  intro part hPart
  have hPartAdjusted := hAdjusted part hPart
  cases part with
  | function result params variadic prototyped =>
      obtain ⟨naming, list, said, hPlace, hWritten⟩ := hPartAdjusted.written
      exact { hPartAdjusted with
        written := ⟨naming, list, said, hPlaces naming list hPlace, hWritten⟩ }
  | named _ _ | pointer _ _ | reference _ _ | array _ _ => trivial

variable {source : Bytes} {naming : Naming} {places : ListPlaces}

/-! ## What a parameter list says -/

theorem HasType.declaredType? {node : Node} {t : CType} (hType : HasType source naming node t) :
    node.declaredType? source naming = some t := by
  obtain ⟨specifier, quals, declarator, hRead, -, hApply⟩ := hType.read
  rw [← Declaration.ofNode?_bind_type?, hRead, Option.bind_some, Declaration.type?, hApply]

theorem Lists.parametersAt? {nodes : List Node} {params : ParameterTypes}
    (hLists : Lists source naming nodes params) :
    parametersAt? source naming nodes = some params := by
  obtain ⟨entries, hRead, hTypes⟩ := hLists.read
  rw [FunctionCatalog.parametersAt?, hRead, Option.bind_some, hTypes]

private theorem lists_of_parametersAt? {nodes : List Node} {params : ParameterTypes}
    (hRead : parametersAt? source naming nodes = some params) :
    Lists source naming nodes params := by
  obtain ⟨entries, hEntries, hTypes⟩ := Option.bind_eq_some_iff.mp hRead
  exact lists_of_read hEntries hTypes

/-- Adjusting makes no `void` of anything else. -/
theorem CType.eq_void_of_adjustedParameter {t : CType}
    (hVoid : t.adjustedParameter = .ofName "void") : t = .ofName "void" := by
  cases t with
  | named _ _ | pointer _ _ | reference _ _ => exact hVoid
  | array _ _ | function _ _ _ _ => cases hVoid

private theorem CType.bindsBehindName_adjustedParameter (t : CType) :
    t.adjustedParameter.bindsBehindName = false := by
  cases t <;> rfl

private theorem not_entry_of_mem {kinds : List Kind} {kind : Kind}
    (hOther : ∀ entry ∈ [Kind.parameterDeclaration, .optionalParameterDeclaration], entry ∉ kinds)
    (hKind : kind ∈ kinds) : kind ∉ [.parameterDeclaration, .optionalParameterDeclaration] :=
  fun hEntry => hOther kind hEntry hKind

/-- Every parameter of a list is written by an entry of its own, in the same order, unless an entry
says that there are none. -/
theorem Lists.written {nodes : List Node} {params : ParameterTypes}
    (hLists : Lists source naming nodes params) (hSays : params.saysNone = false) :
    List.Forall₂ (WritesParameter source naming)
      (nodes.filter (·.kind ∈ [.parameterDeclaration, .optionalParameterDeclaration]))
      params.types := by
  cases hLists with
  | nil => exact .nil
  | punctuation hKind hRest | ellipsis hKind hRest =>
      rw [List.filter_cons_of_neg (by simpa using not_entry_of_mem (by decide) hKind)]
      exact hRest.written hSays
  | void => exact absurd hSays.symm Bool.false_ne_true
  | parameter hKind hType hOther hRest =>
      rw [List.filter_cons_of_pos (by simpa using hKind)]
      refine .cons ⟨⟨_, hType.declaredType?, rfl⟩, ?_⟩ (hRest.written hSays)
      exact fun hBare hVoid => hOther ⟨hBare, CType.eq_void_of_adjustedParameter hVoid⟩

/-- The entries of a list that does not contradict itself write its parameters. -/
theorem Lists.writesParameters {nodes : List Node} {params : ParameterTypes}
    (hLists : Lists source naming nodes params) (hConsistent : params.isContradictory = false) :
    WritesParameters source naming nodes params.types := by
  cases hSays : params.saysNone with
  | false => exact .inr (hLists.written hSays)
  | true =>
      simp only [ParameterTypes.isContradictory, hSays, Bool.true_and, Bool.or_eq_false_iff,
        Bool.not_eq_false', List.isEmpty_iff] at hConsistent
      exact .inl hConsistent.1

private theorem bindsBehindName_of_written {entries : List Node} {params : List CType}
    (hWritten : List.Forall₂ (WritesParameter source naming) entries params) :
    ∀ param ∈ params, param.bindsBehindName = false := by
  induction hWritten with
  | nil => simp
  | cons hFirst _ ih =>
      obtain ⟨⟨t, -, rfl⟩, -⟩ := hFirst
      exact List.forall_mem_cons.mpr ⟨CType.bindsBehindName_adjustedParameter t, ih⟩

theorem WritesParameters.bindsBehindName {nodes : List Node} {params : List CType}
    (hWritten : WritesParameters source naming nodes params) :
    ∀ param ∈ params, param.bindsBehindName = false := by
  rcases hWritten with rfl | hWritten
  · simp
  · exact bindsBehindName_of_written hWritten

/-- The parameters that a list says are adjusted. -/
theorem Lists.parametersAdjusted {list : Node} {params : ParameterTypes}
    (hPlace : places naming list) (hLists : Lists source naming list.children params)
    (hConsistent : params.isContradictory = false) :
    ParametersAdjusted source places naming.lang params.types params.isVariadic
      (params.isPrototype naming.lang) := by
  have hWritten := hLists.writesParameters hConsistent
  have hPlain := hWritten.bindsBehindName
  refine ⟨fun element size hMem => ?_, fun result inner variadic prototyped hMem => ?_, ?_,
    naming, list, params, hPlace, hLists.parametersAt?, rfl, rfl, rfl, hWritten⟩
  · exact Bool.false_ne_true (hPlain _ hMem).symm
  · exact Bool.false_ne_true (hPlain _ hMem).symm
  · intro hPrototype
    simp only [ParameterTypes.isPrototype, Bool.or_eq_false_iff, beq_eq_false_iff_ne,
      Bool.not_eq_false', List.isEmpty_iff] at hPrototype
    obtain ⟨⟨⟨hLang, -⟩, hVariadic⟩, hNone⟩ := hPrototype
    refine ⟨?_, hNone, hVariadic⟩
    cases hC : naming.lang with
    | c => rfl
    | cpp => exact absurd hC hLang

/-- A function declarator makes a function of what its own list says. -/
theorem exists_list_of_declaredAt? {node : Node} {form : DeclaratorForm} {base t : CType}
    {name? : Option DeclaredName} (hKind : node.kind = .functionDeclarator form)
    (hDeclared : declaredAt? source naming (some node) base = some (name?, t)) :
    ∃ list said result, node.child? .parameters = some list ∧
      parametersAt? source naming list.children = some said ∧ said.isContradictory = false ∧
      declaredAt? source naming (node.child? .declarator)
        (.function result said.types said.isVariadic (said.isPrototype naming.lang)) =
          some (name?, t) := by
  rw [declaredAt?_function hKind] at hDeclared
  simp only [Option.bind_eq_bind, Option.bind_eq_some_iff] at hDeclared
  obtain ⟨result, -, list, hList, said, hSaid, function, hFunction, hInner⟩ := hDeclared
  rw [ParameterTypes.functionType?] at hFunction
  split at hFunction
  · cases hFunction
  · next hConsistent =>
      obtain rfl := Option.some.inj hFunction
      exact ⟨list, said, result, hList, hSaid, Bool.eq_false_iff.mpr hConsistent, hInner⟩

/-! ## Names -/

/-- The types that names stand for have adjusted parameters, at every depth. -/
def Naming.IsAdjusted (source : Bytes) (places : ListPlaces) (naming : Naming) : Prop :=
  ∀ name t, (name, t) ∈ naming.locals → Everywhere (CType.IsAdjusted source places naming.lang) t

theorem Naming.IsAdjusted.mono {places' : ListPlaces} (hPlaces : places ≤ places')
    (hNaming : naming.IsAdjusted source places) : naming.IsAdjusted source places' :=
  fun name t hMem => CType.IsAdjusted.mono hPlaces (hNaming name t hMem)

theorem Naming.IsAdjusted.specifier (hNaming : naming.IsAdjusted source places)
    (specifier : Specifier) :
    Everywhere (CType.IsAdjusted source places naming.lang) (specifier.type naming) := by
  cases specifier with
  | name text => exact naming.everywhere_resolve (fun t => hNaming text t) fun _ => trivial
  | builtin _ | tag _ _ | namedBy _ | verbatim _ => exact everywhere_named_iff.mpr trivial

theorem CType.IsAdjusted.qualified {lang : Language} (t : CType) (quals : Qualifiers)
    (hAdjusted : t.IsAdjusted source places lang) :
    (t.qualified quals).IsAdjusted source places lang := by
  cases t with
  | named _ _ | pointer _ _ | array _ _ => trivial
  | reference _ _ | function _ _ _ _ => exact hAdjusted

/-- Every step of building a type from nodes keeps its parameters adjusted, if lists below the nodes
are read at the places. -/
theorem Naming.sustained {nodes : List Node} (hNaming : naming.IsAdjusted source places)
    (hPlaces : ListPlaces.below naming nodes ≤ places) :
    Sustained source naming (fun node => ∃ upper ∈ nodes, node.IsBelow upper)
      (CType.IsAdjusted source places naming.lang) where
  children _ hBelow child hChild := by
    obtain ⟨upper, hUpper, hNode⟩ := hBelow
    exact ⟨upper, hUpper, hNode.tail hChild⟩
  specified node t _ hType := by
    obtain ⟨type, specifier, -, -, rfl⟩ := specifiedType?_eq_some_iff.mp hType
    exact (hNaming.specifier specifier).qualified CType.IsAdjusted.qualified _
  pointer _ _ := trivial
  reference _ _ := trivial
  array _ _ _ := trivial
  function list _ _ hBelow hLists hConsistent :=
    hLists.parametersAdjusted (hPlaces naming list ⟨rfl, hBelow⟩) hConsistent

/-- A definition of a type name keeps the invariant of the names. -/
theorem Naming.IsAdjusted.define (hNaming : naming.IsAdjusted source places) {node : Node}
    (hPlaces : ListPlaces.below naming [node] ≤ places) {name : String} {declaration : Declaration}
    (hMem : some (name, declaration) ∈ node.definitions source) :
    (naming.define name declaration).IsAdjusted source places := by
  unfold Naming.define
  cases hType : declaration.type? naming with
  | none => exact hNaming
  | some t =>
      intro other u hOther
      rcases List.mem_cons.mp hOther with hFirst | hOther
      · rw [(Prod.mk.inj hFirst).2]
        exact (Naming.sustained hNaming hPlaces).definition ⟨node, List.mem_cons_self, .refl⟩
          (fun _ => trivial) hMem hType
      · exact hNaming other u hOther

/-! ## Signatures -/

/-- A signature is spelled from a function type whose parameters are adjusted, at every depth. -/
def SignatureIsAdjusted (source : Bytes) (places : ListPlaces) (lang : Language)
    (signature : List String) : Prop :=
  ∃ result params variadic prototyped,
    Everywhere (CType.IsAdjusted source places lang)
        (.function result params variadic prototyped) ∧
      signature = (result :: params).map (·.spelling lang)

theorem SignatureIsAdjusted.mono {places' : ListPlaces} {lang : Language} {signature : List String}
    (hPlaces : places ≤ places') (hSignature : SignatureIsAdjusted source places lang signature) :
    SignatureIsAdjusted source places' lang signature := by
  obtain ⟨result, params, variadic, prototyped, hFunction, hSpelled⟩ := hSignature
  exact ⟨result, params, variadic, prototyped, CType.IsAdjusted.mono hPlaces hFunction, hSpelled⟩

theorem Naming.IsAdjusted.signature (hNaming : naming.IsAdjusted source places) {node : Node}
    (hPlaces : ListPlaces.below naming [node] ≤ places) {declaration : Declaration}
    (hMem : .value declaration ∈ node.declarations source) {prototype : String × List String}
    (hPrototype : declaration.prototype? naming = some prototype) :
    SignatureIsAdjusted source places naming.lang prototype.2 := by
  obtain ⟨declarator, hDeclarator, hRead⟩ := Node.exists_of_value hMem
  obtain ⟨⟨name, types⟩, hFunction, rfl⟩ := Option.map_eq_some_iff.mp hPrototype
  obtain ⟨declared, text, result, params, variadic, prototyped, -, -, -, hType, -, rfl⟩ :=
    Declaration.function?_eq_some_iff.mp hFunction
  have hNode : ∃ upper ∈ [node], node.IsBelow upper := ⟨node, List.mem_cons_self, .refl⟩
  have hBelow : ∃ upper ∈ [node], declarator.IsBelow upper :=
    ⟨node, List.mem_cons_self, .single hDeclarator⟩
  exact ⟨result, params, variadic, prototyped,
    (Naming.sustained hNaming hPlaces).ofNodes? hNode hBelow hRead hType, rfl⟩

/-! ## Sequences of declarations -/

namespace ListPlaces

variable {front : List (Node × ItemDeclaration)} {node : Node} {declaration : ItemDeclaration}

private theorem ofDeclared_le_concat (naming : Naming) (front : List (Node × ItemDeclaration))
    (last : Node × ItemDeclaration) :
    ofDeclared naming front ≤ ofDeclared naming (front ++ [last]) := by
  rintro there list ⟨first, node, declaration, back, rfl, hThere, hBelow⟩
  exact ⟨first, node, declaration, back ++ [last], by simp, hThere, hBelow⟩

private theorem below_le_ofDeclared (naming : Naming) (front : List (Node × ItemDeclaration))
    (node : Node) (declaration : ItemDeclaration) :
    below (naming.afterAll (front.map Prod.snd)) [node] ≤
      ofDeclared naming (front ++ [(node, declaration)]) := by
  rintro there list ⟨rfl, upper, hUpper, hBelow⟩
  rw [List.mem_singleton] at hUpper
  exact ⟨front, node, declaration, [], rfl, rfl, hUpper ▸ hBelow⟩

end ListPlaces

/-- Neither the language nor the adjusted parameters are lost in a sequence of declarations. -/
theorem Outline.isAdjusted_foldl_add (start : Naming) (hStart : start.locals = [])
    (declared : List (Node × ItemDeclaration))
    (hMade : ∀ pair ∈ declared, pair.2 ∈ pair.1.declarations source) :
    let outline := (declared.map Prod.snd).foldl Outline.add { naming := start }
    let places := ListPlaces.ofDeclared start declared
    (outline.naming.lang = start.lang ∧ outline.naming.IsAdjusted source places) ∧
      ∀ prototype ∈ outline.prototypes,
        SignatureIsAdjusted source places start.lang prototype.2 := by
  -- The induction is from the last declaration, which is read as names stand after all others.
  induction declared using List.reverseRecOn with
  | nil =>
      refine ⟨⟨rfl, fun name t hMem => ?_⟩, fun prototype hMem => absurd hMem List.not_mem_nil⟩
      exact absurd (hStart ▸ hMem) List.not_mem_nil
  | append_singleton front last ih =>
      obtain ⟨node, declaration⟩ := last
      obtain ⟨⟨hLang, hNaming⟩, hPrototypes⟩ :=
        ih fun pair hMem => hMade pair (List.mem_append_left _ hMem)
      have hMem : declaration ∈ node.declarations source :=
        hMade (node, declaration) (List.mem_append_right _ List.mem_cons_self)
      have hMore := ListPlaces.ofDeclared_le_concat start front (node, declaration)
      have hBelow := ListPlaces.below_le_ofDeclared start front node declaration
      have hNext := hNaming.mono hMore
      intro outline places
      have hOutline : outline =
          ((front.map Prod.snd).foldl Outline.add { naming := start }).add declaration := by
        simp [outline]
      rw [hOutline]
      cases declaration with
      | typeName name definition =>
          have hDefinition := Node.mem_definitions_of_typeName hMem
          refine ⟨⟨?_, hNext.define hBelow hDefinition⟩, fun prototype hPrototype => ?_⟩
          · rw [Outline.add, Naming.lang_define, hLang]
          · exact (hPrototypes prototype hPrototype).mono hMore
      | value value =>
          refine ⟨⟨hLang, hNext⟩, fun prototype hPrototype => ?_⟩
          rcases List.mem_append.mp hPrototype with hOld | hNew
          · exact (hPrototypes prototype hOld).mono hMore
          · rw [← hLang]
            exact hNext.signature hBelow hMem (Option.mem_toList.mp hNew)

/-- Neither the language nor the adjusted parameters are lost in a sequence of items. -/
theorem Walk.isAdjusted_foldl_takeIn (source : Bytes) (lang : Language) (aliases : TypeAliases)
    (items : List Item) :
    let walk := items.foldl (Walk.takeIn source) { naming := { lang, aliases } }
    let places := ListPlaces.ofDeclared { lang, aliases } (Item.declared source items)
    (walk.naming.lang = lang ∧ walk.naming.IsAdjusted source places) ∧
      ∀ record ∈ walk.records, SignatureIsAdjusted source places lang record.signature := by
  intro walk places
  have hDeclared : items.flatMap (fun item => item.node.declarations source) =
      (Item.declared source items).map Prod.snd := by
    simp [Item.declared, List.map_flatMap, Function.comp_def]
  have hOutline : walk.outline =
      ((Item.declared source items).map Prod.snd).foldl Outline.add
        { naming := { lang, aliases } } := by
    rw [← hDeclared, ← List.flatMap_map]
    exact Walk.outline_foldl_takeIn items _
  have hMade : ∀ pair ∈ Item.declared source items, pair.2 ∈ pair.1.declarations source := by
    intro pair hPair
    obtain ⟨item, -, hItem⟩ := List.mem_flatMap.mp hPair
    obtain ⟨declaration, hMem, rfl⟩ := List.mem_map.mp hItem
    exact hMem
  obtain ⟨⟨hLang, hNaming⟩, hPrototypes⟩ :=
    Outline.isAdjusted_foldl_add { lang, aliases } rfl (Item.declared source items) hMade
  rw [← hOutline] at hLang hNaming hPrototypes
  exact ⟨⟨hLang, hNaming⟩, fun record hMem =>
    hPrototypes record.prototype (List.mem_map_of_mem hMem)⟩

/-- **Parameters are adjusted at every depth** of every type that a name of the file stands for,
that is built, or that a record spells, after any sequence of items. Each function type has the
parameters of a list that is read at one of the places where it can have been: for a name or a
record, in an item, as names stood there; for what is built, in its own nodes as well. -/
theorem representation_invariant (source : Bytes) (lang : Language) (aliases : TypeAliases)
    (items : List Item) :
    let walk := items.foldl (Walk.takeIn source) { naming := { lang, aliases } }
    let places := ListPlaces.ofDeclared { lang, aliases } (Item.declared source items)
    let Kept := Everywhere (CType.IsAdjusted source places lang)
    let KeptWith (nodes : List Node) :=
      Everywhere (CType.IsAdjusted source (places ⊔ .below walk.naming nodes) lang)
    -- what a list says is what its entries write, and one that writes no declarator is not void
    (∀ naming nodes said, parametersAt? source naming nodes = some said →
      said.isContradictory = false → WritesParameters source naming nodes said.types) ∧
    -- a function declarator makes a function of what its own list says
    (∀ node form base name? t, node.kind = .functionDeclarator form →
      declaredAt? source walk.naming (some node) base = some (name?, t) →
        ∃ list said result, node.child? .parameters = some list ∧
          parametersAt? source walk.naming list.children = some said ∧
          said.isContradictory = false ∧
          declaredAt? source walk.naming (node.child? .declarator)
            (.function result said.types said.isVariadic (said.isPrototype lang)) =
              some (name?, t)) ∧
    -- the types that names stand for
    (∀ name t, (name, t) ∈ walk.naming.locals → Kept t) ∧
    -- the types of specifiers, before any declarator
    (∀ specifier : Specifier, Kept (specifier.type walk.naming)) ∧
    -- the types that a declarator makes of them
    (∀ (place : Option Node) declarator base t, Declarator.at? source place = some declarator →
      KeptWith place.toList base → declarator.applied? walk.naming base = some t →
        KeptWith place.toList t) ∧
    -- the types of declarations, of parameters and of type descriptors
    (∀ owner declarator declaration t,
      Declaration.ofNodes? source owner declarator = some declaration →
        declaration.type? walk.naming = some t → KeptWith [owner, declarator] t) ∧
    (∀ node declaration t, Declaration.ofNode? source node = some declaration →
      declaration.type? walk.naming = some t → KeptWith [node] t) ∧
    -- the types whose spellings make up a signature, where no parameter is an array or a function
    (∀ record ∈ walk.records, ∃ result params variadic prototyped,
      Kept (.function result params variadic prototyped) ∧
        record.signature = (result :: params).map (·.spelling lang) ∧
        ∀ param ∈ params, (∀ element size, param ≠ .array element size) ∧
          ∀ inner innerParams innerVariadic innerPrototyped,
            param ≠ .function inner innerParams innerVariadic innerPrototyped) := by
  intro walk places Kept KeptWith
  obtain ⟨⟨hLang, hNaming⟩, hRecords⟩ := Walk.isAdjusted_foldl_takeIn source lang aliases items
  have hSustained (nodes : List Node) :
      Sustained source walk.naming (fun node => ∃ upper ∈ nodes, node.IsBelow upper)
        (CType.IsAdjusted source (places ⊔ .below walk.naming nodes) lang) := by
    have hBelow : ListPlaces.below walk.naming nodes ≤ places ⊔ .below walk.naming nodes :=
      le_sup_right
    have hSteps := Naming.sustained (hNaming.mono le_sup_left) hBelow
    rwa [hLang] at hSteps
  refine ⟨fun naming nodes said hRead => (lists_of_parametersAt? hRead).writesParameters,
    ?_, ?_, ?_, ?_, ?_, ?_, ?_⟩
  · intro node form base name? t hKind hDeclared
    have hRead := exists_list_of_declaredAt? hKind hDeclared
    rwa [hLang] at hRead
  · intro name t hMem
    have hAdjusted := hNaming name t hMem
    rwa [hLang] at hAdjusted
  · intro specifier
    have hAdjusted := hNaming.specifier specifier
    rwa [hLang] at hAdjusted
  · intro place declarator base t hRead hBase hApply
    refine (hSustained place.toList).applied (fun node hNode => ?_) hRead hBase hApply
    exact ⟨node, Option.mem_toList.mpr hNode, .refl⟩
  · intro owner declarator declaration t hRead hType
    exact (hSustained [owner, declarator]).ofNodes? ⟨owner, by simp, .refl⟩
      ⟨declarator, by simp, .refl⟩ hRead hType
  · intro node declaration t hRead hType
    exact (hSustained [node]).declaration ⟨node, by simp, .refl⟩ hRead hType
  · intro record hMem
    obtain ⟨result, params, variadic, prototyped, hFunction, hSignature⟩ := hRecords record hMem
    have hParams : ParametersAdjusted source places lang params variadic prototyped :=
      hFunction.self
    refine ⟨result, params, variadic, prototyped, hFunction, hSignature,
      fun param hParam => ⟨?_, ?_⟩⟩
    · rintro element size rfl
      exact hParams.noArray element size hParam
    · rintro inner innerParams innerVariadic innerPrototyped rfl
      exact hParams.noFunction _ _ _ _ hParam

/-- In a file with `void f(void);` the list of the function is the only one. So the file has a
function type without parameters, and none with a parameter `void`. -/
theorem representation_invariant_says_none :
    let source := LinkageGuard.ascii "void f(void);"
    let list := Node.spanning (.other "parameter_list") 6 12 (some .parameters)
      [.spanning .openingParenthesis 6 7 none [],
        .spanning .parameterDeclaration 7 11 none [.spanning .primitiveType 7 11 (some .type) []],
        .spanning .closingParenthesis 11 12 none []]
    let item : Item := {
      node := .spanning .declaration 0 13 none
        [.spanning .primitiveType 0 4 (some .type) [],
          .spanning (.functionDeclarator .naming) 5 12 (some .declarator)
            [.spanning (.name .identifier) 5 6 (some .declarator) [], list]]
      before := [] }
    let naming : Naming := { lang := .c, aliases := {} }
    let places := ListPlaces.ofDeclared naming (Item.declared source [item])
    (∃ result params variadic prototyped,
      Everywhere (CType.IsAdjusted source places .c)
          (.function result params variadic prototyped) ∧
        ["void"] = (result :: params).map (·.spelling .c)) ∧
      ∀ variadic prototyped,
        ¬ ParametersAdjusted source places .c [.ofName "void"] variadic prototyped := by
  intro source list item naming places
  let declared : Declaration := .mk (.name "void") ∅
    (.function none [.declared (.mk (.name "void") ∅ .nothing)] (.name ⟨.identifier, some "f"⟩))
  have hDeclared : Item.declared source [item] = [(item.node, .value declared)] := rfl
  constructor
  · obtain ⟨-, -, -, -, -, -, -, hRecords⟩ := representation_invariant source .c {} [item]
    have hWalk :
        ([item].foldl (Walk.takeIn source) { naming }).records = [⟨"f", ["void"], []⟩] := by
      have hDeclarations : item.node.declarations source = [.value declared] := rfl
      rw [List.foldl_cons, List.foldl_nil, Walk.takeIn_eq_foldl, hDeclarations]
      rfl
    obtain ⟨result, params, variadic, prototyped, hKept, hSignature, -⟩ :=
      hRecords ⟨"f", ["void"], []⟩ (by rw [hWalk]; exact List.mem_cons_self)
    exact ⟨result, params, variadic, prototyped, hKept, hSignature⟩
  · intro variadic prototyped hAdjusted
    obtain ⟨there, node, said, hPlace, hSaid, hTypes, -⟩ := hAdjusted.written
    obtain ⟨front, upper, declaration, back, hSplit, rfl, hBelow⟩ := hPlace
    rw [hDeclared, List.singleton_eq_append_iff] at hSplit
    obtain ⟨rfl, hFirst⟩ | ⟨-, hNone⟩ := hSplit
    · obtain ⟨⟨rfl, -⟩, -⟩ := by simpa using hFirst
      let SaysNone (node : Node) : Prop :=
        ∀ said, parametersAt? source naming node.children = some said → said.types = []
      have hLeaf (kind : Kind) (start stop : Nat) (field? : Option Field) :
          (Node.spanning kind start stop field? []).All SaysNone :=
        .leaf (fun said hSaid => by cases hSaid; rfl) rfl
      have hParam : (Node.spanning .parameterDeclaration 7 11 none
          [.spanning .primitiveType 7 11 (some .type) []]).All SaysNone :=
        .intro (fun said hSaid => by cases hSaid) (List.forall_mem_singleton.mpr (hLeaf ..))
      have hList : list.All SaysNone :=
        .intro (fun said hSaid => by cases hSaid; rfl) (List.forall_mem_cons.mpr
          ⟨hLeaf .., List.forall_mem_cons.mpr ⟨hParam, List.forall_mem_singleton.mpr (hLeaf ..)⟩⟩)
      have hDeclarator : (Node.spanning (.functionDeclarator .naming) 5 12 (some .declarator)
          [.spanning (.name .identifier) 5 6 (some .declarator) [], list]).All SaysNone :=
        .intro (fun said hSaid => by cases hSaid)
          (List.forall_mem_cons.mpr ⟨hLeaf .., List.forall_mem_singleton.mpr hList⟩)
      have hItem : item.node.All SaysNone :=
        .intro (fun said hSaid => by cases hSaid)
          (List.forall_mem_cons.mpr ⟨hLeaf .., List.forall_mem_singleton.mpr hDeclarator⟩)
      rw [(hItem.of_isBelow hBelow).self said hSaid] at hTypes
      exact absurd hTypes nofun
    · exact absurd hNone (List.cons_ne_nil _ _)

end FunctionCatalog
