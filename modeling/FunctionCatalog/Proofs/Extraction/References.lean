import FunctionCatalog.Proofs.CType.Ampersands
import FunctionCatalog.Proofs.Declaration.References
import FunctionCatalog.Proofs.Extraction.Invariant
import FunctionCatalog.Proofs.LinkageGuard.Lines

/-!
# References in the signatures of a file

References meet through type names, at any distance between the definition of a name and its use.
All of them are kept, and a signature shows each stack of them as one run of ampersands, so that an
lvalue reference to an lvalue reference looks like an rvalue reference. Each run is the mark of one
reference if no declaration of the file applies a reference to a reference.

## Main results

* `Node.references_stacked` — the ampersands in the signatures of a file, those that collapsing
  would leave, and when these are the same.
* `Node.references_uncollapsed` — an lvalue reference that is spelled as an rvalue reference.
-/

namespace FunctionCatalog

open CType
open LinkageGuard (ascii)

/-! ## Where an outline comes from -/

/-- The declaration of a type name, a function or an object. -/
def ItemDeclaration.declaration : ItemDeclaration → Declaration
  | typeName _ declaration | value declaration => declaration

/-- What type names stand for behind some declarations. -/
def Naming.behind (naming : Naming) (front : List ItemDeclaration) : Naming :=
  (front.foldl Outline.add { naming }).naming

@[simp] theorem Naming.behind_cons_typeName (naming : Naming) (name : String)
    (declaration : Declaration) (rest : List ItemDeclaration) :
    naming.behind (.typeName name declaration :: rest) =
      (naming.define name declaration).behind rest :=
  rfl

private theorem Outline.naming_foldl_add (declarations : List ItemDeclaration) (outline : Outline) :
    (declarations.foldl Outline.add outline).naming = outline.naming.behind declarations := by
  induction declarations generalizing outline with
  | nil => rfl
  | cons declaration rest ih =>
      rw [List.foldl_cons, ih, Naming.behind, Naming.behind, List.foldl_cons, ih, ih]
      cases declaration <;> rfl

@[simp] theorem Naming.behind_cons_value (naming : Naming) (declaration : Declaration)
    (rest : List ItemDeclaration) :
    naming.behind (.value declaration :: rest) = naming.behind rest := by
  rw [Naming.behind, List.foldl_cons, Outline.naming_foldl_add]
  rfl

@[simp] theorem Naming.lang_behind (naming : Naming) (front : List ItemDeclaration) :
    (naming.behind front).lang = naming.lang := by
  induction front generalizing naming with
  | nil => rfl
  | cons declaration rest ih => cases declaration <;> simp [ih]

/-- A prototype is that of a declaration, read with the type names behind those before it. -/
theorem Outline.exists_of_mem_prototypes {prototype : String × List String}
    (declarations : List ItemDeclaration) (outline : Outline)
    (hMem : prototype ∈ (declarations.foldl Outline.add outline).prototypes) :
    prototype ∈ outline.prototypes ∨
      ∃ front declaration back, declarations = front ++ .value declaration :: back ∧
        declaration.prototype? (outline.naming.behind front) = some prototype := by
  induction declarations generalizing outline with
  | nil => exact .inl hMem
  | cons declaration rest ih =>
      rcases ih _ hMem with hFirst | ⟨front, later, back, rfl, hLater⟩
      · cases declaration with
        | typeName name definition => exact .inl hFirst
        | value value =>
            rcases List.mem_append.1 hFirst with hBefore | hNow
            · exact .inl hBefore
            · exact .inr ⟨[], value, rest, rfl, Option.mem_toList.1 hNow⟩
      · refine .inr ⟨declaration :: front, later, back, rfl, ?_⟩
        cases declaration with
        | typeName name definition => exact hLater
        | value value => rwa [Naming.behind_cons_value]

/-! ## References to references -/

/-- No declaration of a file applies a reference to a reference. -/
def Node.StacksNoReferences (source : Bytes) (naming : Naming) (root : Node) : Prop :=
  ∀ front declaration back, root.fileDeclarations source = front ++ declaration :: back →
    declaration.declaration.stacksReferences (naming.behind front) = false

/-- Type names stand for types without references to references. -/
def Naming.RefersDirectly (naming : Naming) : Prop :=
  ∀ definition ∈ naming.locals, Everywhere CType.RefersDirectly definition.2

namespace Naming.RefersDirectly

variable {naming : Naming}

theorem resolve (hNaming : naming.RefersDirectly) (name : String) :
    Everywhere CType.RefersDirectly (naming.resolve name) :=
  naming.everywhere_resolve (fun t hMem => hNaming (name, t) hMem) fun _ => trivial

theorem define (hNaming : naming.RefersDirectly) {name : String} {declaration : Declaration}
    (hStacks : declaration.stacksReferences naming = false) :
    (naming.define name declaration).RefersDirectly := by
  rw [Naming.define]
  split
  · next t hType =>
      have hDirectly := declaration.refersDirectly_type? hNaming.resolve hStacks hType
      exact List.forall_mem_cons.2 ⟨hDirectly, hNaming⟩
  · exact hNaming

/-- Declarations that apply no reference to a reference keep type names without them. -/
theorem behind (hNaming : naming.RefersDirectly) {front : List ItemDeclaration}
    (hStacks : ∀ before declaration back, front = before ++ declaration :: back →
      declaration.declaration.stacksReferences (naming.behind before) = false) :
    (naming.behind front).RefersDirectly := by
  induction front generalizing naming with
  | nil => exact hNaming
  | cons declaration rest ih =>
      have hFirst := hStacks [] declaration rest rfl
      cases declaration with
      | typeName name definition =>
          refine ih (hNaming.define hFirst) fun before later back hRest => ?_
          exact hStacks (.typeName name definition :: before) later back (by rw [hRest]; rfl)
      | value value =>
          rw [Naming.behind_cons_value]
          refine ih hNaming fun before later back hRest => ?_
          have hLater := hStacks (.value value :: before) later back (by rw [hRest]; rfl)
          rwa [Naming.behind_cons_value] at hLater

end Naming.RefersDirectly

private theorem Declaration.refersDirectly_function? {naming : Naming} {declaration : Declaration}
    {name : String} {types : List CType} (hNaming : naming.RefersDirectly)
    (hStacks : declaration.stacksReferences naming = false)
    (hFunction : declaration.function? naming = some (name, types)) :
    ∀ t ∈ types, Everywhere RefersDirectly t := by
  obtain ⟨_, _, result, params, _, _, -, -, -, hType, -, rfl⟩ :=
    Declaration.function?_eq_some_iff.1 hFunction
  have hAll := declaration.refersDirectly_type? hNaming.resolve hStacks hType
  exact List.forall_mem_cons.2 (everywhere_function_iff.1 hAll).2

/-- A function has types that collapse alike when type names stand for what their types collapse
to. -/
theorem Declaration.collapsed_function? {naming : Naming} {declaration : Declaration}
    {name : String} {types : List CType}
    (hFunction : declaration.function? naming = some (name, types)) :
    ∃ types', declaration.function? naming.collapsed = some (name, types') ∧
      types'.map CType.collapsed = types.map CType.collapsed := by
  obtain ⟨declared, text, result, params, variadic, prototyped, hName, hFree, hText, hType, rfl,
    rfl⟩ := Declaration.function?_eq_some_iff.1 hFunction
  have hCollapsed := declaration.collapsed_type? naming
  rw [hType, eq_comm, Option.map_some, Option.map_eq_some_iff] at hCollapsed
  obtain ⟨t, hCollapsedType, hSame⟩ := hCollapsed
  rw [CType.collapsed, collapsedAll_eq_map] at hSame
  cases t with
  | function result' params' variadic' prototyped' =>
      rw [CType.collapsed, collapsedAll_eq_map] at hSame
      obtain ⟨hResult, hParams, -, -⟩ := CType.function.inj hSame
      refine ⟨result' :: params', Declaration.function?_eq_some_iff.2 ⟨declared, text, result',
        params', variadic', prototyped', hName, hFree, hText, hCollapsedType, rfl, rfl⟩, ?_⟩
      rw [List.map_cons, List.map_cons, hResult, hParams]
  | reference referent rvalue =>
      have hReference := congrArg CType.isReference hSame
      rw [isReference_collapsed] at hReference
      cases hReference
  | _ => cases hSame

namespace Node

variable {source : Bytes} {root : Node}

private theorem exists_of_mem_records {naming : Naming} {record : FunctionRecord}
    (hMem : record ∈ (root.walkItems source naming).records) :
    ∃ front declaration back types,
      root.fileDeclarations source = front ++ .value declaration :: back ∧
        declaration.function? (naming.behind front) = some (record.name, types) ∧
        record.signature = types.map (·.spelling naming.lang) := by
  have hPrototype : record.prototype ∈
      (root.walkItems source naming).records.map FunctionRecord.prototype :=
    List.mem_map_of_mem hMem
  rw [prototypes_walkItems] at hPrototype
  rcases Outline.exists_of_mem_prototypes _ _ hPrototype with
    hNone | ⟨front, declaration, back, hSplit, hRecord⟩
  · exact absurd hNone List.not_mem_nil
  · obtain ⟨⟨name, types⟩, hFunction, hSame⟩ := Option.map_eq_some_iff.1 hRecord
    obtain ⟨rfl, hSignature⟩ := Prod.mk.inj hSame
    rw [Naming.lang_behind] at hSignature
    exact ⟨front, declaration, back, types, hSplit, hFunction, hSignature.symm⟩

/-- The types of a function are read with the type names before it, at any distance, and all
references in them are kept. What they collapse to does not depend on whether type names have
collapsed before. In the spelling of a type, where no name and no array size has an ampersand, a
stack of references is one run of ampersands, and of what it collapses to, it is one mark. So a type
is spelled as it should be exactly if no reference in it refers to a reference, and all types are if
no declaration of the file applies a reference to a reference. -/
theorem references_stacked (lang : Language) (aliases : TypeAliases) :
    ∀ record ∈ (root.walkItems source { lang, aliases }).records,
      ∃ front declaration back types types',
        root.fileDeclarations source = front ++ .value declaration :: back ∧
        declaration.function? (Naming.behind { lang, aliases } front) = some (record.name, types) ∧
        declaration.function? (Naming.behind { lang, aliases } front).collapsed =
          some (record.name, types') ∧
        types'.map CType.collapsed = types.map CType.collapsed ∧
        record.signature = types.map (·.spelling lang) ∧
        (∀ t ∈ types, Everywhere LacksAmpersand t →
          ampersands (t.spelling lang) = t.referenceStacks.map stackMarks ∧
          ampersands (t.collapsed.spelling lang) =
            t.referenceStacks.map (fun stack => referenceMark (stack.all id)) ∧
          (t.collapsed.spelling lang = t.spelling lang ↔ Everywhere RefersDirectly t)) ∧
        (root.StacksNoReferences source { lang, aliases } →
          ∀ t ∈ types, Everywhere RefersDirectly t ∧ t.collapsed = t) := by
  intro record hMem
  obtain ⟨front, declaration, back, types, hSplit, hFunction, hSignature⟩ :=
    exists_of_mem_records hMem
  obtain ⟨types', hFunction', hSame⟩ := Declaration.collapsed_function? hFunction
  refine ⟨front, declaration, back, types, types', hSplit, hFunction, hFunction', hSame, hSignature,
    fun t _ hAll => ?_, fun hStacks t hType => ?_⟩
  · exact ⟨ampersands_spelling hAll lang, ampersands_spelling_collapsed hAll lang,
      (spelling_collapsed_eq_iff hAll lang).trans collapsed_eq_iff⟩
  · have hStart : Naming.RefersDirectly { lang, aliases } :=
      fun _ hNone => absurd hNone List.not_mem_nil
    have hNaming : Naming.RefersDirectly (Naming.behind { lang, aliases } front) :=
      hStart.behind fun before earlier between hFront =>
        hStacks before earlier (between ++ .value declaration :: back) (by simp [hSplit, hFront])
    have hAll := Declaration.refersDirectly_function? hNaming
      (hStacks front (.value declaration) back hSplit) hFunction t hType
    exact ⟨hAll, collapsed_eq_self hAll⟩

/-- In `typedef int &R;` and `void f(R);`, one reference is applied. -/
theorem references_stacked_single :
    let source := ascii "typedef int &R;\nvoid f(R);\n"
    let naming : Naming := { lang := .cpp, aliases := {} }
    let typedef := spanning .typeDefinition 0 15 none
      [spanning .primitiveType 8 11 (some .type) [],
        spanning (.referenceDeclarator .naming) 12 14 (some .declarator)
          [spanning (.name .type) 13 14 none []]]
    let function := spanning .declaration 16 26 none
      [spanning .primitiveType 16 20 (some .type) [],
        spanning (.functionDeclarator .naming) 21 25 (some .declarator)
          [spanning (.name .identifier) 21 22 (some .declarator) [],
            spanning (.other "parameter_list") 22 25 (some .parameters)
              [spanning .parameterDeclaration 23 24 none
                [spanning (.name .type) 23 24 (some .type) []]]]]
    let root := spanning (.other "translation_unit") 0 27 none [typedef, function]
    root.StacksNoReferences source naming ∧
      (root.walkItems source naming).records.map FunctionRecord.prototype =
        [("f", ["void", "int &"])] ∧
      ∀ record ∈ (root.walkItems source naming).records,
        ∃ (front : List ItemDeclaration) (declaration : Declaration) (types : List CType),
          declaration.function? (naming.behind front) = some (record.name, types) ∧
            record.signature = types.map (·.spelling .cpp) ∧
            ∀ t ∈ types, Everywhere RefersDirectly t ∧ t.collapsed = t := by
  intro source naming typedef function root
  let reference : Declaration := .mk (.name "int") ∅ (.reference false (.name ⟨.type, some "R"⟩))
  let declared : Declaration := .mk (.name "void") ∅
    (.function none [.declared (.mk (.name "R") ∅ .nothing)] (.name ⟨.identifier, some "f"⟩))
  have hDeclarations : root.fileDeclarations source =
      [.typeName "R" reference, .value declared] := rfl
  have hDefine : naming.define "R" reference =
      naming.declare "R" (.reference (.ofName "int") false) := rfl
  have hStacks : root.StacksNoReferences source naming := by
    intro front declaration back hSplit
    rw [hDeclarations] at hSplit
    rcases front with _ | ⟨_, _ | ⟨_, front⟩⟩
    · cases hSplit
      rfl
    · cases hSplit
      rw [Naming.behind_cons_typeName, hDefine]
      rfl
    · simp at hSplit
  have hFunction : declared.function? (naming.declare "R" (.reference (.ofName "int") false)) =
      some ("f", [.ofName "void", .reference (.ofName "int") false]) := rfl
  have hSignature : [CType.ofName "void", .reference (.ofName "int") false].map (·.spelling .cpp) =
      ["void", "int &"] := by decide
  have hPrototype : declared.prototype? (naming.declare "R" (.reference (.ofName "int") false)) =
      some ("f", ["void", "int &"]) := by
    rw [Declaration.prototype?, hFunction, Option.map_some]
    exact congrArg (fun signature => some ("f", signature)) hSignature
  refine ⟨hStacks, ?_, fun record hMem => ?_⟩
  · rw [prototypes_walkItems, hDeclarations]
    simp only [List.foldl_cons, List.foldl_nil, Outline.add, hDefine, hPrototype,
      Option.toList_some, List.nil_append]
  · obtain ⟨front, declaration, _, types, _, -, hFunction, -, -, hSignature, -, hDirect⟩ :=
      references_stacked .cpp {} record hMem
    exact ⟨front, declaration, types, hFunction, hSignature, hDirect hStacks⟩

/-- After `typedef int &R;`, the functions `void f(R &)` and `void g(R &&)` both take an `int &`.
One is recorded with an rvalue reference, which is another type, and one with three ampersands. -/
theorem references_uncollapsed :
    let source := ascii "typedef int &R;\nvoid f(R &);\nvoid g(R &&);\n"
    let naming : Naming := { lang := .cpp, aliases := {} }
    let typedef := spanning .typeDefinition 0 15 none
      [spanning .primitiveType 8 11 (some .type) [],
        spanning (.referenceDeclarator .naming) 12 14 (some .declarator)
          [spanning (.name .type) 13 14 none []]]
    let first := spanning .declaration 16 28 none
      [spanning .primitiveType 16 20 (some .type) [],
        spanning (.functionDeclarator .naming) 21 27 (some .declarator)
          [spanning (.name .identifier) 21 22 (some .declarator) [],
            spanning (.other "parameter_list") 22 27 (some .parameters)
              [spanning .parameterDeclaration 23 26 none
                [spanning (.name .type) 23 24 (some .type) [],
                  spanning (.referenceDeclarator .abstract) 25 26 (some .declarator) []]]]]
    let second := spanning .declaration 29 42 none
      [spanning .primitiveType 29 33 (some .type) [],
        spanning (.functionDeclarator .naming) 34 41 (some .declarator)
          [spanning (.name .identifier) 34 35 (some .declarator) [],
            spanning (.other "parameter_list") 35 41 (some .parameters)
              [spanning .parameterDeclaration 36 40 none
                [spanning (.name .type) 36 37 (some .type) [],
                  spanning (.referenceDeclarator .abstract) 38 40 (some .declarator)
                    [{ spanning .doubleAmpersand 38 40 none [] with isNamed := false }]]]]]
    let root := spanning (.other "translation_unit") 0 43 none [typedef, first, second]
    let stacked (rvalue : Bool) : CType := .reference (.reference (.ofName "int") false) rvalue
    (root.walkItems source naming).records.map FunctionRecord.prototype =
        [("f", [CType.ofName "void", stacked false].map (·.spelling .cpp)),
          ("g", [CType.ofName "void", stacked true].map (·.spelling .cpp))] ∧
      (∀ rvalue, (stacked rvalue).collapsed = .reference (.ofName "int") false) ∧
      (CType.reference (.ofName "int") false).spelling .cpp = "int &" ∧
      (stacked false).spelling .cpp = "int &&" ∧
      (stacked true).spelling .cpp = "int &&&" ∧
      (CType.reference (.ofName "int") true).spelling .cpp = "int &&" := by
  intro source naming typedef first second root stacked
  let reference : Declaration := .mk (.name "int") ∅ (.reference false (.name ⟨.type, some "R"⟩))
  let declared (rvalue : Bool) (name : String) : Declaration := .mk (.name "void") ∅
    (.function none [.declared (.mk (.name "R") ∅ (.reference rvalue .nothing))]
      (.name ⟨.identifier, some name⟩))
  have hDeclarations : root.fileDeclarations source =
      [.typeName "R" reference, .value (declared false "f"), .value (declared true "g")] := rfl
  have hDefine : naming.define "R" reference =
      naming.declare "R" (.reference (.ofName "int") false) := rfl
  have hPrototype (rvalue : Bool) (name : String)
      (hFunction : (declared rvalue name).function?
        (naming.declare "R" (.reference (.ofName "int") false)) =
          some (name, [.ofName "void", stacked rvalue])) :
      (declared rvalue name).prototype? (naming.declare "R" (.reference (.ofName "int") false)) =
        some (name, [CType.ofName "void", stacked rvalue].map (·.spelling .cpp)) := by
    rw [Declaration.prototype?, hFunction, Option.map_some]
    rfl
  refine ⟨?_, fun rvalue => rfl, by decide, by decide, by decide, by decide⟩
  rw [prototypes_walkItems, hDeclarations]
  simp only [List.foldl_cons, List.foldl_nil, Outline.add, hDefine, hPrototype false "f" rfl,
    hPrototype true "g" rfl, Option.toList_some, List.nil_append, List.singleton_append]

end Node

end FunctionCatalog
