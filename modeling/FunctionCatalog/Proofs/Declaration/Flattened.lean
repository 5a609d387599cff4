import FunctionCatalog.Proofs.Declaration.Qualified

/-!
# Flat declarations

A use of a type name can be written without the name: the declarator of the name's own definition
goes around the declarator of the use, and the qualifiers of the use join those of the definition at
the level that they reach. Done for every name that a file has defined so far, this leaves a flat
declaration, which needs none of the definitions. All qualifiers that layers of definitions add to
one level stand together in it.

## Main results

* `Declaration.type?_flattened` — a flat declaration declares the same type without the definitions.
-/

namespace FunctionCatalog

/-! ## A declarator around another one -/

namespace Declarator

/-- A declarator with another one in the place of its name. Parentheses are dropped, since they add
no operator. -/
def around : Declarator → Declarator → Declarator
  | nothing, use | name _, use => use
  | grouped inner, use => inner.around use
  | pointer quals inner, use => pointer quals (inner.around use)
  | reference rvalue inner, use => reference rvalue (inner.around use)
  | array size inner, use => array size (inner.around use)
  | function trailing params inner, use => function trailing params (inner.around use)

variable {naming : Naming}

/-- The declarator outside applies first, and the one inside to what comes of it. -/
theorem applied?_around : ∀ (declarator use : Declarator) (t : CType),
    Declarator.applied? naming (declarator.around use) t =
      (declarator.applied? naming t).bind (use.applied? naming)
  | .nothing, _, _ | .name _, _, _ => rfl
  | .grouped inner, use, t => inner.applied?_around use t
  | .pointer quals inner, use, t => inner.applied?_around use (.pointer t quals)
  | .reference rvalue inner, use, t => inner.applied?_around use (.reference t rvalue)
  | .array size inner, use, t => inner.applied?_around use (.array t size)
  | .function trailing params inner, use, t => by
      simp only [around, Declarator.applied?, inner.applied?_around use, Option.bind_eq_bind,
        Option.bind_assoc]

@[simp] theorem name?_around : ∀ declarator use : Declarator,
    (declarator.around use).name? = use.name?
  | .nothing, _ | .name _, _ => rfl
  | .grouped inner, use | .pointer _ inner, use | .reference _ inner, use | .array _ inner, use
  | .function _ _ inner, use => inner.name?_around use

/-- Around a declarator that is present there is one. -/
theorem isNothing_around_of_present {use : Declarator} (hUse : use.isNothing = false) :
    ∀ declarator : Declarator, (declarator.around use).isNothing = false
  | .nothing | .name _ => hUse
  | .grouped inner => isNothing_around_of_present hUse inner
  | .pointer .. | .reference .. | .array .. | .function .. => rfl

private theorem exists_function_of_applied? {trailing : Option Declaration}
    {params : List Parameter} {inner : Declarator} {t made : CType}
    (hApply : Declarator.applied? naming (.function trailing params inner) t = some made) :
    ∃ result types variadic prototyped,
      inner.applied? naming (.function result types variadic prototyped) = some made := by
  simp only [Declarator.applied?, Option.bind_eq_bind, Option.bind_eq_some_iff] at hApply
  obtain ⟨result, -, params, -, function, hFunction, hApply⟩ := hApply
  obtain ⟨types, variadic, prototyped, rfl⟩ :=
    ParameterTypes.exists_function_of_functionType? hFunction
  exact ⟨result, types, variadic, prototyped, hApply⟩

/-- A declarator that makes a named type adds no operator to it. -/
theorem eq_named_of_applied? {name : String} {quals : Qualifiers} :
    ∀ (declarator : Declarator) {t : CType},
      declarator.applied? naming t = some (.named name quals) → t = .named name quals
  | .nothing, _, hApply | .name _, _, hApply => Option.some.inj hApply
  | .grouped inner, _, hApply => inner.eq_named_of_applied? hApply
  | .pointer _ inner, _, hApply | .reference _ inner, _, hApply | .array _ inner, _, hApply =>
    nomatch inner.eq_named_of_applied? hApply
  | .function _ _ inner, _, hApply =>
    have ⟨_, _, _, _, hInner⟩ := exists_function_of_applied? hApply
    nomatch inner.eq_named_of_applied? hInner

/-- A declarator that makes a named type leaves nothing around a use without declarator. -/
theorem isNothing_around_nothing {t : CType} {name : String} {quals : Qualifiers} :
    ∀ declarator : Declarator, declarator.applied? naming t = some (.named name quals) →
      (declarator.around .nothing).isNothing = true
  | .nothing, _ | .name _, _ => rfl
  | .grouped inner, hApply => inner.isNothing_around_nothing hApply
  | .pointer _ inner, hApply | .reference _ inner, hApply | .array _ inner, hApply =>
    nomatch inner.eq_named_of_applied? hApply
  | .function _ _ inner, hApply =>
    have ⟨_, _, _, _, hInner⟩ := exists_function_of_applied? hApply
    nomatch inner.eq_named_of_applied? hInner

end Declarator

/-! ## Names replaced by their definitions -/

/-- Definitions of type names, the latest first. -/
abbrev Definitions := List (String × Declaration)

namespace Declaration

/-- The specifier and qualifiers of a definition, and its declarator around another one. -/
def around : Declaration → Declarator → Declaration
  | .mk specifier quals declarator, use => .mk specifier quals (declarator.around use)

/-- The declarator of a declaration. -/
def declarator : Declaration → Declarator
  | .mk _ _ declarator => declarator

@[simp] theorem name?_around : ∀ (declaration : Declaration) (use : Declarator),
    (declaration.around use).name? = use.name?
  | .mk _ _ declarator, use => declarator.name?_around use

private theorem type?_around {naming : Naming} : ∀ (declaration : Declaration) (use : Declarator),
    (declaration.around use).type? naming =
      (declaration.type? naming).bind (use.applied? naming)
  | .mk _ _ declarator, use => declarator.applied?_around use _

end Declaration

section Flattened

variable (definitions : Definitions)

/-- The declaration with a specifier, where the definition of a name stands in the place of the
name, with the qualifiers of the use. -/
def Specifier.expanded (quals : Qualifiers) (use : Declarator) : Specifier → Declaration
  | .name text =>
    match definitions.lookup text with
    | some definition => (definition.qualified quals).around use
    | none => .mk (.name text) quals use
  | specifier => .mk specifier quals use

mutual

/-- A declarator with flat declarations in its parameter lists. -/
def Declarator.flattened : Declarator → Declarator
  | .nothing => .nothing
  | .name declared => .name declared
  | .grouped inner => .grouped inner.flattened
  | .pointer quals inner => .pointer quals inner.flattened
  | .reference rvalue inner => .reference rvalue inner.flattened
  | .array size inner => .array size inner.flattened
  | .function trailing params inner =>
    .function (Declaration.flattenedTrailing trailing) (Parameter.flattened params) inner.flattened

/-- A declaration with every name of a type replaced by its definition. -/
def Declaration.flattened : Declaration → Declaration
  | .mk specifier quals declarator => specifier.expanded definitions quals declarator.flattened

/-- A trailing return type as a flat declaration. -/
def Declaration.flattenedTrailing : Option Declaration → Option Declaration
  | none => none
  | some declaration => some declaration.flattened

/-- Parameters as flat declarations. -/
def Parameter.flattened : List Parameter → List Parameter
  | [] => []
  | .ellipsis :: rest => .ellipsis :: Parameter.flattened rest
  | .declared declaration :: rest => .declared declaration.flattened :: Parameter.flattened rest

end

/-- Names stand for what their definitions declare. The definitions are flat, so they are read with
the `plain` naming, and so is a name without a definition. -/
structure Naming.IsDefinedBy (naming plain : Naming) : Prop where
  lang_eq : naming.lang = plain.lang
  resolve_eq : ∀ name,
    match definitions.lookup name with
    | some definition => definition.type? plain = some (naming.resolve name)
    | none => plain.resolve name = naming.resolve name

end Flattened

variable {definitions : Definitions} {naming plain : Naming}

private theorem Declarator.isNothing_flattened (declarator : Declarator) :
    (declarator.flattened definitions).isNothing = declarator.isNothing := by
  cases declarator <;> rfl

@[simp] theorem Declarator.name?_flattened : ∀ declarator : Declarator,
    (declarator.flattened definitions).name? = declarator.name?
  | .nothing | .name _ => rfl
  | .grouped inner | .pointer _ inner | .reference _ inner | .array _ inner
  | .function _ _ inner => inner.name?_flattened

/-- With its definition in the place of a name, a declaration declares the same type. -/
theorem Specifier.type?_expanded (hDefined : naming.IsDefinedBy definitions plain)
    (specifier : Specifier) (quals : Qualifiers) (use : Declarator) :
    (specifier.expanded definitions quals use).type? plain =
      use.applied? plain ((specifier.type naming).qualified quals) := by
  cases specifier with
  | name text =>
      have hResolve := hDefined.resolve_eq text
      rw [expanded, Specifier.type]
      cases hLookup : definitions.lookup text with
      | some definition =>
          rw [hLookup] at hResolve
          simp only at hResolve ⊢
          rw [Declaration.type?_around, Declaration.type?_qualified, hResolve]
          rfl
      | none =>
          rw [hLookup] at hResolve
          simp only at hResolve ⊢
          rw [Declaration.type?, Specifier.type, hResolve]
  | tag kind name? =>
      change Declaration.type? plain (.mk (.tag kind name?) quals use) = _
      rw [Declaration.type?, Specifier.type, Specifier.type, hDefined.lang_eq]
  | builtin | namedBy | verbatim => rfl

private theorem Specifier.name?_expanded (specifier : Specifier) (quals : Qualifiers)
    (use : Declarator) : (specifier.expanded definitions quals use).name? = use.name? := by
  cases specifier with
  | name text =>
      rw [expanded]
      cases definitions.lookup text with
      | some definition => exact (definition.qualified quals).name?_around use
      | none => rfl
  | builtin | tag | namedBy | verbatim => rfl

theorem Declaration.name?_flattened (declaration : Declaration) :
    (declaration.flattened definitions).name? = declaration.name? := by
  cases declaration with
  | mk specifier quals declarator =>
      exact (specifier.name?_expanded quals _).trans declarator.name?_flattened

/-- A definition around a use that is to declare `void` has a declarator just when the use has. -/
theorem Declaration.isNothing_around {use : Declarator} {t : CType} (hVoid : t.isVoid = true) :
    ∀ {definition : Declaration}, (definition.around use).type? plain = some t →
      (definition.around use).declarator.isNothing = use.isNothing
  | .mk specifier quals declarator, hType => by
      cases hUse : use.isNothing with
      | false => exact Declarator.isNothing_around_of_present hUse declarator
      | true =>
          obtain rfl : use = .nothing := by
            cases use <;> first | rfl | cases hUse
          rw [CType.isVoid_iff.mp hVoid, type?_around, Option.bind_eq_some_iff] at hType
          obtain ⟨made, hMade, hNothing⟩ := hType
          rw [Option.some.inj hNothing] at hMade
          exact declarator.isNothing_around_nothing hMade

private theorem Specifier.isNothing_expanded (specifier : Specifier) {quals : Qualifiers}
    {use : Declarator} {t : CType} (hVoid : t.isVoid = true)
    (hType : (specifier.expanded definitions quals use).type? plain = some t) :
    (specifier.expanded definitions quals use).declarator.isNothing = use.isNothing := by
  cases specifier with
  | name text =>
      rw [expanded] at hType ⊢
      cases hLookup : definitions.lookup text with
      | some definition =>
          rw [hLookup] at hType
          exact Declaration.isNothing_around hVoid hType
      | none => rfl
  | builtin | tag | namedBy | verbatim => rfl

/-- Whether a parameter says that there are none is found in the flat declaration too. -/
theorem Declaration.saysNone_flattened : ∀ {declaration : Declaration} {t : CType},
    (declaration.flattened definitions).type? plain = some t →
      ((declaration.flattened definitions).declarator.isNothing && t.isVoid) =
        (declaration.declarator.isNothing && t.isVoid)
  | .mk specifier _ declarator, t, hType => by
      cases hVoid : t.isVoid with
      | false => rw [Bool.and_false, Bool.and_false]
      | true =>
          rw [Declaration.flattened] at hType ⊢
          rw [specifier.isNothing_expanded hVoid hType, declarator.isNothing_flattened]
          rfl

/-- The first of some parameters, by its type. -/
theorem Parameter.types?_cons (declaration : Declaration) (rest : List Parameter) :
    Parameter.types? naming (.declared declaration :: rest) =
      (do
        let t ← declaration.type? naming
        let params ← Parameter.types? naming rest
        if declaration.declarator.isNothing && t.isVoid then some { params with saysNone := true }
        else some { params with types := t.adjustedParameter :: params.types }) := by
  cases declaration
  rfl

mutual

private theorem Declarator.applied?_flattened (hDefined : naming.IsDefinedBy definitions plain) :
    ∀ (declarator : Declarator) (t : CType),
      Declarator.applied? plain (declarator.flattened definitions) t =
        declarator.applied? naming t
  | .nothing, _ | .name _, _ => rfl
  | .grouped inner, t => inner.applied?_flattened hDefined t
  | .pointer quals inner, t => inner.applied?_flattened hDefined (.pointer t quals)
  | .reference rvalue inner, t => inner.applied?_flattened hDefined (.reference t rvalue)
  | .array size inner, t => inner.applied?_flattened hDefined (.array t size)
  | .function trailing params inner, t => by
      simp only [Declarator.flattened, Declarator.applied?,
        Declaration.typeOr?_flattened hDefined trailing t,
        Parameter.types?_flattened hDefined params, ← hDefined.lang_eq,
        inner.applied?_flattened hDefined]

/-- A flat declaration declares the same type without the definitions. -/
theorem Declaration.type?_flattened (hDefined : naming.IsDefinedBy definitions plain) :
    ∀ declaration : Declaration,
      (declaration.flattened definitions).type? plain = declaration.type? naming
  | .mk specifier quals declarator => by
      rw [Declaration.flattened, specifier.type?_expanded hDefined,
        declarator.applied?_flattened hDefined, Declaration.type?]

private theorem Declaration.typeOr?_flattened (hDefined : naming.IsDefinedBy definitions plain) :
    ∀ (trailing : Option Declaration) (t : CType),
      Declaration.typeOr? plain (Declaration.flattenedTrailing definitions trailing) t =
        Declaration.typeOr? naming trailing t
  | none, _ => rfl
  | some declaration, _ => declaration.type?_flattened hDefined

private theorem Parameter.types?_flattened (hDefined : naming.IsDefinedBy definitions plain) :
    ∀ params : List Parameter,
      Parameter.types? plain (Parameter.flattened definitions params) =
        Parameter.types? naming params
  | [] => rfl
  | .ellipsis :: rest => by
      rw [Parameter.flattened, Parameter.types?, Parameter.types?,
        Parameter.types?_flattened hDefined rest]
  | .declared declaration :: rest => by
      have hType := declaration.type?_flattened hDefined
      rw [Parameter.flattened, Parameter.types?_cons, Parameter.types?_cons,
        Parameter.types?_flattened hDefined rest, hType]
      refine Option.bind_congr fun t hDeclares => Option.bind_congr fun params _ => ?_
      rw [Declaration.saysNone_flattened (hType.trans hDeclares)]

end

end FunctionCatalog
