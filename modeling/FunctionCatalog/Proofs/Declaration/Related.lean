import FunctionCatalog.Declaration.Meaning
import FunctionCatalog.Proofs.CType.Parts
import Mathlib.Data.Option.Basic

/-!
# Declarations under related names

What a declaration declares depends on the types that names stand for. A declaration that is read
under two namings, in which names stand for related types, declares related types, if every step of
building a type keeps the relation.

## Main results

* `Declaration.related_type?` — one declaration declares related types.
-/

namespace FunctionCatalog

open CType

variable {related : CType → CType → Prop}

/-- Two namings of one language under which names stand for related types. -/
structure Naming.Related (related : CType → CType → Prop) (naming naming' : Naming) : Prop where
  lang_eq : naming.lang = naming'.lang
  resolve : ∀ name, related (naming.resolve name) (naming'.resolve name)

/-- Two parameter lists that say the same about related types. -/
structure ParameterTypes.Related (related : CType → CType → Prop)
    (params params' : ParameterTypes) :
    Prop where
  types : List.Forall₂ related params.types params'.types
  isVariadic_eq : params.isVariadic = params'.isVariadic
  saysNone_eq : params.saysNone = params'.saysNone

/-- What is done in the same way with related results gives related results. -/
theorem rel_bind {α α' β β' : Type} {related : α → α' → Prop} {related' : β → β' → Prop}
    {first : Option α} {first' : Option α'} {next : α → Option β} {next' : α' → Option β'}
    (hFirst : Option.Rel related first first')
    (hNext : ∀ item item', related item item' → Option.Rel related' (next item) (next' item')) :
    Option.Rel related' (first.bind next) (first'.bind next') := by
  cases hFirst with
  | none => exact .none
  | some h => exact hNext _ _ h

private theorem Specifier.related_type (hRelated : Congruence related) {naming naming' : Naming}
    (hNaming : naming.Related related naming') (specifier : Specifier) :
    related (specifier.type naming) (specifier.type naming') := by
  cases specifier with
  | name text => exact hNaming.resolve text
  | tag kind name? =>
      rw [Specifier.type, Specifier.type, hNaming.lang_eq]
      exact hRelated.refl _
  | builtin | namedBy | verbatim => exact hRelated.refl _

theorem ParameterTypes.Related.functionType? (hRelated : Congruence related) (lang : Language)
    {params params' : ParameterTypes} (h : params.Related related params') {result result' : CType}
    (hResult : related result result') :
    Option.Rel related (params.functionType? lang result) (params'.functionType? lang result') := by
  have hEmpty : params.types.isEmpty = params'.types.isEmpty := by
    have hTypes := h.types
    generalize params.types = types, params'.types = types' at hTypes
    cases hTypes <;> rfl
  have hContradictory : params.isContradictory = params'.isContradictory := by
    rw [isContradictory, isContradictory, h.saysNone_eq, h.isVariadic_eq, hEmpty]
  have hPrototype : params.isPrototype lang = params'.isPrototype lang := by
    rw [isPrototype, isPrototype, h.saysNone_eq, h.isVariadic_eq, hEmpty]
  rw [ParameterTypes.functionType?, ParameterTypes.functionType?, ← hContradictory, ← hPrototype,
    ← h.isVariadic_eq]
  split
  · exact .none
  · exact .some (hRelated.function _ _ hResult h.types)

section Declarations

variable {naming naming' : Naming}

-- The induction is on the syntax of one declaration, which is read with both namings.
mutual

theorem Declarator.related_applied? (hRelated : Congruence related)
    (hNaming : naming.Related related naming') : ∀ (declarator : Declarator) {t t' : CType},
    related t t' →
      Option.Rel related (declarator.applied? naming t) (declarator.applied? naming' t')
  | .nothing, _, _, h | .name _, _, _, h => .some h
  | .grouped inner, _, _, h => inner.related_applied? hRelated hNaming h
  | .pointer quals inner, _, _, h =>
    inner.related_applied? hRelated hNaming (hRelated.pointer quals h)
  | .reference rvalue inner, _, _, h =>
    inner.related_applied? hRelated hNaming (hRelated.reference rvalue h)
  | .array size inner, _, _, h => inner.related_applied? hRelated hNaming (hRelated.array size h)
  | .function trailing params inner, _, _, h => by
      have hResult := Declaration.related_typeOr? hRelated hNaming trailing h
      have hParams := Parameter.related_types? hRelated hNaming params
      refine rel_bind hResult fun result result' hResult => ?_
      refine rel_bind hParams fun types types' hTypes => ?_
      rw [← hNaming.lang_eq]
      exact rel_bind (hTypes.functionType? hRelated _ hResult) fun _ _ hFunction =>
        inner.related_applied? hRelated hNaming hFunction

/-- One declaration declares related types. -/
theorem Declaration.related_type? (hRelated : Congruence related)
    (hNaming : naming.Related related naming') : ∀ declaration : Declaration,
    Option.Rel related (declaration.type? naming) (declaration.type? naming')
  | .mk specifier quals declarator =>
    declarator.related_applied? hRelated hNaming
      (hRelated.qualified quals (specifier.related_type hRelated hNaming))

private theorem Declaration.related_typeOr? (hRelated : Congruence related)
    (hNaming : naming.Related related naming') :
    ∀ (trailing : Option Declaration) {t t' : CType}, related t t' →
      Option.Rel related (Declaration.typeOr? naming trailing t)
        (Declaration.typeOr? naming' trailing t')
  | none, _, _, h => .some h
  | some declaration, _, _, _ => declaration.related_type? hRelated hNaming

private theorem Parameter.related_types? (hRelated : Congruence related)
    (hNaming : naming.Related related naming') : ∀ params : List Parameter,
    Option.Rel (ParameterTypes.Related related) (Parameter.types? naming params)
      (Parameter.types? naming' params)
  | [] => .some ⟨.nil, rfl, rfl⟩
  | .ellipsis :: rest =>
    rel_bind (Parameter.related_types? hRelated hNaming rest) fun _ _ h =>
      .some ⟨h.types, rfl, h.saysNone_eq⟩
  | .declared (.mk specifier quals declarator) :: rest => by
      have hType := declarator.related_applied? hRelated hNaming
        (hRelated.qualified quals (specifier.related_type hRelated hNaming))
      have hRest := Parameter.related_types? hRelated hNaming rest
      refine rel_bind hType fun t t' h => rel_bind hRest fun types types' hTypes => ?_
      rw [← hRelated.isVoid_eq h]
      split
      · exact .some ⟨hTypes.types, hTypes.isVariadic_eq, rfl⟩
      · exact .some ⟨.cons (hRelated.adjustedParameter h) hTypes.types, hTypes.isVariadic_eq,
          hTypes.saysNone_eq⟩

end

theorem Naming.Related.declare (hNaming : naming.Related related naming') (typeName : String)
    {t t' : CType} (h : related t t') :
    (naming.declare typeName t).Related related (naming'.declare typeName t') where
  lang_eq := hNaming.lang_eq
  resolve other := by
    have hOther := hNaming.resolve other
    rw [Naming.resolve, Naming.resolve] at hOther ⊢
    rw [Naming.declare, Naming.declare, List.lookup_cons, List.lookup_cons]
    cases other == typeName with
    | true => exact h
    | false => exact hOther

end Declarations

end FunctionCatalog
