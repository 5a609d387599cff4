import FunctionCatalog.Proofs.CType.References
import FunctionCatalog.Proofs.Declaration.Related

/-!
# References in declarations

A reference operator keeps the type that it is applied to as it is, a reference too. So a reference
to a reference comes from a declaration in which an operator for one is applied to another one,
which is that of a type name or of the same declarator. Nothing else makes one.

## Main results

* `Declaration.refersDirectly_type?` — a declaration that applies no reference to a reference
  declares a type without references to references.
* `Declaration.collapsed_type?` — what is declared collapses to the same type whether type names
  stand for references to references or for what these collapse to.
-/

namespace FunctionCatalog

open CType

section

variable (naming : Naming)

mutual

/-- Whether a declarator, or a declaration in it, applies a reference to a reference, if what the
declarator is applied to is a reference or if it is none. -/
def Declarator.stacksReferences : Declarator → Bool → Bool
  | .nothing, _ | .name _, _ => false
  | .grouped inner, onReference => inner.stacksReferences onReference
  | .pointer _ inner, _ | .array _ inner, _ => inner.stacksReferences false
  | .reference _ inner, onReference => onReference || inner.stacksReferences true
  | .function trailing params inner, _ =>
    Declaration.someStackReferences trailing || Parameter.someStackReferences params ||
      inner.stacksReferences false

/-- Whether a declaration applies a reference to a reference. -/
def Declaration.stacksReferences : Declaration → Bool
  | .mk specifier _ declarator =>
    declarator.stacksReferences (specifier.type naming).isReference

/-- Whether a trailing declaration applies a reference to a reference. -/
def Declaration.someStackReferences : Option Declaration → Bool
  | none => false
  | some declaration => declaration.stacksReferences

/-- Whether a parameter in a list applies a reference to a reference. -/
def Parameter.someStackReferences : List Parameter → Bool
  | [] => false
  | .ellipsis :: rest => Parameter.someStackReferences rest
  | .declared (.mk specifier _ declarator) :: rest =>
    declarator.stacksReferences (specifier.type naming).isReference ||
      Parameter.someStackReferences rest

end

end

private theorem CType.isReference_qualified (t : CType) (quals : Qualifiers) :
    (t.qualified quals).isReference = t.isReference := by
  cases t <;> rfl

private theorem CType.refersDirectly_adjustedParameter {t : CType}
    (hAll : Everywhere RefersDirectly t) :
    Everywhere RefersDirectly t.adjustedParameter :=
  hAll.adjustedParameter fun _ _ => trivial

private theorem CType.refersDirectly_qualified {t : CType} (hAll : Everywhere RefersDirectly t)
    (quals : Qualifiers) : Everywhere RefersDirectly (t.qualified quals) := by
  refine hAll.qualified (fun t quals hDirect => ?_) quals
  cases t with
  | reference => exact hDirect
  | _ => trivial

section Direct

variable {naming : Naming}

private theorem Specifier.refersDirectly_type
    (hNames : ∀ name, Everywhere RefersDirectly (naming.resolve name)) (specifier : Specifier) :
    Everywhere RefersDirectly (specifier.type naming) := by
  cases specifier with
  | name text => exact hNames text
  | builtin | tag | namedBy | verbatim => exact everywhere_named_iff.2 trivial

-- The induction is on the syntax. What an operator is applied to is a type without references to
-- references, and what `stacksReferences` is told about it is whether it is a reference.
mutual

private theorem Declarator.refersDirectly_applied?
    (hNames : ∀ name, Everywhere RefersDirectly (naming.resolve name)) :
    ∀ (declarator : Declarator) {t t' : CType}, Everywhere RefersDirectly t →
      declarator.stacksReferences naming t.isReference = false →
        declarator.applied? naming t = some t' → Everywhere RefersDirectly t'
  | .nothing, _, _, hAll, _, hApply | .name _, _, _, hAll, _, hApply =>
    Option.some.inj hApply ▸ hAll
  | .grouped inner, _, _, hAll, hStacks, hApply =>
    inner.refersDirectly_applied? hNames hAll hStacks hApply
  | .pointer quals inner, _, _, hAll, hStacks, hApply =>
    inner.refersDirectly_applied? hNames (everywhere_pointer_iff.2 ⟨trivial, hAll⟩) hStacks hApply
  | .reference rvalue inner, _, _, hAll, hStacks, hApply => by
      obtain ⟨hOther, hInner⟩ := Bool.or_eq_false_iff.1 hStacks
      exact inner.refersDirectly_applied? hNames (everywhere_reference_iff.2 ⟨hOther, hAll⟩) hInner
        hApply
  | .array size inner, _, _, hAll, hStacks, hApply =>
    inner.refersDirectly_applied? hNames (everywhere_array_iff.2 ⟨trivial, hAll⟩) hStacks hApply
  | .function trailing params inner, _, _, hAll, hStacks, hApply => by
      obtain ⟨hBefore, hInner⟩ := Bool.or_eq_false_iff.1 hStacks
      obtain ⟨hTrailing, hParams⟩ := Bool.or_eq_false_iff.1 hBefore
      obtain ⟨result, hResult, hApply⟩ := Option.bind_eq_some_iff.1 hApply
      obtain ⟨types, hTypes, hApply⟩ := Option.bind_eq_some_iff.1 hApply
      obtain ⟨function, hFunction, hApply⟩ := Option.bind_eq_some_iff.1 hApply
      have hResultAll := Declaration.refersDirectly_typeOr? hNames trailing hAll hTrailing hResult
      have hTypesAll := Parameter.refersDirectly_types? hNames params hParams hTypes
      rw [ParameterTypes.functionType?] at hFunction
      split at hFunction
      · cases hFunction
      · obtain rfl := Option.some.inj hFunction
        exact inner.refersDirectly_applied? hNames
          (everywhere_function_iff.2 ⟨trivial, hResultAll, hTypesAll⟩) hInner hApply

/-- A declaration that applies no reference to a reference declares a type without references to
references, if names stand for such types. -/
theorem Declaration.refersDirectly_type?
    (hNames : ∀ name, Everywhere RefersDirectly (naming.resolve name)) :
    ∀ (declaration : Declaration) {t : CType}, declaration.stacksReferences naming = false →
      declaration.type? naming = some t → Everywhere RefersDirectly t
  | .mk specifier quals declarator, _, hStacks, hType => by
      have hBase := refersDirectly_qualified (specifier.refersDirectly_type hNames) quals
      rw [Declaration.stacksReferences, ← isReference_qualified _ quals] at hStacks
      exact declarator.refersDirectly_applied? hNames hBase hStacks hType

private theorem Declaration.refersDirectly_typeOr?
    (hNames : ∀ name, Everywhere RefersDirectly (naming.resolve name)) :
    ∀ (trailing : Option Declaration) {t t' : CType}, Everywhere RefersDirectly t →
      Declaration.someStackReferences naming trailing = false →
        Declaration.typeOr? naming trailing t = some t' → Everywhere RefersDirectly t'
  | none, _, _, hAll, _, hType => Option.some.inj hType ▸ hAll
  | some declaration, _, _, _, hStacks, hType =>
    declaration.refersDirectly_type? hNames hStacks hType

private theorem Parameter.refersDirectly_types?
    (hNames : ∀ name, Everywhere RefersDirectly (naming.resolve name)) :
    ∀ (params : List Parameter) {types : ParameterTypes},
      Parameter.someStackReferences naming params = false →
        Parameter.types? naming params = some types →
          ∀ t ∈ types.types, Everywhere RefersDirectly t
  | [], _, _, hTypes => by
      obtain rfl := Option.some.inj hTypes
      simp
  | .ellipsis :: rest, _, hStacks, hTypes => by
      obtain ⟨others, hOthers, hTypes⟩ := Option.bind_eq_some_iff.1 hTypes
      have hOthersAll := Parameter.refersDirectly_types? hNames rest hStacks hOthers
      obtain rfl := Option.some.inj hTypes
      exact hOthersAll
  | .declared (.mk specifier quals declarator) :: rest, _, hStacks, hTypes => by
      obtain ⟨hFirst, hRest⟩ := Bool.or_eq_false_iff.1 hStacks
      obtain ⟨type, hType, hTypes⟩ := Option.bind_eq_some_iff.1 hTypes
      obtain ⟨others, hOthers, hTypes⟩ := Option.bind_eq_some_iff.1 hTypes
      have hBase := refersDirectly_qualified (specifier.refersDirectly_type hNames) quals
      rw [← isReference_qualified _ quals] at hFirst
      have hTypeAll := declarator.refersDirectly_applied? hNames hBase hFirst hType
      have hOthersAll := Parameter.refersDirectly_types? hNames rest hRest hOthers
      split at hTypes
      · obtain rfl := Option.some.inj hTypes
        exact hOthersAll
      · obtain rfl := Option.some.inj hTypes
        exact List.forall_mem_cons.2 ⟨refersDirectly_adjustedParameter hTypeAll, hOthersAll⟩

end

end Direct

/-! ## Collapsing at once -/

/-- The names, with the types that those of the file collapse to. -/
def Naming.collapsed (naming : Naming) : Naming :=
  { naming with locals := naming.locals.map fun (name, t) => (name, t.collapsed) }

private theorem Naming.related_collapsed (naming : Naming) :
    naming.Related CollapsesAlike naming.collapsed where
  lang_eq := rfl
  resolve name := by
    have hLookup : naming.collapsed.locals.lookup name =
        (naming.locals.lookup name).map CType.collapsed := by
      rw [Naming.collapsed]
      induction naming.locals with
      | nil => rfl
      | cons entry rest ih =>
          rw [List.map_cons, List.lookup_cons, List.lookup_cons, ih]
          cases name == entry.1 <;> rfl
    rw [CollapsesAlike, Naming.resolve, Naming.resolve, hLookup]
    cases naming.locals.lookup name with
    | none => rfl
    | some t => exact (collapsed_collapsed t).symm

/-- What is declared collapses to the same type whether type names stand for references to
references or for what these collapse to. -/
theorem Declaration.collapsed_type? (naming : Naming) (declaration : Declaration) :
    (declaration.type? naming).map CType.collapsed =
      (declaration.type? naming.collapsed).map CType.collapsed := by
  have hTypes := declaration.related_type? CollapsesAlike.congruence naming.related_collapsed
  generalize declaration.type? naming = type?,
    declaration.type? naming.collapsed = type?' at hTypes ⊢
  cases hTypes with
  | none => rfl
  | some h => exact congrArg some h

end FunctionCatalog
