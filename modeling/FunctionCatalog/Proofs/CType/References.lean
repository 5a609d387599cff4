import FunctionCatalog.Proofs.CType.Parts
import FunctionCatalog.Proofs.CType.WellFormed

/-!
# References to references

In C++ a reference to a reference collapses: it is an rvalue reference if both are, and an lvalue
reference otherwise. A type keeps all references that were applied, each over the one before it, and
`CType.collapsed` is what they collapse to. References that are applied to each other form a stack,
and only stacks of more than one collapse.

## Main results

* `CType.collapsed_eq_iff` — a type collapses to itself if no reference refers to a reference.
* `CType.CollapsesAlike.congruence` — it makes no difference when references collapse.
* `CType.referenceStacks_collapsed` — of each stack, one reference is left.
-/

namespace FunctionCatalog

namespace CType

/-! ## Collapsing -/

/-- A reference to a type. A reference to a reference collapses. -/
def referenceTo : CType → Bool → CType
  | reference referent inner, rvalue => reference referent (inner && rvalue)
  | named name quals, rvalue => reference (named name quals) rvalue
  | pointer pointee quals, rvalue => reference (pointer pointee quals) rvalue
  | array element size, rvalue => reference (array element size) rvalue
  | function result params variadic prototyped, rvalue =>
    reference (function result params variadic prototyped) rvalue

mutual

/-- The type in which all references to references have collapsed. -/
def collapsed : CType → CType
  | named name quals => named name quals
  | pointer pointee quals => pointer pointee.collapsed quals
  | reference referent rvalue => referent.collapsed.referenceTo rvalue
  | array element size => array element.collapsed size
  | function result params variadic prototyped =>
    function result.collapsed (collapsedAll params) variadic prototyped

/-- The types in a list, collapsed. -/
def collapsedAll : List CType → List CType
  | [] => []
  | t :: rest => t.collapsed :: collapsedAll rest

end

@[simp] theorem collapsedAll_eq_map (types : List CType) :
    collapsedAll types = types.map collapsed := by
  induction types with
  | nil => rfl
  | cons t rest ih => rw [collapsedAll, ih, List.map_cons]

/-- A reference refers to something else than a reference. -/
def RefersDirectly : CType → Prop
  | reference referent _ => referent.isReference = false
  | named .. | pointer .. | array .. | function .. => True

private theorem referenceTo_eq {t : CType} (hOther : t.isReference = false) (rvalue : Bool) :
    t.referenceTo rvalue = reference t rvalue := by
  cases t with
  | reference => cases hOther
  | _ => rfl

private theorem isReference_referenceTo (t : CType) (rvalue : Bool) :
    (t.referenceTo rvalue).isReference = true := by
  cases t <;> rfl

theorem isReference_collapsed (t : CType) : t.collapsed.isReference = t.isReference := by
  cases t with
  | reference referent rvalue => rw [collapsed, isReference_referenceTo, isReference]
  | _ => rfl

private theorem refersDirectly_referenceTo {t : CType} (hAll : Everywhere RefersDirectly t)
    (rvalue : Bool) : Everywhere RefersDirectly (t.referenceTo rvalue) := by
  cases t with
  | reference referent inner =>
      exact everywhere_reference_iff.2 ⟨hAll.self, (everywhere_reference_iff.1 hAll).2⟩
  | _ => exact everywhere_reference_iff.2 ⟨rfl, hAll⟩

mutual

private theorem refersDirectly_collapsed : ∀ t : CType, Everywhere RefersDirectly t.collapsed
  | named name quals => everywhere_named_iff.2 trivial
  | pointer pointee quals => everywhere_pointer_iff.2 ⟨trivial, refersDirectly_collapsed pointee⟩
  | reference referent rvalue =>
    refersDirectly_referenceTo (refersDirectly_collapsed referent) rvalue
  | array element size => everywhere_array_iff.2 ⟨trivial, refersDirectly_collapsed element⟩
  | function result params variadic prototyped => by
      rw [collapsed]
      exact everywhere_function_iff.2
        ⟨trivial, refersDirectly_collapsed result, refersDirectly_collapsedAll params⟩

private theorem refersDirectly_collapsedAll : ∀ types : List CType,
    ∀ t ∈ collapsedAll types, Everywhere RefersDirectly t
  | [] => by simp [collapsedAll]
  | t :: rest => by
      rw [collapsedAll]
      exact List.forall_mem_cons.2
        ⟨refersDirectly_collapsed t, refersDirectly_collapsedAll rest⟩

end

mutual

theorem collapsed_eq_self : ∀ {t : CType}, Everywhere RefersDirectly t → t.collapsed = t
  | named name quals, _ => rfl
  | pointer pointee quals, hAll => by
      rw [collapsed, collapsed_eq_self (everywhere_pointer_iff.1 hAll).2]
  | reference referent rvalue, hAll => by
      obtain ⟨hDirect, hReferent⟩ := everywhere_reference_iff.1 hAll
      rw [collapsed, collapsed_eq_self hReferent, referenceTo_eq hDirect]
  | array element size, hAll => by
      rw [collapsed, collapsed_eq_self (everywhere_array_iff.1 hAll).2]
  | function result params variadic prototyped, hAll => by
      obtain ⟨-, hResult, hParams⟩ := everywhere_function_iff.1 hAll
      rw [collapsed, collapsed_eq_self hResult, collapsedAll_eq_self hParams]

private theorem collapsedAll_eq_self : ∀ {types : List CType},
    (∀ t ∈ types, Everywhere RefersDirectly t) → collapsedAll types = types
  | [], _ => rfl
  | t :: rest, hAll => by
      obtain ⟨hFirst, hRest⟩ := List.forall_mem_cons.1 hAll
      rw [collapsedAll, collapsed_eq_self hFirst, collapsedAll_eq_self hRest]

end

/-- A type collapses to itself if no reference in it refers to a reference. -/
theorem collapsed_eq_iff {t : CType} : t.collapsed = t ↔ Everywhere RefersDirectly t :=
  ⟨fun hSame => hSame ▸ refersDirectly_collapsed t, collapsed_eq_self⟩

/-- Collapsing leaves nothing to collapse. -/
theorem collapsed_collapsed (t : CType) : t.collapsed.collapsed = t.collapsed :=
  collapsed_eq_self (refersDirectly_collapsed t)

private theorem collapsed_qualified (t : CType) (quals : Qualifiers) :
    (t.qualified quals).collapsed = t.collapsed.qualified quals := by
  induction t, quals using CType.qualified.induct with
  | case1 name own quals | case2 pointee own quals => rfl
  | case3 element size quals ih => rw [qualified, collapsed, ih, collapsed, qualified]
  | case4 referent rvalue quals =>
      have hReference : ∀ t : CType,
          (t.referenceTo rvalue).qualified quals = t.referenceTo rvalue :=
        fun t => by cases t <;> rfl
      rw [qualified, collapsed, hReference]
  | case5 result params variadic prototyped quals => rw [qualified, collapsed, qualified]

private theorem collapsed_adjustedParameter (t : CType) :
    t.adjustedParameter.collapsed = t.collapsed.adjustedParameter := by
  cases t with
  | reference referent rvalue =>
      have hReference : ∀ t : CType,
          (t.referenceTo rvalue).adjustedParameter = t.referenceTo rvalue :=
        fun t => by cases t <;> rfl
      rw [collapsed, hReference]
      rfl
  | _ => simp only [adjustedParameter, collapsed, pointerTo]

private theorem isVoid_collapsed (t : CType) : t.collapsed.isVoid = t.isVoid := by
  cases t with
  | reference referent rvalue =>
      have hReference : ∀ t : CType, (t.referenceTo rvalue).isVoid = false :=
        fun t => by cases t <;> rfl
      rw [collapsed, hReference]
      rfl
  | _ => rfl

/-- Two types that collapse to the same type. -/
def CollapsesAlike (t t' : CType) : Prop :=
  t.collapsed = t'.collapsed

private theorem map_collapsed_eq {types types' : List CType}
    (h : List.Forall₂ CollapsesAlike types types') :
    types.map collapsed = types'.map collapsed := by
  induction h with
  | nil => rfl
  | cons hFirst _ ih => rw [List.map_cons, List.map_cons, hFirst, ih]

/-- It makes no difference when references collapse. -/
theorem CollapsesAlike.congruence : Congruence CollapsesAlike where
  refl _ := rfl
  pointer quals h := congrArg (pointer · quals) h
  reference rvalue h := congrArg (referenceTo · rvalue) h
  array size h := congrArg (array · size) h
  function {t t' params params'} variadic prototyped h hParams := by
    rw [CollapsesAlike, collapsed, collapsed, collapsedAll_eq_map, collapsedAll_eq_map, h,
      map_collapsed_eq hParams]
  qualified {t t'} quals h := by
    rw [CollapsesAlike, collapsed_qualified, collapsed_qualified, h]
  adjustedParameter {t t'} h := by
    rw [CollapsesAlike, collapsed_adjustedParameter, collapsed_adjustedParameter, h]
  isVoid_eq {t t'} h := by rw [← isVoid_collapsed t, ← isVoid_collapsed t', h]

/-! ## Stacks -/

/-- The stacks, once the one at hand has ended. -/
def endStack (stack : List Bool) (inside : List (List Bool)) : List (List Bool) :=
  if stack.isEmpty then inside else stack :: inside

mutual

/-- The stacks of references in a type, in the order in which a spelling shows them: behind those
that are applied to the type, in which the one next to it is listed first, come those that stand at
the place of the name. -/
def stacksAround : CType → List Bool → List (List Bool) → List (List Bool)
  | named _ _, stack, inside => endStack stack inside
  | pointer pointee _, stack, inside => pointee.stacksAround [] (endStack stack inside)
  | reference referent rvalue, stack, inside => referent.stacksAround (rvalue :: stack) inside
  | array element _, stack, inside => element.stacksAround [] (endStack stack inside)
  | function result params _ _, stack, inside =>
    result.stacksAround [] (endStack stack inside ++ stacksAmong params)

/-- The stacks of references in the types of a list. -/
def stacksAmong : List CType → List (List Bool)
  | [] => []
  | t :: rest => t.stacksAround [] [] ++ stacksAmong rest

end

/-- The stacks of references in a type, each from the type at the bottom outwards. -/
def referenceStacks (t : CType) : List (List Bool) :=
  t.stacksAround [] []

theorem stacksAround_eq {t : CType} (hOther : t.isReference = false) (stack : List Bool)
    (inside : List (List Bool)) :
    t.stacksAround stack inside = t.stacksAround [] (endStack stack inside) := by
  cases t with
  | reference => cases hOther
  | _ => simp only [stacksAround, endStack, List.isEmpty_nil, if_true]

/-- The reference that is left of a stack. -/
def collapsedStack (stack : List Bool) : List Bool :=
  [stack.all id]

private theorem foldl_referenceTo_reference (t : CType) (stack : List Bool) (rvalue : Bool) :
    stack.foldl referenceTo (reference t rvalue) = reference t (rvalue && stack.all id) := by
  induction stack generalizing rvalue with
  | nil => simp
  | cons next stack ih => rw [List.foldl_cons, referenceTo, ih, List.all_cons, Bool.and_assoc, id]

/-- References that are applied to a type collapse to one over it. -/
theorem stacksAround_foldl_referenceTo {t : CType} (hOther : t.isReference = false)
    (stack : List Bool) (inside : List (List Bool)) :
    (stack.foldl referenceTo t).stacksAround [] (inside.map collapsedStack) =
      t.stacksAround [] ((endStack stack inside).map collapsedStack) := by
  cases stack with
  | nil => rfl
  | cons rvalue stack =>
      have hStack : stack.foldl referenceTo (t.referenceTo rvalue) =
          reference t ((rvalue :: stack).all id) := by
        rw [referenceTo_eq hOther, foldl_referenceTo_reference, List.all_cons, id]
      rw [List.foldl_cons, hStack, stacksAround, stacksAround_eq hOther]
      rfl

mutual

-- A type collapses from the inside, and its stacks are listed from the outside. The references that
-- are still to be applied are the stack, so they are folded over what the type collapses to.
private theorem stacksAround_collapsed :
    ∀ (t : CType) (stack : List Bool) (inside : List (List Bool)),
      (stack.foldl referenceTo t.collapsed).stacksAround [] (inside.map collapsedStack) =
        (t.stacksAround stack inside).map collapsedStack
  | named name quals, stack, inside => by
      rw [stacksAround_foldl_referenceTo (isReference_collapsed _)]
      rfl
  | pointer pointee quals, stack, inside => by
      rw [stacksAround_foldl_referenceTo (isReference_collapsed _), collapsed, stacksAround,
        stacksAround, ← stacksAround_collapsed pointee]
      rfl
  | reference referent rvalue, stack, inside => by
      rw [collapsed, stacksAround, ← stacksAround_collapsed referent, List.foldl_cons]
  | array element size, stack, inside => by
      rw [stacksAround_foldl_referenceTo (isReference_collapsed _), collapsed, stacksAround,
        stacksAround, ← stacksAround_collapsed element]
      rfl
  | function result params variadic prototyped, stack, inside => by
      rw [stacksAround_foldl_referenceTo (isReference_collapsed _), collapsed, stacksAround,
        stacksAround, ← stacksAround_collapsed result, List.map_append,
        stacksAmong_collapsedAll params]
      rfl

private theorem stacksAmong_collapsedAll : ∀ types : List CType,
    stacksAmong (collapsedAll types) = (stacksAmong types).map collapsedStack
  | [] => rfl
  | t :: rest => by
      have hFirst : t.collapsed.stacksAround [] [] = _ := stacksAround_collapsed t [] []
      rw [collapsedAll, stacksAmong, hFirst, stacksAmong_collapsedAll rest, stacksAmong,
        List.map_append]

end

mutual

/-- If all stacks are single references, no reference refers to a reference. -/
theorem refersDirectly_of_stacksAround : ∀ (t : CType) {stack : List Bool}
    {inside : List (List Bool)}, (∀ shown ∈ t.stacksAround stack inside, shown.length = 1) →
      Everywhere RefersDirectly t ∧ (t.isReference = true → stack = []) ∧
        ∀ shown ∈ endStack stack inside, shown.length = 1
  | named name quals, _, _, hSingle =>
      ⟨everywhere_named_iff.2 trivial, nofun, hSingle⟩
  | pointer pointee quals, _, _, hSingle => by
      obtain ⟨hPointee, -, hInside⟩ := refersDirectly_of_stacksAround pointee hSingle
      exact ⟨everywhere_pointer_iff.2 ⟨trivial, hPointee⟩, nofun, hInside⟩
  | reference referent rvalue, stack, inside, hSingle => by
      obtain ⟨hReferent, hOther, hInside⟩ := refersDirectly_of_stacksAround referent hSingle
      have hDirect : referent.isReference = false :=
        Bool.eq_false_iff.2 fun hReference => absurd (hOther hReference) (List.cons_ne_nil _ _)
      obtain ⟨hFirst, hRest⟩ := List.forall_mem_cons.1 hInside
      obtain rfl : stack = [] := by simpa using hFirst
      exact ⟨everywhere_reference_iff.2 ⟨hDirect, hReferent⟩, fun _ => rfl, hRest⟩
  | array element size, _, _, hSingle => by
      obtain ⟨hElement, -, hInside⟩ := refersDirectly_of_stacksAround element hSingle
      exact ⟨everywhere_array_iff.2 ⟨trivial, hElement⟩, nofun, hInside⟩
  | function result params variadic prototyped, _, _, hSingle => by
      obtain ⟨hResult, -, hInside⟩ := refersDirectly_of_stacksAround result hSingle
      obtain ⟨hInside, hAmong⟩ := List.forall_mem_append.1 hInside
      have hParams := refersDirectly_of_stacksAmong params hAmong
      exact ⟨everywhere_function_iff.2 ⟨trivial, hResult, hParams⟩, nofun, hInside⟩

private theorem refersDirectly_of_stacksAmong : ∀ types : List CType,
    (∀ shown ∈ stacksAmong types, shown.length = 1) → ∀ t ∈ types, Everywhere RefersDirectly t
  | [], _ => by simp
  | t :: rest, hSingle => by
      obtain ⟨hFirst, hRest⟩ := List.forall_mem_append.1 hSingle
      exact List.forall_mem_cons.2
        ⟨(refersDirectly_of_stacksAround t hFirst).1, refersDirectly_of_stacksAmong rest hRest⟩

end

/-- Of each stack, one reference is left. It is an rvalue reference if all of them are. -/
theorem referenceStacks_collapsed (t : CType) :
    t.collapsed.referenceStacks = t.referenceStacks.map collapsedStack :=
  stacksAround_collapsed t [] []

end CType

end FunctionCatalog
