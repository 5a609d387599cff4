import FunctionCatalog.Declaration.Meaning
import FunctionCatalog.Proofs.CType.Qualified
import Mathlib.Data.Option.Basic

/-!
# Where qualifiers may be written

A qualifier on a declared type can be written into the declaration itself: next to the specifier,
or behind the pointer that it reaches. And a qualifier that the definition of a type name leaves out
can be written at each use of the name instead. Neither makes a difference to any type.

## Main results

* `Declaration.type?_qualified` — a qualified declaration declares the qualified type.
* `Declaration.type?_taking` — what definitions hand out, their uses take.
-/

namespace FunctionCatalog

/-! ## Qualifiers inside a declaration -/

namespace Declarator

/-- Whether nothing but arrays stands between the name and what the declarator is put around, so
that qualifiers on the declared type reach the specified type. -/
def passesQualifiers : Declarator → Bool
  | nothing | name _ => true
  | grouped inner | array _ inner => inner.passesQualifiers
  | pointer .. | reference .. | function .. => false

/-- A declarator with more qualifiers on the declared type. They stand behind the pointer that they
reach, if they reach one. -/
def qualified (quals : Qualifiers) : Declarator → Declarator
  | nothing => nothing
  | name declared => name declared
  | grouped inner => grouped (inner.qualified quals)
  | pointer own inner =>
    pointer (if inner.passesQualifiers then own.merge quals else own) (inner.qualified quals)
  | reference rvalue inner => reference rvalue (inner.qualified quals)
  | array size inner => array size (inner.qualified quals)
  | function trailing params inner => function trailing params (inner.qualified quals)

end Declarator

/-- A declaration with more qualifiers on the declared type. -/
def Declaration.qualified (quals : Qualifiers) : Declaration → Declaration
  | .mk specifier own declarator =>
    .mk specifier (if declarator.passesQualifiers then own.merge quals else own)
      (declarator.qualified quals)

theorem ParameterTypes.exists_function_of_functionType? {lang : Language}
    {params : ParameterTypes} {result t : CType}
    (hFunction : params.functionType? lang result = some t) :
    ∃ types variadic prototyped, t = .function result types variadic prototyped := by
  rw [functionType?] at hFunction
  split at hFunction
  · cases hFunction
  · exact ⟨_, _, _, (Option.some.inj hFunction).symm⟩

/-- What is put around a type passes the qualifiers of that type on, or has a place for them. -/
theorem Declarator.applied?_qualified (naming : Naming) (quals : Qualifiers) :
    ∀ (declarator : Declarator) (t : CType),
      Declarator.applied? naming (declarator.qualified quals)
          (if declarator.passesQualifiers then t.qualified quals else t) =
        (declarator.applied? naming t).map (·.qualified quals)
  | .nothing, _ | .name _, _ => rfl
  | .grouped inner, t => inner.applied?_qualified naming quals t
  | .pointer own inner, t => by
      rw [Declarator.applied?, ← inner.applied?_qualified naming quals]
      cases hPasses : inner.passesQualifiers <;>
        simp [qualified, passesQualifiers, Declarator.applied?, CType.qualified, hPasses]
  | .reference rvalue inner, t => by
      rw [Declarator.applied?, ← inner.applied?_qualified naming quals]
      simp [qualified, passesQualifiers, Declarator.applied?, CType.qualified]
  | .array size inner, t => by
      rw [Declarator.applied?, ← inner.applied?_qualified naming quals]
      cases hPasses : inner.passesQualifiers <;>
        simp [qualified, passesQualifiers, Declarator.applied?, CType.qualified, hPasses]
  | .function trailing params inner, t => by
      simp only [qualified, passesQualifiers, Declarator.applied?, Bool.false_eq_true, if_false,
        Option.bind_eq_bind, Option.map_bind, Function.comp_def]
      refine Option.bind_congr fun result _ => Option.bind_congr fun types _ =>
        Option.bind_congr fun function hFunction => ?_
      obtain ⟨_, _, _, rfl⟩ := ParameterTypes.exists_function_of_functionType? hFunction
      rw [← inner.applied?_qualified naming quals, CType.qualified, ite_self]

/-- A qualified declaration declares the qualified type. -/
theorem Declaration.type?_qualified (naming : Naming) (quals : Qualifiers) :
    ∀ declaration : Declaration,
      (declaration.qualified quals).type? naming =
        (declaration.type? naming).map (·.qualified quals)
  | .mk specifier own declarator => by
      rw [Declaration.type?, ← Declarator.applied?_qualified, qualified, Declaration.type?]
      split
      · rw [CType.qualified_qualified]
      · rfl

/-! ## Qualifiers at the uses of a name -/

/-- The qualifiers that are handed out to a specifier, which takes them by its name. -/
def Specifier.handedOut (handed : String → Qualifiers) : Specifier → Qualifiers
  | .name text => handed text
  | .builtin _ | .tag .. | .namedBy _ | .verbatim _ => ∅

section Taking

variable (handed : String → Qualifiers)

mutual

/-- A declarator in which every use of a name takes what is handed out to it. -/
def Declarator.taking : Declarator → Declarator
  | .nothing => .nothing
  | .name declared => .name declared
  | .grouped inner => .grouped inner.taking
  | .pointer quals inner => .pointer quals inner.taking
  | .reference rvalue inner => .reference rvalue inner.taking
  | .array size inner => .array size inner.taking
  | .function trailing params inner =>
    .function (Declaration.takingTrailing trailing) (Parameter.taking params) inner.taking

/-- A declaration in which every use of a name takes what is handed out to it. -/
def Declaration.taking : Declaration → Declaration
  | .mk specifier quals declarator =>
    .mk specifier (quals.merge (specifier.handedOut handed)) declarator.taking

/-- A trailing return type in which every use of a name takes what is handed out to it. -/
def Declaration.takingTrailing : Option Declaration → Option Declaration
  | none => none
  | some declaration => some declaration.taking

/-- Parameters in which every use of a name takes what is handed out to it. -/
def Parameter.taking : List Parameter → List Parameter
  | [] => []
  | .ellipsis :: rest => .ellipsis :: Parameter.taking rest
  | .declared declaration :: rest => .declared declaration.taking :: Parameter.taking rest

end

/-- Names stand for the same types in two files, but for what the definitions in the first one keep
and those in the second one hand out. -/
structure Naming.HandsOut (naming naming' : Naming) : Prop where
  lang_eq : naming.lang = naming'.lang
  resolve_eq : ∀ name, naming.resolve name = (naming'.resolve name).qualified (handed name)

end Taking

variable {handed : String → Qualifiers} {naming naming' : Naming}

private theorem Declarator.isNothing_taking (declarator : Declarator) :
    (declarator.taking handed).isNothing = declarator.isNothing := by
  cases declarator <;> rfl

@[simp] theorem Declarator.name?_taking : ∀ declarator : Declarator,
    (declarator.taking handed).name? = declarator.name?
  | .nothing | .name _ => rfl
  | .grouped inner | .pointer _ inner | .reference _ inner | .array _ inner
  | .function _ _ inner => inner.name?_taking

theorem Declaration.name?_taking : ∀ declaration : Declaration,
    (declaration.taking handed).name? = declaration.name?
  | .mk _ _ declarator => declarator.name?_taking

/-- A use that takes what is handed out has the type that it has where nothing is. -/
theorem Specifier.type_qualified_handedOut (hHands : naming.HandsOut handed naming')
    (specifier : Specifier) (quals : Qualifiers) :
    (specifier.type naming').qualified (quals.merge (specifier.handedOut handed)) =
      (specifier.type naming).qualified quals := by
  rw [Qualifiers.merge_comm, ← CType.qualified_qualified]
  cases specifier with
  | name text => rw [handedOut, Specifier.type, Specifier.type, hHands.resolve_eq]
  | tag kind name? =>
      rw [handedOut, CType.qualified_empty, Specifier.type, Specifier.type, hHands.lang_eq]
  | builtin | namedBy | verbatim => rw [handedOut, CType.qualified_empty]; rfl

mutual

private theorem Declarator.applied?_taking (hHands : naming.HandsOut handed naming') :
    ∀ (declarator : Declarator) (t : CType),
      Declarator.applied? naming' (declarator.taking handed) t = declarator.applied? naming t
  | .nothing, _ | .name _, _ => rfl
  | .grouped inner, t => inner.applied?_taking hHands t
  | .pointer quals inner, t => inner.applied?_taking hHands (.pointer t quals)
  | .reference rvalue inner, t => inner.applied?_taking hHands (.reference t rvalue)
  | .array size inner, t => inner.applied?_taking hHands (.array t size)
  | .function trailing params inner, t => by
      simp only [Declarator.taking, Declarator.applied?,
        Declaration.typeOr?_taking hHands trailing t, Parameter.types?_taking hHands params,
        hHands.lang_eq, inner.applied?_taking hHands]

/-- What definitions hand out, their uses take: the declared type is the same. -/
theorem Declaration.type?_taking (hHands : naming.HandsOut handed naming') :
    ∀ declaration : Declaration,
      (declaration.taking handed).type? naming' = declaration.type? naming
  | .mk specifier quals declarator => by
      rw [Declaration.taking, Declaration.type?, Declaration.type?,
        specifier.type_qualified_handedOut hHands, declarator.applied?_taking hHands]

private theorem Declaration.typeOr?_taking (hHands : naming.HandsOut handed naming') :
    ∀ (trailing : Option Declaration) (t : CType),
      Declaration.typeOr? naming' (Declaration.takingTrailing handed trailing) t =
        Declaration.typeOr? naming trailing t
  | none, _ => rfl
  | some declaration, _ => declaration.type?_taking hHands

private theorem Parameter.types?_taking (hHands : naming.HandsOut handed naming') :
    ∀ params : List Parameter,
      Parameter.types? naming' (Parameter.taking handed params) = Parameter.types? naming params
  | [] => rfl
  | .ellipsis :: rest => by
      rw [Parameter.taking, Parameter.types?, Parameter.types?, Parameter.types?_taking hHands rest]
  | .declared (.mk specifier quals declarator) :: rest => by
      rw [Parameter.taking, Declaration.taking, Parameter.types?, Parameter.types?,
        specifier.type_qualified_handedOut hHands, declarator.applied?_taking hHands,
        Parameter.types?_taking hHands rest, declarator.isNothing_taking]

end

end FunctionCatalog
