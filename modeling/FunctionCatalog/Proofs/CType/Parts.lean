import FunctionCatalog.CType.Spelling
import Mathlib.Data.List.Forall2

/-!
# What holds everywhere in a type

The parts of a type are the type itself and the types that it is made of, at every depth. A
property of single parts holds everywhere in a type if it holds of them all. Adding qualifiers and
adjusting a parameter rebuild a type around parts that it had, so they keep what holds everywhere,
provided that the property does not look at qualifiers and asks nothing of pointers. A relation of
types that all these steps keep is a `Congruence`.

## Main results

* `CType.Everywhere.qualified` — qualifiers leave it as it is.
* `CType.Everywhere.adjustedParameter` — and so does the adjustment of a parameter.
-/

namespace FunctionCatalog

namespace CType

/-- A type is the other one, or one of those that the other one is made of. -/
inductive IsPart (part : CType) : CType → Prop
  | self : IsPart part part
  | pointee {pointee : CType} {quals : Qualifiers} (hPart : IsPart part pointee) :
    IsPart part (.pointer pointee quals)
  | referent {referent : CType} {rvalue : Bool} (hPart : IsPart part referent) :
    IsPart part (.reference referent rvalue)
  | element {element : CType} {size : Option String} (hPart : IsPart part element) :
    IsPart part (.array element size)
  | result {result : CType} {params : List CType} {variadic prototyped : Bool}
    (hPart : IsPart part result) : IsPart part (.function result params variadic prototyped)
  | param {result param : CType} {params : List CType} {variadic prototyped : Bool}
    (hMem : param ∈ params) (hPart : IsPart part param) :
    IsPart part (.function result params variadic prototyped)

/-- A property holds of all parts of a type. -/
def Everywhere (P : CType → Prop) (t : CType) : Prop :=
  ∀ part, IsPart part t → P part

variable {P : CType → Prop}

theorem Everywhere.self {t : CType} (hAll : Everywhere P t) : P t :=
  hAll t .self

theorem everywhere_named_iff {name : String} {quals : Qualifiers} :
    Everywhere P (.named name quals) ↔ P (.named name quals) := by
  refine ⟨Everywhere.self, fun hNamed part hPart => ?_⟩
  cases hPart with
  | self => exact hNamed

theorem everywhere_pointer_iff {pointee : CType} {quals : Qualifiers} :
    Everywhere P (.pointer pointee quals) ↔ P (.pointer pointee quals) ∧ Everywhere P pointee := by
  constructor
  · exact fun hAll => ⟨hAll.self, fun part hPart => hAll part (.pointee hPart)⟩
  · rintro ⟨hSelf, hPointee⟩ part hPart
    cases hPart with
    | self => exact hSelf
    | pointee hPart => exact hPointee part hPart

theorem everywhere_reference_iff {referent : CType} {rvalue : Bool} :
    Everywhere P (.reference referent rvalue) ↔
      P (.reference referent rvalue) ∧ Everywhere P referent := by
  constructor
  · exact fun hAll => ⟨hAll.self, fun part hPart => hAll part (.referent hPart)⟩
  · rintro ⟨hSelf, hReferent⟩ part hPart
    cases hPart with
    | self => exact hSelf
    | referent hPart => exact hReferent part hPart

theorem everywhere_array_iff {element : CType} {size : Option String} :
    Everywhere P (.array element size) ↔ P (.array element size) ∧ Everywhere P element := by
  constructor
  · exact fun hAll => ⟨hAll.self, fun part hPart => hAll part (.element hPart)⟩
  · rintro ⟨hSelf, hElement⟩ part hPart
    cases hPart with
    | self => exact hSelf
    | element hPart => exact hElement part hPart

theorem everywhere_function_iff {result : CType} {params : List CType}
    {variadic prototyped : Bool} :
    Everywhere P (.function result params variadic prototyped) ↔
      P (.function result params variadic prototyped) ∧ Everywhere P result ∧
        ∀ param ∈ params, Everywhere P param := by
  constructor
  · exact fun hAll => ⟨hAll.self, fun part hPart => hAll part (.result hPart),
      fun param hMem part hPart => hAll part (.param hMem hPart)⟩
  · rintro ⟨hSelf, hResult, hParams⟩ part hPart
    cases hPart with
    | self => exact hSelf
    | result hPart => exact hResult part hPart
    | param hMem hPart => exact hParams _ hMem part hPart

/-- Qualifiers keep what holds everywhere, if they keep it on a single part. -/
theorem Everywhere.qualified (hQualified : ∀ t quals, P t → P (t.qualified quals)) {t : CType}
    (hAll : Everywhere P t) (quals : Qualifiers) : Everywhere P (t.qualified quals) := by
  induction t, quals using CType.qualified.induct with
  | case1 name own quals => exact everywhere_named_iff.mpr (hQualified _ quals hAll.self)
  | case2 pointee own quals =>
      obtain ⟨hSelf, hPointee⟩ := everywhere_pointer_iff.mp hAll
      exact everywhere_pointer_iff.mpr ⟨hQualified _ quals hSelf, hPointee⟩
  | case3 element size quals ih =>
      obtain ⟨hSelf, hElement⟩ := everywhere_array_iff.mp hAll
      exact everywhere_array_iff.mpr ⟨hQualified _ quals hSelf, ih hElement⟩
  | case4 | case5 => exact hAll

/-- The adjustment of a parameter keeps what holds everywhere, if it holds of pointers. -/
theorem Everywhere.adjustedParameter (hPointer : ∀ t quals, P (.pointer t quals)) {t : CType}
    (hAll : Everywhere P t) : Everywhere P t.adjustedParameter := by
  cases t with
  | array element size =>
      exact everywhere_pointer_iff.mpr ⟨hPointer _ _, (everywhere_array_iff.mp hAll).2⟩
  | function result params variadic prototyped =>
      exact everywhere_pointer_iff.mpr ⟨hPointer _ _, hAll⟩
  | named _ _ | pointer _ _ | reference _ _ => exact hAll

/-- A relation of types that every step of building a type keeps. -/
structure Congruence (related : CType → CType → Prop) : Prop where
  refl : ∀ t, related t t
  pointer : ∀ {t t'} quals, related t t' → related (.pointer t quals) (.pointer t' quals)
  reference : ∀ {t t'} rvalue, related t t' → related (.reference t rvalue) (.reference t' rvalue)
  array : ∀ {t t'} size, related t t' → related (.array t size) (.array t' size)
  function : ∀ {t t' params params'} variadic prototyped, related t t' →
    List.Forall₂ related params params' →
      related (.function t params variadic prototyped) (.function t' params' variadic prototyped)
  qualified : ∀ {t t'} quals, related t t' → related (t.qualified quals) (t'.qualified quals)
  adjustedParameter : ∀ {t t'}, related t t' → related t.adjustedParameter t'.adjustedParameter
  isVoid_eq : ∀ {t t'}, related t t' → t.isVoid = t'.isVoid

end CType

end FunctionCatalog
