import FunctionCatalog.Proofs.CType.Layers
import Mathlib.Data.List.Chain

/-!
# Well-formed types

The types that a spelling can tell apart: names are words with a blank between them, array sizes are
single words, no reference refers to a reference, only the empty parameter list of C is without a
prototype, and no parameter is `void`. Being well formed is a property of the named type and of each
layer, apart from the references, where it is one of neighbouring layers.

## Main results

* `CType.wellFormed_onto_iff` — when a type with one layer more is well formed.
* `CType.WellFormed.parameter_induction` — what holds of a type once it holds of the parameters of
  its functions holds of all well-formed types.
-/

namespace FunctionCatalog

/-- The characters of the words in a type's name. -/
def isNameChar (c : Char) : Bool :=
  c.isAlphanum || c == '_' || c == ':'

/-- The words of a spelling that are qualifiers. -/
def qualifierKeywords : List String :=
  ["const", "volatile", "restrict", "__restrict"]

/-- A word that can be part of a type's name. -/
structure IsNameWord (word : String) : Prop where
  nonempty : word ≠ ""
  isNameChar_of_mem : ∀ c ∈ word.toList, isNameChar c = true
  not_keyword : word ∉ qualifierKeywords

/-- A name of words with one blank between them. -/
def IsTypeName (name : String) : Prop :=
  ∃ words : List String, words ≠ [] ∧ (∀ word ∈ words, IsNameWord word) ∧
    name = " ".intercalate words

theorem IsNameWord.isTypeName {word : String} (hWord : IsNameWord word) : IsTypeName word := by
  refine ⟨[word], by simp, ?_, by simp⟩
  intro other hMem
  obtain rfl : other = word := by simpa using hMem
  exact hWord

/-- An array size that is one word. -/
structure IsArraySize (size : String) : Prop where
  nonempty : size ≠ ""
  isWordChar_of_mem : ∀ c ∈ size.toList, (c.isAlphanum || c == '_') = true

/-- Whether a type is a reference. -/
def CType.isReference : CType → Bool
  | .reference .. => true
  | .named .. | .pointer .. | .array .. | .function .. => false

/-- Whether a layer is a reference. -/
def TypeLayer.isReference : TypeLayer → Bool
  | reference .. => true
  | pointer .. | array .. | function .. => false

/-- The types that the spelling in a language can tell apart. -/
inductive CType.WellFormed (lang : Language) : CType → Prop
  | named {name : String} {quals : Qualifiers} (hName : IsTypeName name) :
    WellFormed lang (.named name quals)
  | pointer {pointee : CType} {quals : Qualifiers} (hPointee : WellFormed lang pointee) :
    WellFormed lang (.pointer pointee quals)
  | reference {referent : CType} {rvalue : Bool} (hReferent : WellFormed lang referent)
    (hDirect : referent.isReference = false) : WellFormed lang (.reference referent rvalue)
  | array {element : CType} {size : Option String} (hElement : WellFormed lang element)
    (hSize : ∀ text ∈ size, IsArraySize text) : WellFormed lang (.array element size)
  | function {result : CType} {params : List CType} {variadic prototyped : Bool}
    (hResult : WellFormed lang result) (hParams : ∀ param ∈ params, WellFormed lang param)
    (hVoid : CType.ofName "void" ∉ params)
    (hPrototyped : prototyped = false → lang = .c ∧ params = [] ∧ variadic = false) :
    WellFormed lang (.function result params variadic prototyped)

/-- What well-formedness asks of a single layer. -/
def TypeLayer.WellFormed (lang : Language) : TypeLayer → Prop
  | pointer _ | reference _ => True
  | array size => ∀ text ∈ size, IsArraySize text
  | function params variadic prototyped =>
    (∀ param ∈ params, param.WellFormed lang) ∧ CType.ofName "void" ∉ params ∧
      (prototyped = false → lang = .c ∧ params = [] ∧ variadic = false)

/-- Layers of which no two neighbours are references. -/
def NoReferencePair : List TypeLayer → Prop :=
  List.IsChain fun layer next => ¬ (layer.isReference = true ∧ next.isReference = true)

namespace CType

variable {lang : Language}

theorem wellFormed_onto_iff {layer : TypeLayer} {t : CType} :
    (layer.onto t).WellFormed lang ↔
      t.WellFormed lang ∧ layer.WellFormed lang ∧
        ¬ (t.isReference = true ∧ layer.isReference = true) := by
  constructor
  · intro hWF
    cases layer with
    | pointer quals =>
        cases hWF with
        | pointer hPointee => exact ⟨hPointee, trivial, by simp [TypeLayer.isReference]⟩
    | reference rvalue =>
        cases hWF with
        | reference hReferent hDirect => exact ⟨hReferent, trivial, by simp [hDirect]⟩
    | array size =>
        cases hWF with
        | array hElement hSize => exact ⟨hElement, hSize, by simp [TypeLayer.isReference]⟩
    | function params variadic prototyped =>
        cases hWF with
        | function hResult hParams hVoid hPrototyped =>
            exact ⟨hResult, ⟨hParams, hVoid, hPrototyped⟩, by simp [TypeLayer.isReference]⟩
  · rintro ⟨hType, hLayer, hPair⟩
    cases layer with
    | pointer quals => exact .pointer hType
    | reference rvalue => exact .reference hType (by simpa [TypeLayer.isReference] using hPair)
    | array size => exact .array hType hLayer
    | function params variadic prototyped =>
        exact .function hType hLayer.1 hLayer.2.1 hLayer.2.2

private theorem getLast?_layers_isReference (t : CType) :
    t.layers.getLast?.any (·.isReference) = t.isReference := by
  cases t <;> simp [layers, isReference, TypeLayer.isReference]

namespace WellFormed

theorem base {t : CType} (hWF : t.WellFormed lang) : t.base.WellFormed lang := by
  induction t using layerInduction with
  | named name quals => exact hWF
  | onto layer t ih =>
      rw [base_onto]
      exact ih (wellFormed_onto_iff.mp hWF).1

theorem layer {t : CType} (hWF : t.WellFormed lang) :
    ∀ layer ∈ t.layers, layer.WellFormed lang := by
  induction t using layerInduction with
  | named name quals => simp [layers]
  | onto layer t ih =>
      obtain ⟨hType, hLayer, -⟩ := wellFormed_onto_iff.mp hWF
      intro other hMem
      rw [layers_onto, List.mem_append, List.mem_singleton] at hMem
      rcases hMem with hMem | rfl
      · exact ih hType other hMem
      · exact hLayer

theorem noReferencePair {t : CType} (hWF : t.WellFormed lang) : NoReferencePair t.layers := by
  induction t using layerInduction with
  | named name quals => exact List.isChain_nil
  | onto layer t ih =>
      obtain ⟨hType, -, hPair⟩ := wellFormed_onto_iff.mp hWF
      rw [layers_onto]
      refine List.isChain_append.mpr ⟨ih hType, List.isChain_singleton _, ?_⟩
      intro last hLast next hNext
      obtain rfl : layer = next := by simpa using hNext
      have hReference := getLast?_layers_isReference t
      rw [Option.mem_def.mp hLast] at hReference
      rw [Option.any_some] at hReference
      rwa [hReference]

/-- What holds of a type once it holds of the parameters of its functions holds of all well-formed
types. -/
theorem parameter_induction {motive : CType → Prop}
    (step : ∀ t : CType, t.WellFormed lang →
      (∀ layer ∈ t.layers, ∀ param ∈ layer.params, motive param) → motive t)
    {t : CType} (hWF : t.WellFormed lang) : motive t := by
  refine step t hWF ?_
  induction hWF with
  | named hName => simp [layers]
  | pointer hPointee ih | reference hReferent hDirect ih | array hElement hSize ih =>
      intro layer hMem param hParam
      rw [layers, List.mem_append, List.mem_singleton] at hMem
      rcases hMem with hMem | rfl
      · exact ih layer hMem param hParam
      · simp [TypeLayer.params] at hParam
  | function hResult hParams hVoid hPrototyped ihResult ihParams =>
      intro layer hMem param hParam
      rw [layers, List.mem_append, List.mem_singleton] at hMem
      rcases hMem with hMem | rfl
      · exact ihResult layer hMem param hParam
      · exact step param (hParams param hParam) (ihParams param hParam)

end WellFormed

end CType

end FunctionCatalog
