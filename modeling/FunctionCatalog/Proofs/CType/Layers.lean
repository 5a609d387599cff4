import FunctionCatalog.CType.Spelling

/-!
# Types in layers

Every type is a named type under layers: the pointers, references, arrays and functions that
declarator operators add. The layers of a type are listed from the named type outwards, in the order
in which they are applied, so that the last one is the type's own constructor. This is also the
order in which the spelling shows them from the outside in: `spellAround` grows a declarator around
the place of the name, and what stands next to the named type is the first layer.

## Main results

* `CType.layered_layers` — a type is its base under its layers.
* `CType.spelling_eq_declarator` — a spelling is that of the base and a declarator, which only the
  layers determine.
* `CType.spellAround_injective` — what stands at the place of the name is found again.
-/

namespace FunctionCatalog

/-- What a declarator operator adds to the type it applies to. -/
inductive TypeLayer where
  | pointer (quals : Qualifiers)
  | reference (rvalue : Bool)
  | array (size : Option String)
  | function (params : List CType) (variadic prototyped : Bool)

namespace TypeLayer

/-- The type with one layer more. -/
def onto : TypeLayer → CType → CType
  | pointer quals, t => .pointer t quals
  | reference rvalue, t => .reference t rvalue
  | array size, t => .array t size
  | function params variadic prototyped, t => .function t params variadic prototyped

/-- Whether the operator stands behind the name. -/
def bindsBehindName : TypeLayer → Bool
  | array .. | function .. => true
  | pointer .. | reference .. => false

/-- The parameters of a function layer. -/
def params : TypeLayer → List CType
  | function params .. => params
  | pointer .. | reference .. | array .. => []

@[simp] theorem bindsBehindName_onto (layer : TypeLayer) (t : CType) :
    (layer.onto t).bindsBehindName = layer.bindsBehindName := by
  cases layer <;> rfl

end TypeLayer

namespace CType

/-- A type under layers, of which the first is applied first. -/
def layered (t : CType) (layers : List TypeLayer) : CType :=
  layers.foldl (fun t layer => layer.onto t) t

/-- The named type at the bottom of a type. -/
def base : CType → CType
  | named name quals => named name quals
  | pointer pointee _ => pointee.base
  | reference referent _ => referent.base
  | array element _ => element.base
  | function result _ _ _ => result.base

/-- The layers over the named type, from the named type outwards. -/
def layers : CType → List TypeLayer
  | named _ _ => []
  | pointer pointee quals => pointee.layers ++ [.pointer quals]
  | reference referent rvalue => referent.layers ++ [.reference rvalue]
  | array element size => element.layers ++ [.array size]
  | function result params variadic prototyped =>
    result.layers ++ [.function params variadic prototyped]

private theorem layered_append (t : CType) (front back : List TypeLayer) :
    t.layered (front ++ back) = (t.layered front).layered back :=
  List.foldl_append

@[simp] theorem layered_concat (t : CType) (layers : List TypeLayer) (layer : TypeLayer) :
    t.layered (layers ++ [layer]) = layer.onto (t.layered layers) := by
  rw [layered_append]
  rfl

/-- What holds of named types and is kept by a layer more holds of all types. -/
@[elab_as_elim]
theorem layerInduction {motive : CType → Prop}
    (named : ∀ name quals, motive (.named name quals))
    (onto : ∀ (layer : TypeLayer) t, motive t → motive (layer.onto t)) : ∀ t, motive t
  | .named name quals => named name quals
  | .pointer pointee quals => onto (.pointer quals) pointee (layerInduction named onto pointee)
  | .reference referent rvalue =>
    onto (.reference rvalue) referent (layerInduction named onto referent)
  | .array element size => onto (.array size) element (layerInduction named onto element)
  | .function result params variadic prototyped =>
    onto (.function params variadic prototyped) result (layerInduction named onto result)

@[simp] theorem base_onto (layer : TypeLayer) (t : CType) : (layer.onto t).base = t.base := by
  cases layer <;> rfl

@[simp] theorem layers_onto (layer : TypeLayer) (t : CType) :
    (layer.onto t).layers = t.layers ++ [layer] := by
  cases layer <;> rfl

/-- A type is its base under its layers. -/
theorem layered_layers (t : CType) : t.base.layered t.layers = t := by
  induction t using layerInduction with
  | named name quals => rfl
  | onto layer t ih => rw [base_onto, layers_onto, layered_concat, ih]

theorem base_eq_named (t : CType) : ∃ name quals, t.base = named name quals := by
  induction t using layerInduction with
  | named name quals => exact ⟨name, quals, rfl⟩
  | onto layer t ih => rwa [base_onto]

end CType

/-! ## The declarator of some layers -/

/-- The spellings of the parameters, and the dots of a variable parameter list. -/
def listedParameters (lang : Language) (params : List CType) (variadic : Bool) : List String :=
  params.map (·.spelling lang) ++ (if variadic then ["..."] else [])

/-- What stands between the parentheses of a function. -/
def parameterTexts (lang : Language) (params : List CType) (variadic prototyped : Bool) :
    List String :=
  if (listedParameters lang params variadic).isEmpty && prototyped && lang == .c then ["void"]
  else listedParameters lang params variadic

/-- A layer's operator beside what stands at the place of the name. -/
def TypeLayer.beside (lang : Language) : TypeLayer → String → String
  | pointer quals, inner =>
    if quals = ∅ then "*" ++ inner else blankBefore ("*" ++ quals.spelling lang) inner
  | reference rvalue, inner => (if rvalue then "&&" else "&") ++ inner
  | array size, inner => inner ++ "[" ++ size.getD "" ++ "]"
  | function params variadic prototyped, inner =>
    inner ++ "(" ++ ", ".intercalate (parameterTexts lang params variadic prototyped) ++ ")"

/-- Whether the operator that is nearest the outside stands in front of the name. -/
def standsInFront : List TypeLayer → Bool
  | [] => false
  | layer :: _ => !layer.bindsBehindName

/-- A text, in parentheses where that is asked for. -/
def enclosedIf (asked : Bool) (text : String) : String :=
  if asked then "(" ++ text ++ ")" else text

/-- The declarator without a name that adds some layers. An operator in front of the name is put in
parentheses where one behind the name applies after it. -/
def declarator (lang : Language) : List TypeLayer → String
  | [] => ""
  | layer :: rest =>
    layer.beside lang (enclosedIf (layer.bindsBehindName && standsInFront rest)
      (declarator lang rest))

namespace CType

/-- A layer writes its operator beside the inner text and leaves the rest to the type under it. -/
theorem spellAround_onto (lang : Language) (layer : TypeLayer) (t : CType) (inner : String) :
    (layer.onto t).spellAround lang inner =
      t.spellAround lang
        (enclosedIf (t.bindsBehindName && !layer.bindsBehindName) (layer.beside lang inner)) := by
  cases layer with
  | pointer quals | reference rvalue =>
      simp only [TypeLayer.onto, spellAround, parenthesized, enclosedIf, TypeLayer.beside,
        TypeLayer.bindsBehindName, Bool.not_false, Bool.and_true]
  | array size | function params variadic prototyped =>
      simp [TypeLayer.onto, spellAround, enclosedIf, TypeLayer.beside, TypeLayer.bindsBehindName,
        parameterTexts, listedParameters]

private theorem spellAround_declarator (lang : Language) (t : CType) (outer : List TypeLayer) :
    t.spellAround lang
        (enclosedIf (t.bindsBehindName && standsInFront outer) (declarator lang outer)) =
      t.base.spellAround lang (declarator lang (t.layers ++ outer)) := by
  induction t using layerInduction generalizing outer with
  | named name quals => rfl
  | onto layer t ih =>
      have hInner := ih (layer :: outer)
      rw [base_onto, layers_onto, List.append_assoc, List.singleton_append, ← hInner,
        spellAround_onto, TypeLayer.bindsBehindName_onto]
      rfl

/-- A spelling is that of the base around a declarator, which only the layers determine. -/
theorem spelling_eq_declarator (lang : Language) (t : CType) :
    t.spelling lang = t.base.spellAround lang (declarator lang t.layers) := by
  have hAround := spellAround_declarator lang t []
  rw [List.append_nil] at hAround
  rw [← hAround]
  simp [spelling, standsInFront, enclosedIf, declarator]

end CType

/-! ## What stands at the place of the name -/

theorem enclosedIf_ne_empty {asked : Bool} {text : String} (hText : text ≠ "") :
    enclosedIf asked text ≠ "" := by
  cases asked <;> simp [enclosedIf, hText]

/-- An operator stands on both sides of a text, in the same way for all texts. -/
theorem TypeLayer.exists_beside_eq (lang : Language) (layer : TypeLayer) :
    ∃ front back, ∀ inner, inner ≠ "" → layer.beside lang inner = front ++ inner ++ back := by
  cases layer with
  | pointer quals =>
      by_cases hNone : quals = ∅
      · exact ⟨"*", "", fun inner _ => by simp [beside, hNone]⟩
      · refine ⟨"*" ++ quals.spelling lang ++ " ", "", fun inner hInner => ?_⟩
        simp [beside, hNone, blankBefore, hInner]
  | reference rvalue => exact ⟨if rvalue then "&&" else "&", "", fun inner _ => by simp [beside]⟩
  | array size => exact ⟨"", "[" ++ size.getD "" ++ "]", fun inner _ => by
      simp [beside, String.append_assoc]⟩
  | function params variadic prototyped =>
      refine ⟨"", "(" ++ ", ".intercalate (parameterTexts lang params variadic prototyped) ++ ")",
        fun inner _ => ?_⟩
      simp [beside, String.append_assoc]

private theorem TypeLayer.beside_ne_empty {lang : Language} {layer : TypeLayer} {inner : String}
    (hInner : inner ≠ "") : layer.beside lang inner ≠ "" := by
  obtain ⟨front, back, hBeside⟩ := layer.exists_beside_eq lang
  rw [hBeside inner hInner]
  simp [hInner]

namespace CType

/-- A type stands on both sides of a text, in the same way for all texts. -/
theorem exists_spellAround_eq (lang : Language) (t : CType) :
    ∃ front back, ∀ inner, inner ≠ "" → t.spellAround lang inner = front ++ inner ++ back := by
  induction t using layerInduction with
  | named name quals =>
      refine ⟨blankAfter (quals.spelling lang) name ++ " ", "", fun inner hInner => ?_⟩
      simp [spellAround, blankBefore, hInner]
  | onto layer t ih =>
      obtain ⟨front, back, hAround⟩ := ih
      obtain ⟨left, right, hBeside⟩ := layer.exists_beside_eq lang
      cases hEnclosed : t.bindsBehindName && !layer.bindsBehindName with
      | false =>
          refine ⟨front ++ left, right ++ back, fun inner hInner => ?_⟩
          rw [spellAround_onto, hEnclosed, hAround _ (enclosedIf_ne_empty
            (TypeLayer.beside_ne_empty hInner)), hBeside inner hInner]
          simp [enclosedIf, String.append_assoc]
      | true =>
          refine ⟨front ++ "(" ++ left, right ++ ")" ++ back, fun inner hInner => ?_⟩
          rw [spellAround_onto, hEnclosed, hAround _ (enclosedIf_ne_empty
            (TypeLayer.beside_ne_empty hInner)), hBeside inner hInner]
          simp [enclosedIf, String.append_assoc]

/-- What stands at the place of the name is found again in the spelling. -/
theorem spellAround_injective {lang : Language} {t : CType} {inner inner' : String}
    (hInner : inner ≠ "") (hInner' : inner' ≠ "")
    (hSame : t.spellAround lang inner = t.spellAround lang inner') : inner = inner' := by
  obtain ⟨front, back, hAround⟩ := t.exists_spellAround_eq lang
  rw [hAround inner hInner, hAround inner' hInner'] at hSame
  have hLists := congrArg String.toList hSame
  simp only [String.toList_append, List.append_assoc, List.append_cancel_left_eq,
    List.append_cancel_right_eq] at hLists
  exact String.toList_injective hLists

end CType

end FunctionCatalog
