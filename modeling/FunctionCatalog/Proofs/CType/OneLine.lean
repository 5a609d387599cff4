import FunctionCatalog.Proofs.CType.Label
import FunctionCatalog.Proofs.CType.Layers
import FunctionCatalog.Proofs.CType.Parts
import FunctionCatalog.Proofs.Text.Characters

/-!
# Spellings on one line

A spelling is made of the texts that a type was built with, which are names and array sizes, and of
keywords, marks and blanks. So it is on one line if those texts are.

## Main results

* `CType.oneLine_spelling` — the spelling of a type whose texts are on one line is on one line.
-/

namespace FunctionCatalog

private theorem oneLine_blankAfter {front back : String} (hFront : OneLine front)
    (hBack : OneLine back) :
    OneLine (blankAfter front back) := by
  unfold blankAfter
  split
  · exact hBack
  · exact oneLine_append.mpr ⟨oneLine_append.mpr ⟨hFront, by decide⟩, hBack⟩

private theorem oneLine_blankBefore {front back : String} (hFront : OneLine front)
    (hBack : OneLine back) :
    OneLine (blankBefore front back) := by
  unfold blankBefore
  split
  · exact hFront
  · exact oneLine_append.mpr ⟨oneLine_append.mpr ⟨hFront, by decide⟩, hBack⟩

theorem Qualifiers.oneLine_spelling (quals : Qualifiers) (lang : Language) :
    OneLine (quals.spelling lang) := by
  have hKeyword : ∀ word ∈ qualifierKeywords, OneLine word := by decide
  have hWords : ∀ word ∈ quals.words lang, OneLine word :=
    fun word hWord => hKeyword word (mem_qualifierKeywords word hWord)
  exact oneLine_intercalate (by decide) hWords

namespace CType

/-- The text that a type holds beside its parts is on one line. -/
def IsOneLine : CType → Prop
  | named name _ => OneLine name
  | array _ size => ∀ text ∈ size, OneLine text
  | pointer .. | reference .. | function .. => True

theorem IsOneLine.qualified (t : CType) (quals : Qualifiers) (hLine : t.IsOneLine) :
    (t.qualified quals).IsOneLine := by
  cases t with
  | named _ _ | array _ _ | reference _ _ | function _ _ _ _ => exact hLine
  | pointer _ _ => trivial

private theorem oneLine_parenthesized (target : CType) {declarator : String}
    (hLine : OneLine declarator) :
    OneLine (target.parenthesized declarator) := by
  unfold parenthesized
  split
  · exact oneLine_append.mpr ⟨oneLine_append.mpr ⟨by decide, hLine⟩, by decide⟩
  · exact hLine

private theorem oneLine_parameterTexts {lang : Language} {params : List CType}
    (hParams : ∀ param ∈ params, OneLine (param.spelling lang)) (variadic prototyped : Bool) :
    ∀ text ∈ parameterTexts lang params variadic prototyped, OneLine text := by
  have hDots : ∀ text ∈ if variadic then ["..."] else [], OneLine text := by
    cases variadic <;> decide
  unfold parameterTexts
  split
  · decide
  · exact List.forall_mem_append.mpr ⟨List.forall_mem_map.mpr hParams, hDots⟩

mutual

/-- A spelling is on one line if what stands at the place of the name is, and all texts of the
type. -/
theorem oneLine_spellAround (lang : Language) : ∀ (t : CType) {inner : String},
    Everywhere IsOneLine t → OneLine inner → OneLine (t.spellAround lang inner)
  | named name quals, inner, hAll, hInner => by
      have hName : OneLine name := everywhere_named_iff.mp hAll
      rw [spellAround]
      exact oneLine_blankBefore (oneLine_blankAfter (quals.oneLine_spelling lang) hName) hInner
  | pointer pointee quals, inner, hAll, hInner => by
      have hPointee := (everywhere_pointer_iff.mp hAll).2
      rw [spellAround]
      refine oneLine_spellAround lang pointee hPointee (oneLine_parenthesized pointee ?_)
      split
      · exact oneLine_append.mpr ⟨by decide, hInner⟩
      · have hStars := oneLine_append.mpr ⟨show OneLine "*" by decide, quals.oneLine_spelling lang⟩
        exact oneLine_blankBefore hStars hInner
  | reference referent rvalue, inner, hAll, hInner => by
      have hReferent := (everywhere_reference_iff.mp hAll).2
      have hMark : OneLine (if rvalue then "&&" else "&") := by cases rvalue <;> decide
      rw [spellAround]
      exact oneLine_spellAround lang referent hReferent
        (oneLine_parenthesized referent (oneLine_append.mpr ⟨hMark, hInner⟩))
  | array element size, inner, hAll, hInner => by
      obtain ⟨hSize, hElement⟩ := everywhere_array_iff.mp hAll
      have hText : OneLine (size.getD "") := by
        cases size with
        | none => decide
        | some text => exact hSize text rfl
      have hOpen := oneLine_append.mpr ⟨hInner, show OneLine "[" by decide⟩
      have hFilled := oneLine_append.mpr ⟨hOpen, hText⟩
      rw [spellAround]
      exact oneLine_spellAround lang element hElement
        (oneLine_append.mpr ⟨hFilled, show OneLine "]" by decide⟩)
  | function result params variadic prototyped, inner, hAll, hInner => by
      obtain ⟨-, hResult, hParams⟩ := everywhere_function_iff.mp hAll
      have hSpellings := oneLine_spellings lang params hParams
      have hTexts := oneLine_parameterTexts hSpellings variadic prototyped
      have hOpen := oneLine_append.mpr ⟨hInner, show OneLine "(" by decide⟩
      have hJoined := oneLine_intercalate (show OneLine ", " by decide) hTexts
      have hList := oneLine_append.mpr ⟨hOpen, hJoined⟩
      have hAround : (function result params variadic prototyped).spellAround lang inner =
          result.spellAround lang (inner ++ "(" ++
            ", ".intercalate (parameterTexts lang params variadic prototyped) ++ ")") := by
        simp [spellAround, parameterTexts, listedParameters]
      rw [hAround]
      exact oneLine_spellAround lang result hResult
        (oneLine_append.mpr ⟨hList, show OneLine ")" by decide⟩)

private theorem oneLine_spellings (lang : Language) : ∀ types : List CType,
    (∀ t ∈ types, Everywhere IsOneLine t) → ∀ t ∈ types, OneLine (t.spelling lang)
  | [], _ => by simp
  | t :: rest, hAll => by
      obtain ⟨hFirst, hRest⟩ := List.forall_mem_cons.mp hAll
      exact List.forall_mem_cons.mpr
        ⟨oneLine_spellAround lang t hFirst (by decide), oneLine_spellings lang rest hRest⟩

end

/-- The spelling of a type is on one line if all its texts are. -/
theorem oneLine_spelling {t : CType} (hAll : Everywhere IsOneLine t) (lang : Language) :
    OneLine (t.spelling lang) :=
  oneLine_spellAround lang t hAll (by decide)

end CType

end FunctionCatalog
