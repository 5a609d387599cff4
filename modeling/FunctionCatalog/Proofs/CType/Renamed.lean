import FunctionCatalog.Proofs.CType.Layers
import FunctionCatalog.Proofs.CType.Parts

/-!
# Types over different names

Two types correspond if they were built in the same way, one over a name and the other one over
another name in some of its places. Their spellings have the two names in the same places, and the
same text between them. So no two types that correspond are spelled alike, unless they are equal: a
longer name makes a longer spelling, and of two names of one length the first to be met makes a
difference. The names may be any texts.

## Main results

* `CType.Renamed.spelledAlike_iff` — corresponding types are spelled alike only if they are equal.
* `CType.Renamed.congruence` — what is built in the same way over corresponding types corresponds.
-/

namespace FunctionCatalog

/-! ## Texts with a name filled in -/

/-- Two texts that differ in a number of places, where one has the first name and the other one the
second. -/
inductive Filled (name name' : String) : Nat → String → String → Prop
  | text (text : String) : Filled name name' 0 text text
  | name : Filled name name' 1 name name'
  | append {places places' : Nat} {front front' back back' : String}
    (hFront : Filled name name' places front front')
    (hBack : Filled name name' places' back back') :
    Filled name name' (places + places') (front ++ back) (front' ++ back')

namespace Filled

variable {name name' : String} {places places' : Nat} {front front' back back' : String}

theorem length_eq (h : Filled name name' places front front') :
    front.length + places * name'.length = front'.length + places * name.length := by
  induction h with
  | text => omega
  | name => omega
  | append _ _ ihFront ihBack =>
      rw [String.length_append, String.length_append, Nat.add_mul, Nat.add_mul]
      omega

/-- Texts with different names filled in are different. -/
theorem places_eq_zero (hNames : name ≠ name') (h : Filled name name' places front front')
    (hSame : front = front') : places = 0 := by
  by_cases hLength : name.length = name'.length
  · induction h with
    | text => rfl
    | name => exact absurd hSame hNames
    | append hFront hBack ihFront ihBack =>
        have hFrontLength := hFront.length_eq
        rw [hLength, Nat.add_right_cancel_iff] at hFrontLength
        have hLists := congrArg String.toList hSame
        rw [String.toList_append, String.toList_append] at hLists
        obtain ⟨hFrontLists, hBackLists⟩ := List.append_inj hLists hFrontLength
        rw [ihFront (String.toList_injective hFrontLists),
          ihBack (String.toList_injective hBackLists)]
  · have hCount := h.length_eq
    rw [hSame, Nat.add_left_cancel_iff] at hCount
    exact Nat.eq_zero_of_not_pos fun hPos => hLength (Nat.eq_of_mul_eq_mul_left hPos hCount).symm

/-- No name is filled into an empty text. -/
theorem eq_empty (hName : name ≠ "") (h : Filled name name' places front front')
    (hEmpty : front = "") : places = 0 ∧ front' = "" := by
  induction h with
  | text => exact ⟨rfl, hEmpty⟩
  | name => exact absurd hEmpty hName
  | append _ _ ihFront ihBack =>
      obtain ⟨hFront, hBack⟩ := String.append_eq_empty_iff.1 hEmpty
      obtain ⟨rfl, rfl⟩ := ihFront hFront
      obtain ⟨rfl, rfl⟩ := ihBack hBack
      exact ⟨rfl, rfl⟩

theorem symm (h : Filled name name' places front front') :
    Filled name' name places front' front := by
  induction h with
  | text text => exact .text text
  | name => exact .name
  | append _ _ ihFront ihBack => exact .append ihFront ihBack

/-- A text in front. -/
theorem prepend (text : String) (h : Filled name name' places back back') :
    Filled name name' places (text ++ back) (text ++ back') := by
  simpa using Filled.append (.text text) h

/-- A text behind. -/
theorem postpend (h : Filled name name' places front front') (text : String) :
    Filled name name' places (front ++ text) (front' ++ text) :=
  .append h (.text text)

theorem blankBefore (hName : name ≠ "") (hName' : name' ≠ "")
    (hFront : Filled name name' places front front')
    (hBack : Filled name name' places' back back') :
    Filled name name' (places + places') (blankBefore front back) (blankBefore front' back') := by
  by_cases hNone : back = ""
  · obtain ⟨rfl, rfl⟩ := hBack.eq_empty hName hNone
    rw [hNone]
    exact hFront
  · have hNone' : back' ≠ "" := fun hEmpty => hNone (hBack.symm.eq_empty hName' hEmpty).2
    rw [FunctionCatalog.blankBefore, FunctionCatalog.blankBefore, if_neg hNone, if_neg hNone']
    exact (hFront.postpend " ").append hBack

end Filled

/-- Lists of texts with names filled in. -/
inductive AllFilled (name name' : String) : Nat → List String → List String → Prop
  | nil : AllFilled name name' 0 [] []
  | cons {places places' : Nat} {text text' : String} {rest rest' : List String}
    (hText : Filled name name' places text text')
    (hRest : AllFilled name name' places' rest rest') :
    AllFilled name name' (places + places') (text :: rest) (text' :: rest')

namespace AllFilled

variable {name name' : String} {places : Nat} {texts texts' : List String}

theorem same : ∀ texts : List String, AllFilled name name' 0 texts texts
  | [] => .nil
  | text :: rest => .cons (.text text) (same rest)

theorem append (h : AllFilled name name' places texts texts') (more : List String) :
    AllFilled name name' places (texts ++ more) (texts' ++ more) := by
  induction h with
  | nil => exact same more
  | cons hText _ ih => exact .cons hText ih

theorem intercalate (separator : String) (h : AllFilled name name' places texts texts') :
    Filled name name' places (separator.intercalate texts) (separator.intercalate texts') := by
  induction h with
  | nil => exact .text _
  | @cons places places' text text' rest rest' hText hRest ih =>
      cases hRest with
      | nil => simpa using hText
      | cons hNext hMore =>
          rw [String.intercalate_cons_cons, String.intercalate_cons_cons]
          exact (hText.postpend separator).append ih

end AllFilled

namespace CType

/-! ## Corresponding types -/

mutual

/-- Two types that were built in the same way, the one with the first name in some places where the
other one has the second. -/
inductive Renamed (name name' : String) : CType → CType → Prop
  | named (other : String) (quals : Qualifiers) :
    Renamed name name' (named other quals) (named other quals)
  | base (quals : Qualifiers) : Renamed name name' (named name quals) (named name' quals)
  | pointer {t t' : CType} (h : Renamed name name' t t') (quals : Qualifiers) :
    Renamed name name' (pointer t quals) (pointer t' quals)
  | reference {t t' : CType} (h : Renamed name name' t t') (rvalue : Bool) :
    Renamed name name' (reference t rvalue) (reference t' rvalue)
  | array {t t' : CType} (h : Renamed name name' t t') (size : Option String) :
    Renamed name name' (array t size) (array t' size)
  | function {t t' : CType} {params params' : List CType} (hResult : Renamed name name' t t')
    (hParams : AllRenamed name name' params params') (variadic prototyped : Bool) :
    Renamed name name' (function t params variadic prototyped)
      (function t' params' variadic prototyped)

/-- Types in two lists that correspond one by one. -/
inductive AllRenamed (name name' : String) : List CType → List CType → Prop
  | nil : AllRenamed name name' [] []
  | cons {t t' : CType} {rest rest' : List CType} (hFirst : Renamed name name' t t')
    (hRest : AllRenamed name name' rest rest') : AllRenamed name name' (t :: rest) (t' :: rest')

end

section Renamed

variable {name name' : String} {lang : Language}

mutual

theorem Renamed.refl : ∀ t : CType, Renamed name name' t t
  | .named other quals => .named other quals
  | .pointer t quals => .pointer (Renamed.refl t) quals
  | .reference t rvalue => .reference (Renamed.refl t) rvalue
  | .array t size => .array (Renamed.refl t) size
  | .function t params variadic prototyped =>
    .function (Renamed.refl t) (AllRenamed.refl params) variadic prototyped

theorem AllRenamed.refl : ∀ types : List CType, AllRenamed name name' types types
  | [] => .nil
  | t :: rest => .cons (Renamed.refl t) (AllRenamed.refl rest)

end

theorem Renamed.parenthesized {t t' : CType} (h : Renamed name name' t t') {places : Nat}
    {inner inner' : String} (hInner : Filled name name' places inner inner') :
    Filled name name' places (t.parenthesized inner) (t'.parenthesized inner') := by
  have hBinds : t.bindsBehindName = t'.bindsBehindName := by
    cases h <;> rfl
  unfold CType.parenthesized
  rw [← hBinds]
  split
  · exact (hInner.prepend "(").postpend ")"
  · exact hInner

private theorem filled_label (quals : Qualifiers) :
    Filled name name' 1 (blankAfter (quals.spelling lang) name)
      (blankAfter (quals.spelling lang) name') := by
  unfold blankAfter
  split
  · exact .name
  · exact Filled.name.prepend _

private theorem filled_parameterTexts {params params' : List CType} {places : Nat}
    (h : AllFilled name name' places (params.map (·.spelling lang))
      (params'.map (·.spelling lang))) (variadic prototyped : Bool) :
    AllFilled name name' places (parameterTexts lang params variadic prototyped)
      (parameterTexts lang params' variadic prototyped) := by
  unfold parameterTexts listedParameters
  generalize params.map (·.spelling lang) = texts, params'.map (·.spelling lang) = texts' at h ⊢
  cases h with
  | nil => exact .same _
  | cons hText hRest => exact (AllFilled.cons hText hRest).append _

mutual

-- The induction carries two numbers: the places that the text at the place of the name has already,
-- and those that the type adds to them. Only the latter say whether the types are equal.
/-- Spellings of corresponding types have the names in the same places, and the types are equal if
there are none. -/
theorem Renamed.spellAround (hName : name ≠ "") (hName' : name' ≠ "") :
    ∀ {t t' : CType}, Renamed name name' t t' → ∀ {places : Nat} {inner inner' : String},
      Filled name name' places inner inner' →
        ∃ more, Filled name name' (more + places) (t.spellAround lang inner)
          (t'.spellAround lang inner') ∧ (more = 0 → t = t')
  | _, _, .named other quals, _, _, _, hInner =>
      ⟨0, Filled.blankBefore hName hName' (.text _) hInner, fun _ => rfl⟩
  | _, _, .base quals, _, _, _, hInner =>
      ⟨1, Filled.blankBefore hName hName' (filled_label quals) hInner, nofun⟩
  | _, _, .pointer h quals, places, inner, inner', hInner => by
      have hStars : Filled name name' places ((TypeLayer.pointer quals).beside lang inner)
          ((TypeLayer.pointer quals).beside lang inner') := by
        simp only [TypeLayer.beside]
        split
        · exact hInner.prepend "*"
        · simpa using Filled.blankBefore hName hName' (.text ("*" ++ quals.spelling lang)) hInner
      obtain ⟨more, hText, hSame⟩ := h.spellAround hName hName' (h.parenthesized hStars)
      exact ⟨more, hText, fun hNone => by rw [hSame hNone]⟩
  | _, _, .reference h rvalue, _, _, _, hInner => by
      have hMark := hInner.prepend (if rvalue then "&&" else "&")
      obtain ⟨more, hText, hSame⟩ := h.spellAround hName hName' (h.parenthesized hMark)
      exact ⟨more, hText, fun hNone => by rw [hSame hNone]⟩
  | _, _, .array h size, _, _, _, hInner => by
      have hBrackets := ((hInner.postpend "[").postpend (size.getD "")).postpend "]"
      obtain ⟨more, hText, hSame⟩ := h.spellAround hName hName' hBrackets
      exact ⟨more, hText, fun hNone => by rw [hSame hNone]⟩
  | _, _, @Renamed.function _ _ t t' _ _ hResult hParams variadic prototyped, places, inner, inner',
    hInner => by
      obtain ⟨listed, hParameters, hSameParams⟩ := hParams.spellings hName hName'
      have hTexts := (filled_parameterTexts hParameters variadic prototyped).intercalate ", "
      have hList := ((hInner.postpend "(").append hTexts).postpend ")"
      obtain ⟨more, hText, hSameResult⟩ := hResult.spellAround hName hName' hList
      refine ⟨more + listed, ?_, fun hNone => ?_⟩
      · rw [Nat.add_assoc, Nat.add_comm listed]
        simpa [CType.spellAround, parameterTexts, listedParameters] using hText
      · rw [hSameResult (by omega), hSameParams (by omega)]

theorem AllRenamed.spellings (hName : name ≠ "") (hName' : name' ≠ "") :
    ∀ {types types' : List CType}, AllRenamed name name' types types' →
      ∃ places, AllFilled name name' places (types.map (·.spelling lang))
        (types'.map (·.spelling lang)) ∧ (places = 0 → types = types')
  | _, _, .nil => ⟨0, .nil, fun _ => rfl⟩
  | _, _, .cons hFirst hRest => by
      obtain ⟨more, hText, hSame⟩ := hFirst.spellAround hName hName' (.text "")
      obtain ⟨places, hTexts, hSameRest⟩ := hRest.spellings hName hName'
      refine ⟨more + places, .cons hText hTexts, fun hNone => ?_⟩
      rw [hSame (by omega), hSameRest (by omega)]

end

/-- Corresponding types are spelled alike only if they are equal. -/
theorem Renamed.spelledAlike_iff {t t' : CType} (h : Renamed name name' t t') (hName : name ≠ "")
    (hName' : name' ≠ "") (hNames : name ≠ name') :
    t.spelling lang = t'.spelling lang ↔ t = t' := by
  obtain ⟨more, hText, hSame⟩ : ∃ more, Filled name name' (more + 0) (t.spelling lang)
      (t'.spelling lang) ∧ (more = 0 → t = t') := h.spellAround hName hName' (.text "")
  exact ⟨fun hSpelling => hSame (hText.places_eq_zero hNames hSpelling), fun hType => by rw [hType]⟩

/-! ## Building types -/

theorem Renamed.qualified (quals : Qualifiers) : ∀ {t t' : CType}, Renamed name name' t t' →
    Renamed name name' (t.qualified quals) (t'.qualified quals)
  | _, _, .named other own => .named other (own.merge quals)
  | _, _, .base own => .base (own.merge quals)
  | _, _, .pointer h own => .pointer h (own.merge quals)
  | _, _, .reference h rvalue => .reference h rvalue
  | _, _, .array h size => .array (h.qualified quals) size
  | _, _, .function hResult hParams variadic prototyped =>
    .function hResult hParams variadic prototyped

theorem Renamed.adjustedParameter {t t' : CType} (h : Renamed name name' t t') :
    Renamed name name' t.adjustedParameter t'.adjustedParameter := by
  cases h with
  | named other quals => exact .named other quals
  | base quals => exact .base quals
  | pointer h quals => exact .pointer h quals
  | reference h rvalue => exact .reference h rvalue
  | array h size => exact .pointer h ∅
  | function hResult hParams variadic prototyped =>
      exact .pointer (.function hResult hParams variadic prototyped) ∅

theorem Renamed.isVoid_eq {t t' : CType} (h : Renamed name name' t t') (hVoid : name ≠ "void")
    (hVoid' : name' ≠ "void") : t.isVoid = t'.isVoid := by
  cases h with
  | base quals => rw [isVoid, isVoid, beq_eq_false_iff_ne.2 hVoid, beq_eq_false_iff_ne.2 hVoid']
  | _ => rfl

private theorem allRenamed_of_forall₂ {types types' : List CType}
    (h : List.Forall₂ (Renamed name name') types types') : AllRenamed name name' types types' := by
  induction h with
  | nil => exact .nil
  | cons hFirst _ ih => exact .cons hFirst ih

/-- What is built in the same way over corresponding types corresponds. Only `void` is looked at, so
neither of the two names may be that. -/
theorem Renamed.congruence (hVoid : name ≠ "void") (hVoid' : name' ≠ "void") :
    Congruence (Renamed name name') where
  refl := .refl
  pointer quals h := .pointer h quals
  reference rvalue h := .reference h rvalue
  array size h := .array h size
  function variadic prototyped hResult hParams :=
    .function hResult (allRenamed_of_forall₂ hParams) variadic prototyped
  qualified quals h := h.qualified quals
  adjustedParameter h := h.adjustedParameter
  isVoid_eq h := h.isVoid_eq hVoid hVoid'

end Renamed

end CType

end FunctionCatalog
