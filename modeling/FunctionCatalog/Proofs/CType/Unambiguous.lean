import FunctionCatalog.Proofs.CType.DeclaratorText

/-!
# Spellings tell types apart

Two well-formed types with the same spelling are the same. The proof takes the text apart from the
outside: the label in front gives the named type, and the ends of the declarator tell what the first
layer is and where its operator stops, so that the layer and the text of the remaining layers are
found. The parameters of a function layer are types again; that their spellings tell them apart is
what the induction over well-formed types provides.

## Main results

* `layer_inj` — a declarator determines its first layer and the declarator of the others.
* `declarator_inj` — a declarator determines its layers.
* `CType.spelling_eq_iff` — a spelling determines its type.
-/

namespace FunctionCatalog

variable {lang : Language}

/-- No other well-formed type is spelled like this one. -/
def CType.IsDetermined (lang : Language) (t : CType) : Prop :=
  ∀ other : CType, other.WellFormed lang → t.spelling lang = other.spelling lang → t = other

private theorem legible_of_layer {layer : TypeLayer} (hLayer : layer.WellFormed lang) :
    ∀ param ∈ layer.params, Legible (param.spelling lang).toList := by
  intro param hMem
  cases layer with
  | pointer quals | reference rvalue | array size => simp [TypeLayer.params] at hMem
  | function params variadic prototyped => exact (hLayer.1 param hMem).legible

/-! ## The text in front of an operator -/

/-- Parameters do not begin like a declarator in parentheses. -/
theorem head_parameters {params : List CType} (variadic prototyped : Bool)
    (hParams : ∀ param ∈ params, Legible (param.spelling lang).toList) :
    ∀ c ∈ ([',', ' '].intercalate
        ((parameterTexts lang params variadic prototyped).map String.toList)).head?,
      ¬ (c = '*' ∨ c = '&') := by
  intro c hHead hStar
  have hTexts := parameterTexts_legible variadic prototyped hParams
  cases hList : parameterTexts lang params variadic prototyped with
  | nil => simp [hList] at hHead
  | cons text rest =>
      obtain ⟨-, first, hFirst, hChar⟩ := hTexts text (by simp [hList])
      have hJoined : ([',', ' '].intercalate ((text :: rest).map String.toList)).head? =
          some first := by
        obtain ⟨tail, hText⟩ := List.head?_eq_some_iff.mp (Option.mem_def.mp hFirst)
        cases rest with
        | nil => simp [hText]
        | cons next rest => simp [hText]
      rw [hList, hJoined] at hHead
      obtain rfl : first = c := by simpa using hHead
      rcases hStar with rfl | rfl <;> exact absurd hChar (by decide)

/-- A declarator in parentheses is not one that needs none. -/
theorem enclosed_ne_declarator {layers layers' : List TypeLayer}
    (hWF : ∀ layer ∈ layers, layer.WellFormed lang)
    (hWF' : ∀ layer ∈ layers', layer.WellFormed lang) (hFront : standsInFront layers = true)
    (hBehind : standsInFront layers' = false) :
    enclosedIf true (declarator lang layers) ≠ declarator lang layers' := by
  intro hSame
  have hText := congrArg String.toList hSame
  rw [toList_enclosedIf_true] at hText
  cases layers' with
  | nil => simp [declarator] at hText
  | cons layer rest =>
      cases layer with
      | pointer quals | reference rvalue =>
          simp [standsInFront, TypeLayer.bindsBehindName] at hBehind
      | array size =>
          rw [declarator_cons_of_behind rfl, toList_beside_array, ← List.append_assoc] at hText
          have hLast := (List.append_inj' hText rfl).2
          simp at hLast
      | function params variadic prototyped =>
          -- the parentheses would be those of the function, and the declarator its parameters
          have hParams := legible_of_layer (hWF' _ List.mem_cons_self)
          have hBalanced := (unseparated_declarator hWF fun layer hMem =>
            legible_of_layer (hWF layer hMem)).toBalanced
          rw [declarator_cons_of_behind rfl, toList_beside_function,
            ← List.nil_append ('(' :: _ ++ _)] at hText
          obtain ⟨-, hInside⟩ := hBalanced.enclosed_inj (balanced_parameters hParams) hText
          have hNonempty : layers ≠ [] := by
            rintro rfl
            simp [standsInFront] at hFront
          obtain ⟨c, tail, hHead, -, hIff⟩ := exists_head_declarator lang hNonempty
          refine head_parameters variadic prototyped hParams c ?_ (hIff.mpr hFront)
          rw [← hInside, hHead]
          rfl

private theorem groupedDeclarator_inj {layers layers' : List TypeLayer}
    (hWF : ∀ layer ∈ layers, layer.WellFormed lang)
    (hWF' : ∀ layer ∈ layers', layer.WellFormed lang)
    (hSame : groupedDeclarator lang layers = groupedDeclarator lang layers') :
    declarator lang layers = declarator lang layers' := by
  unfold groupedDeclarator at hSame
  cases hFront : standsInFront layers <;> cases hFront' : standsInFront layers' <;>
    rw [hFront, hFront'] at hSame
  · exact hSame
  · exact absurd hSame.symm (enclosed_ne_declarator hWF' hWF hFront' hFront)
  · exact absurd hSame (enclosed_ne_declarator hWF hWF' hFront hFront')
  · have hText := congrArg String.toList hSame
    rw [toList_enclosedIf_true, toList_enclosedIf_true] at hText
    have hInside := (List.append_inj' hText rfl).1
    exact String.toList_injective (List.cons.inj hInside).2

/-! ## What an operator is made of -/

theorem Qualifiers.spelling_inj {quals quals' : Qualifiers}
    (hSame : quals.spelling lang = quals'.spelling lang) : quals = quals' := by
  have hWords : " ".intercalate (quals.words lang ++ []) =
      " ".intercalate (quals'.words lang ++ []) := by
    rw [List.append_nil, List.append_nil]
    exact hSame
  exact (label_inj (by simp) (by simp) hWords).1

theorem Qualifiers.spelling_empty : (∅ : Qualifiers).spelling lang = "" := by
  cases lang <;> rfl

/-- The qualifiers of a pointer are found, whatever follows them. -/
theorem pointer_quals_inj {quals quals' : Qualifiers} {gap : List Char}
    (hSame : (quals.spelling lang).toList ++ (if quals = ∅ then [] else gap) =
      (quals'.spelling lang).toList ++ (if quals' = ∅ then [] else gap)) : quals = quals' := by
  have hEmpty : ∀ quals : Qualifiers, (quals.spelling lang).toList = [] → quals = ∅ := by
    intro quals hNil
    refine @Qualifiers.spelling_inj lang _ _ ?_
    rw [Qualifiers.spelling_empty]
    exact String.toList_eq_nil_iff.mp hNil
  by_cases hQuals : quals = ∅
  · rw [if_pos hQuals, hQuals, Qualifiers.spelling_empty] at hSame
    rw [hQuals]
    exact (hEmpty quals' (List.append_eq_nil_iff.mp hSame.symm).1).symm
  · by_cases hQuals' : quals' = ∅
    · rw [if_pos hQuals', hQuals', Qualifiers.spelling_empty] at hSame
      rw [hQuals']
      exact hEmpty quals (List.append_eq_nil_iff.mp hSame).1
    · rw [if_neg hQuals, if_neg hQuals'] at hSame
      exact Qualifiers.spelling_inj (String.toList_injective (List.append_cancel_right hSame))

private theorem size_inj {size size' : Option String} (hSize : ∀ text ∈ size, IsArraySize text)
    (hSize' : ∀ text ∈ size', IsArraySize text) (hSame : size.getD "" = size'.getD "") :
    size = size' := by
  cases size with
  | none =>
      cases size' with
      | none => rfl
      | some text' => exact absurd hSame.symm (hSize' text' rfl).nonempty
  | some text =>
      cases size' with
      | none => exact absurd hSame (hSize text rfl).nonempty
      | some text' => exact congrArg some hSame

/-- A spelling is a label and a declarator, and both are found. -/
theorem spelling_parts_inj {t t' : CType} (hWF : t.WellFormed lang) (hWF' : t'.WellFormed lang)
    (hSame : t.spelling lang = t'.spelling lang) :
    t.base = t'.base ∧ declarator lang t.layers = declarator lang t'.layers := by
  obtain ⟨quals, words, -, hWords, hBase, hSpelling⟩ := hWF.exists_label
  obtain ⟨quals', words', -, hWords', hBase', hSpelling'⟩ := hWF'.exists_label
  have hLabel : ∀ (quals : Qualifiers) (words : List String), (∀ word ∈ words, IsNameWord word) →
      IsLabel (" ".intercalate (quals.words lang ++ words)).toList := fun quals words hWords =>
    isLabel_intercalate (isPlainWord_of_mem_label lang quals hWords)
  have hText := congrArg String.toList hSame
  rw [hSpelling, hSpelling', toList_blankBefore, toList_blankBefore] at hText
  obtain ⟨hLabels, hDeclarators⟩ := label_mark_inj (hLabel quals words hWords)
    (hLabel quals' words' hWords') (isMark_head_declarator _) (isMark_head_declarator _) hText
  obtain ⟨rfl, rfl⟩ := label_inj hWords hWords' (String.toList_injective hLabels)
  exact ⟨hBase.trans hBase'.symm, hDeclarators⟩

private theorem eq_nil_of_declarator_eq_empty {layers : List TypeLayer}
    (hEmpty : declarator lang layers = "") : layers = [] := by
  by_contra hNonempty
  obtain ⟨c, tail, hText, -⟩ := exists_head_declarator lang hNonempty
  simp [hEmpty] at hText

/-- Only `void` itself is spelled `void`. -/
theorem eq_void_of_spelling {t : CType} (hWF : t.WellFormed lang)
    (hVoid : t.spelling lang = "void") : t = .ofName "void" := by
  have hWord : IsNameWord "void" := ⟨by decide, List.all_eq_true.mp rfl, by decide⟩
  have hWFVoid : (CType.ofName "void").WellFormed lang := .named hWord.isTypeName
  have hSpelling : (CType.ofName "void").spelling lang = "void" := by
    cases lang <;> rfl
  obtain ⟨hBase, hDeclarator⟩ := spelling_parts_inj hWF hWFVoid (hVoid.trans hSpelling.symm)
  have hLayers : t.layers = [] := eq_nil_of_declarator_eq_empty hDeclarator
  rw [← t.layered_layers, hBase, hLayers]
  rfl

/-! ## Parameters -/

private theorem map_spelling_inj {params params' : List CType}
    (hDetermined : ∀ param ∈ params, param.IsDetermined lang)
    (hWF' : ∀ param ∈ params', param.WellFormed lang)
    (hSame : params.map (·.spelling lang) = params'.map (·.spelling lang)) :
    params = params' := by
  induction params generalizing params' with
  | nil => simpa using hSame.symm
  | cons param rest ih =>
      cases params' with
      | nil => simp at hSame
      | cons param' rest' =>
          simp only [List.map_cons, List.cons.injEq] at hSame
          obtain ⟨hFirst, hOthers⟩ := List.forall_mem_cons.mp hDetermined
          obtain ⟨hParam', hRest'⟩ := List.forall_mem_cons.mp hWF'
          rw [hFirst param' hParam' hSame.1, ih hOthers hRest' hSame.2]

/-- The dots of a variable parameter list are not the spelling of a type. -/
theorem dots_not_mem_spellings {params : List CType}
    (hWF : ∀ param ∈ params, param.WellFormed lang) : "..." ∉ params.map (·.spelling lang) := by
  intro hMem
  obtain ⟨param, hParam, hSpelling⟩ := List.mem_map.mp hMem
  obtain ⟨c, hHead, hChar⟩ := (hWF param hParam).legible.begins
  rw [hSpelling] at hHead
  obtain rfl : '.' = c := by simpa using hHead
  exact absurd hChar (by decide)

/-- The texts of parameters that do not stand for an empty list determine them. -/
theorem listedParameters_inj {params params' : List CType} {variadic variadic' : Bool}
    (hDetermined : ∀ param ∈ params, param.IsDetermined lang)
    (hWF : ∀ param ∈ params, param.WellFormed lang)
    (hWF' : ∀ param ∈ params', param.WellFormed lang)
    (hSame : listedParameters lang params variadic = listedParameters lang params' variadic') :
    params = params' ∧ variadic = variadic' := by
  unfold listedParameters at hSame
  cases variadic <;> cases variadic' <;> simp only [Bool.false_eq_true, if_false, if_true,
    List.append_nil, List.append_cancel_right_eq] at hSame
  · exact ⟨map_spelling_inj hDetermined hWF' hSame, rfl⟩
  · exact absurd (by rw [hSame]; simp) (dots_not_mem_spellings hWF)
  · exact absurd (by rw [← hSame]; simp) (dots_not_mem_spellings hWF')
  · exact ⟨map_spelling_inj hDetermined hWF' hSame, rfl⟩

/-- A well-formed function does not list `void` alone. -/
theorem listedParameters_ne_void {params : List CType} {variadic : Bool}
    (hWF : ∀ param ∈ params, param.WellFormed lang) (hVoid : CType.ofName "void" ∉ params) :
    listedParameters lang params variadic ≠ ["void"] := by
  intro hSame
  unfold listedParameters at hSame
  have hMem : "void" ∈ params.map (·.spelling lang) ++ (if variadic then ["..."] else []) := by
    simp [hSame]
  rcases List.mem_append.mp hMem with hMem | hMem
  · obtain ⟨param, hParam, hSpelling⟩ := List.mem_map.mp hMem
    rw [eq_void_of_spelling (hWF param hParam) hSpelling] at hParam
    exact hVoid hParam
  · cases variadic <;> simp at hMem

private theorem listedParameters_eq_nil_iff {params : List CType} {variadic : Bool} :
    listedParameters lang params variadic = [] ↔ params = [] ∧ variadic = false := by
  cases variadic <;> simp [listedParameters]

/-- What stands between the parentheses determines a function layer. -/
theorem parameterTexts_inj {params params' : List CType}
    {variadic variadic' prototyped prototyped' : Bool}
    (hLayer : (TypeLayer.function params variadic prototyped).WellFormed lang)
    (hLayer' : (TypeLayer.function params' variadic' prototyped').WellFormed lang)
    (hDetermined : ∀ param ∈ params, param.IsDetermined lang)
    (hSame : parameterTexts lang params variadic prototyped =
      parameterTexts lang params' variadic' prototyped') :
    TypeLayer.function params variadic prototyped =
      .function params' variadic' prototyped' := by
  obtain ⟨hWF, hVoid, hPrototyped⟩ := hLayer
  obtain ⟨hWF', hVoid', hPrototyped'⟩ := hLayer'
  unfold parameterTexts at hSame
  -- an empty list with a prototype is spelled `void` in C, and in no other case
  split at hSame <;> split at hSame
  · rename_i hEmpty hEmpty'
    simp only [Bool.and_eq_true, List.isEmpty_iff] at hEmpty hEmpty'
    obtain ⟨⟨hNil, hHas⟩, -⟩ := hEmpty
    obtain ⟨⟨hNil', hHas'⟩, -⟩ := hEmpty'
    obtain ⟨rfl, rfl⟩ := listedParameters_eq_nil_iff.mp hNil
    obtain ⟨rfl, rfl⟩ := listedParameters_eq_nil_iff.mp hNil'
    rw [hHas, hHas']
  · exact absurd hSame.symm (listedParameters_ne_void hWF' hVoid')
  · exact absurd hSame (listedParameters_ne_void hWF hVoid)
  · rename_i hListed hListed'
    obtain ⟨rfl, rfl⟩ := listedParameters_inj hDetermined hWF hWF' hSame
    have hIff : ∀ prototyped : Bool,
        (prototyped = false → lang = .c ∧ params = [] ∧ variadic = false) →
        ¬ ((listedParameters lang params variadic).isEmpty && prototyped && lang == .c) = true →
        (prototyped = false ↔ lang = .c ∧ params = [] ∧ variadic = false) := by
      intro prototyped hOnly hNot
      refine ⟨hOnly, ?_⟩
      rintro ⟨rfl, rfl, rfl⟩
      simpa [listedParameters] using hNot
    have hSamePrototype := (hIff prototyped hPrototyped hListed).trans
      (hIff prototyped' hPrototyped' hListed').symm
    have hPrototypes : prototyped = prototyped' := by
      cases prototyped <;> cases prototyped' <;> simp_all
    rw [hPrototypes]

/-! ## Operators -/

/-- A pointer's qualifiers and what follows them are found. -/
theorem beside_pointer_inj {quals quals' : Qualifiers} {inner inner' : String}
    (hInner : ∀ c ∈ inner.toList.head?, IsMark c)
    (hInner' : ∀ c ∈ inner'.toList.head?, IsMark c)
    (hSame : (TypeLayer.pointer quals).beside lang inner =
      (TypeLayer.pointer quals').beside lang inner') : quals = quals' ∧ inner = inner' := by
  have hNoMark : ∀ (quals : Qualifiers) (inner : String),
      ∀ c ∈ (quals.spelling lang).toList ++ (if quals = ∅ then [] else gapBefore inner),
        ¬ IsMark c := by
    intro quals inner
    refine ((isLabel_spelling quals).append ?_).not_isMark
    split
    · exact fun c hMem => absurd hMem List.not_mem_nil
    · exact isLabel_gapBefore inner
  have hText := congrArg String.toList hSame
  rw [toList_beside_pointer, toList_beside_pointer] at hText
  obtain ⟨hFronts, hInners⟩ := append_inj_of_mark (hNoMark quals inner) (hNoMark quals' inner')
    hInner hInner' (List.cons.inj hText).2
  have hInnerSame : inner = inner' := String.toList_injective hInners
  subst hInnerSame
  exact ⟨pointer_quals_inj hFronts, rfl⟩

/-- One ampersand or two are told apart where no reference follows. -/
theorem beside_reference_inj {rvalue rvalue' : Bool} {inner inner' : String}
    (hInner : '&' ∉ inner.toList.head?) (hInner' : '&' ∉ inner'.toList.head?)
    (hSame : (TypeLayer.reference rvalue).beside lang inner =
      (TypeLayer.reference rvalue').beside lang inner') : rvalue = rvalue' ∧ inner = inner' := by
  have hText := congrArg String.toList hSame
  rw [toList_beside_reference, toList_beside_reference] at hText
  have hTail := (List.cons.inj hText).2
  cases rvalue <;> cases rvalue' <;>
    simp only [Bool.false_eq_true, if_false, if_true, List.nil_append, List.singleton_append]
      at hTail
  · exact ⟨rfl, String.toList_injective hTail⟩
  · exact absurd (by simp [hTail]) hInner
  · exact absurd (by simp [← hTail]) hInner'
  · exact ⟨rfl, String.toList_injective (List.cons.inj hTail).2⟩

/-- An array's size and what stands in front of it are found. -/
theorem beside_array_inj {size size' : Option String} {inner inner' : String}
    (hSize : ∀ text ∈ size, IsArraySize text) (hSize' : ∀ text ∈ size', IsArraySize text)
    (hSame : (TypeLayer.array size).beside lang inner =
      (TypeLayer.array size').beside lang inner') : size = size' ∧ inner = inner' := by
  have hNoBracket : ∀ {size : Option String}, (∀ text ∈ size, IsArraySize text) →
      '[' ∉ (size.getD "").toList := by
    intro size hSize hMem
    exact absurd (isLabel_size hSize _ hMem) (by decide)
  have hText := congrArg String.toList hSame
  rw [toList_beside_array, toList_beside_array, ← List.append_assoc, ← List.append_assoc] at hText
  obtain ⟨hInners, hSizes⟩ := append_inj_of_last_mark (hNoBracket hSize) (hNoBracket hSize')
    (List.append_inj' hText rfl).1
  exact ⟨size_inj hSize hSize' (String.toList_injective hSizes), String.toList_injective hInners⟩

/-- A function's parameters and what stands in front of them are found. -/
theorem beside_function_inj {params params' : List CType}
    {variadic variadic' prototyped prototyped' : Bool} {inner inner' : String}
    (hLayer : (TypeLayer.function params variadic prototyped).WellFormed lang)
    (hLayer' : (TypeLayer.function params' variadic' prototyped').WellFormed lang)
    (hDetermined : ∀ param ∈ params, param.IsDetermined lang)
    (hSame : (TypeLayer.function params variadic prototyped).beside lang inner =
      (TypeLayer.function params' variadic' prototyped').beside lang inner') :
    TypeLayer.function params variadic prototyped = .function params' variadic' prototyped' ∧
      inner = inner' := by
  have hParams : ∀ param ∈ params, Legible (param.spelling lang).toList := legible_of_layer hLayer
  have hParams' : ∀ param ∈ params', Legible (param.spelling lang).toList :=
    legible_of_layer hLayer'
  have hPieces : ∀ {params : List CType} (variadic prototyped : Bool),
      (∀ param ∈ params, Legible (param.spelling lang).toList) →
      ∀ piece ∈ (parameterTexts lang params variadic prototyped).map String.toList,
        Unseparated piece ∧ piece ≠ [] := by
    intro params variadic prototyped hParams piece hPiece
    obtain ⟨text, hMem, rfl⟩ := List.mem_map.mp hPiece
    obtain ⟨hUnseparated, c, hHead, -⟩ :=
      parameterTexts_legible variadic prototyped hParams text hMem
    refine ⟨hUnseparated, ?_⟩
    intro hNil
    simp [hNil] at hHead
  have hText := congrArg String.toList hSame
  rw [toList_beside_function, toList_beside_function] at hText
  obtain ⟨hInners, hJoined⟩ :=
    (balanced_parameters hParams).enclosed_inj (balanced_parameters hParams') hText
  have hLists := Unseparated.joined_inj (hPieces variadic prototyped hParams)
    (hPieces variadic' prototyped' hParams') hJoined
  have hTexts := List.map_injective_iff.mpr (fun _ _ => String.toList_injective) hLists
  exact ⟨parameterTexts_inj hLayer hLayer' hDetermined hTexts, String.toList_injective hInners⟩

/-! ## Layers -/

/-- No ampersand follows that of a reference. -/
theorem not_mem_head_of_noReferencePair {rvalue : Bool} {rest : List TypeLayer}
    (hPair : NoReferencePair (.reference rvalue :: rest)) :
    '&' ∉ (declarator lang rest).toList.head? := by
  intro hHead
  rw [Option.mem_def] at hHead
  cases rest with
  | nil => simp [declarator] at hHead
  | cons layer rest =>
      have hEdge := edge_declarator lang layer rest
      rw [edgeOf, if_pos (Or.inr hHead), hHead] at hEdge
      have hReference : layer.isReference = true := by
        cases layer <;> simp [TypeLayer.edge, TypeLayer.isReference] at hEdge ⊢
      exact (List.isChain_cons_cons.mp hPair).1 ⟨rfl, hReference⟩

/-- A declarator determines its first layer and the declarator of the others. -/
theorem layer_inj {layer layer' : TypeLayer} {rest rest' : List TypeLayer}
    (hWF : ∀ other ∈ layer :: rest, other.WellFormed lang)
    (hWF' : ∀ other ∈ layer' :: rest', other.WellFormed lang)
    (hPair : NoReferencePair (layer :: rest)) (hPair' : NoReferencePair (layer' :: rest'))
    (hDetermined : ∀ param ∈ layer.params, param.IsDetermined lang)
    (hSame : declarator lang (layer :: rest) = declarator lang (layer' :: rest')) :
    layer = layer' ∧ declarator lang rest = declarator lang rest' := by
  have hEdge : layer.edge = layer'.edge := by
    have hEdges := edge_declarator lang layer rest
    rw [hSame, edge_declarator] at hEdges
    exact (Option.some.inj hEdges).symm
  obtain ⟨hLayer, hRest⟩ := List.forall_mem_cons.mp hWF
  obtain ⟨hLayer', hRest'⟩ := List.forall_mem_cons.mp hWF'
  cases layer with
  | pointer quals =>
      cases layer' with
      | pointer quals' =>
          rw [declarator_cons_of_inFront rfl, declarator_cons_of_inFront rfl] at hSame
          obtain ⟨rfl, hInner⟩ := beside_pointer_inj (isMark_head_declarator rest)
            (isMark_head_declarator rest') hSame
          exact ⟨rfl, hInner⟩
      | reference _ | array _ | function _ _ _ => exact absurd hEdge (by simp [TypeLayer.edge])
  | reference rvalue =>
      cases layer' with
      | reference rvalue' =>
          rw [declarator_cons_of_inFront rfl, declarator_cons_of_inFront rfl] at hSame
          obtain ⟨rfl, hInner⟩ := beside_reference_inj (not_mem_head_of_noReferencePair hPair)
            (not_mem_head_of_noReferencePair hPair') hSame
          exact ⟨rfl, hInner⟩
      | pointer _ | array _ | function _ _ _ => exact absurd hEdge (by simp [TypeLayer.edge])
  | array size =>
      cases layer' with
      | array size' =>
          rw [declarator_cons_of_behind rfl, declarator_cons_of_behind rfl] at hSame
          obtain ⟨rfl, hGrouped⟩ := beside_array_inj hLayer hLayer' hSame
          exact ⟨rfl, groupedDeclarator_inj hRest hRest' hGrouped⟩
      | pointer _ | reference _ | function _ _ _ =>
          exact absurd hEdge (by simp [TypeLayer.edge])
  | function params variadic prototyped =>
      cases layer' with
      | function params' variadic' prototyped' =>
          rw [declarator_cons_of_behind rfl, declarator_cons_of_behind rfl] at hSame
          obtain ⟨hLayers, hGrouped⟩ := beside_function_inj hLayer hLayer' hDetermined hSame
          exact ⟨hLayers, groupedDeclarator_inj hRest hRest' hGrouped⟩
      | pointer _ | reference _ | array _ => exact absurd hEdge (by simp [TypeLayer.edge])

/-- A declarator determines its layers. -/
theorem declarator_inj {layers layers' : List TypeLayer}
    (hWF : ∀ layer ∈ layers, layer.WellFormed lang)
    (hWF' : ∀ layer ∈ layers', layer.WellFormed lang) (hPair : NoReferencePair layers)
    (hPair' : NoReferencePair layers')
    (hDetermined : ∀ layer ∈ layers, ∀ param ∈ layer.params, param.IsDetermined lang)
    (hSame : declarator lang layers = declarator lang layers') : layers = layers' := by
  induction layers generalizing layers' with
  | nil => exact (eq_nil_of_declarator_eq_empty hSame.symm).symm
  | cons layer rest ih =>
      cases layers' with
      | nil => exact eq_nil_of_declarator_eq_empty hSame
      | cons layer' rest' =>
          obtain ⟨hFirst, hOthers⟩ := List.forall_mem_cons.mp hDetermined
          obtain ⟨rfl, hRest⟩ := layer_inj hWF hWF' hPair hPair' hFirst hSame
          rw [ih (List.forall_mem_cons.mp hWF).2 (List.forall_mem_cons.mp hWF').2
            hPair.of_cons hPair'.of_cons hOthers hRest]

namespace CType

private theorem WellFormed.isDetermined {t : CType} (hWF : t.WellFormed lang) :
    t.IsDetermined lang := by
  refine WellFormed.parameter_induction ?_ hWF
  intro t hWF hParams other hOther hSame
  obtain ⟨hBase, hDeclarator⟩ := spelling_parts_inj hWF hOther hSame
  have hLayers := declarator_inj hWF.layer hOther.layer hWF.noReferencePair
    hOther.noReferencePair hParams hDeclarator
  rw [← t.layered_layers, ← other.layered_layers, hBase, hLayers]

/-- **A spelling determines its type**: well-formed types are spelled alike only if they are the
same. -/
theorem spelling_eq_iff {t t' : CType} (hWF : t.WellFormed lang) (hWF' : t'.WellFormed lang) :
    t.spelling lang = t'.spelling lang ↔ t = t' := by
  constructor
  · exact hWF.isDetermined t' hWF'
  · rintro rfl
    rfl

/-- A pointer to an array of pointers to functions, and an array of pointers to pointers to them. -/
theorem spelling_eq_iff_handlers :
    let handler : CType := .function (.ofName "void") [.ofName "int"] false true
    let table : CType := .pointerTo (.array (.pointerTo handler) (some "4"))
    let tables : CType := .array (.pointerTo (.pointerTo handler)) (some "4")
    (table.WellFormed .c ∧ tables.WellFormed .c) ∧
      (table.spelling .c = tables.spelling .c ↔ table = tables) := by
  intro handler table tables
  have hInt : IsNameWord "int" := ⟨by decide, List.all_eq_true.mp rfl, by decide⟩
  have hVoid : IsNameWord "void" := ⟨by decide, List.all_eq_true.mp rfl, by decide⟩
  have hHandler : handler.WellFormed .c := by
    refine .function (.named hVoid.isTypeName) ?_ (by simp [ofName]) (by simp)
    intro param hMem
    obtain rfl : param = ofName "int" := by simpa using hMem
    exact .named hInt.isTypeName
  have hSize : ∀ text ∈ some "4", IsArraySize text := by
    intro text hText
    obtain rfl : "4" = text := by simpa using hText
    exact ⟨by decide, List.all_eq_true.mp rfl⟩
  have hTable : table.WellFormed .c := .pointer (.array (.pointer hHandler) hSize)
  have hTables : tables.WellFormed .c := .array (.pointer (.pointer hHandler)) hSize
  exact ⟨⟨hTable, hTables⟩, spelling_eq_iff hTable hTables⟩

end CType

end FunctionCatalog
