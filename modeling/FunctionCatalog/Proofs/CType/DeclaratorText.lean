import FunctionCatalog.Proofs.CType.Label

/-!
# The text of a declarator

What the declarator of well-formed layers looks like from its ends. The first or the last character
tells which operator stands next to the named type: a pointer or reference opens the declarator, an
array or function closes it. Parentheses are balanced and no comma stands outside of them, so
spellings of types can be parameters of functions.

## Main results

* `edge_declarator` — the ends of a declarator tell what its first layer is.
* `CType.WellFormed.exists_label` — a spelling is a label in front of a declarator.
* `CType.WellFormed.legible` — a spelling begins with a word and has no bare comma.
-/

namespace FunctionCatalog

/-! ## Both ends -/

section Ends

variable {lang : Language}

theorem toList_beside_pointer (quals : Qualifiers) (inner : String) :
    ((TypeLayer.pointer quals).beside lang inner).toList =
      '*' :: ((quals.spelling lang).toList ++
        (if quals = ∅ then [] else gapBefore inner) ++ inner.toList) := by
  by_cases hQuals : quals = ∅
  · subst hQuals
    simp [TypeLayer.beside]
    cases lang <;> rfl
  · simp [TypeLayer.beside, hQuals, toList_blankBefore]

theorem toList_beside_reference (rvalue : Bool) (inner : String) :
    ((TypeLayer.reference rvalue).beside lang inner).toList =
      '&' :: ((if rvalue then ['&'] else []) ++ inner.toList) := by
  cases rvalue <;> simp [TypeLayer.beside]

theorem toList_beside_array (size : Option String) (inner : String) :
    ((TypeLayer.array size).beside lang inner).toList =
      inner.toList ++ ('[' :: (size.getD "").toList ++ [']']) := by
  simp [TypeLayer.beside]

theorem toList_beside_function (params : List CType) (variadic prototyped : Bool)
    (inner : String) :
    ((TypeLayer.function params variadic prototyped).beside lang inner).toList =
      inner.toList ++ ('(' :: [',', ' '].intercalate
        ((parameterTexts lang params variadic prototyped).map String.toList) ++ [')']) := by
  simp [TypeLayer.beside]

/-- The text in front of an operator behind the name. -/
def groupedDeclarator (lang : Language) (layers : List TypeLayer) : String :=
  enclosedIf (standsInFront layers) (declarator lang layers)

theorem declarator_cons_of_behind {layer : TypeLayer} (hBehind : layer.bindsBehindName = true)
    (rest : List TypeLayer) :
    declarator lang (layer :: rest) = layer.beside lang (groupedDeclarator lang rest) := by
  simp [declarator, groupedDeclarator, hBehind]

theorem declarator_cons_of_inFront {layer : TypeLayer} (hFront : layer.bindsBehindName = false)
    (rest : List TypeLayer) :
    declarator lang (layer :: rest) = layer.beside lang (declarator lang rest) := by
  simp [declarator, enclosedIf, hFront]

theorem toList_enclosedIf_true (text : String) :
    (enclosedIf true text).toList = '(' :: text.toList ++ [')'] := by
  simp [enclosedIf]

/-- A declarator begins with a mark, and with a pointer's or reference's only if its first layer is
one. -/
theorem exists_head_declarator (lang : Language) {layers : List TypeLayer}
    (hNonempty : layers ≠ []) :
    ∃ c tail, (declarator lang layers).toList = c :: tail ∧ IsMark c ∧
      ((c = '*' ∨ c = '&') ↔ standsInFront layers = true) := by
  induction layers with
  | nil => exact absurd rfl hNonempty
  | cons layer rest ih =>
      -- what an operator behind the name follows begins with a bracket, too
      have hGrouped : ∀ (bracket : Char) (tail : List Char), bracket = '(' ∨ bracket = '[' →
          ∃ c tail', (groupedDeclarator lang rest).toList ++ bracket :: tail = c :: tail' ∧
            (c = '(' ∨ c = '[') := by
        intro bracket tail hBracket
        cases hFront : standsInFront rest with
        | true =>
            rw [groupedDeclarator, hFront, toList_enclosedIf_true]
            exact ⟨'(', _, rfl, Or.inl rfl⟩
        | false =>
            rw [groupedDeclarator, hFront]
            by_cases hRest : rest = []
            · subst hRest
              exact ⟨bracket, tail, rfl, hBracket⟩
            · obtain ⟨c, tail', hText, hMark, hIff⟩ := ih hRest
              refine ⟨c, tail' ++ bracket :: tail, by simp [enclosedIf, hText], ?_⟩
              have hNot : ¬ (c = '*' ∨ c = '&') := by simp [hIff, hFront]
              simp only [IsMark, List.mem_cons, List.not_mem_nil, or_false] at hMark
              tauto
      cases layer with
      | pointer quals =>
          rw [declarator_cons_of_inFront rfl, toList_beside_pointer]
          exact ⟨'*', _, rfl, by simp [IsMark], by simp [standsInFront, TypeLayer.bindsBehindName]⟩
      | reference rvalue =>
          rw [declarator_cons_of_inFront rfl, toList_beside_reference]
          exact ⟨'&', _, rfl, by simp [IsMark], by simp [standsInFront, TypeLayer.bindsBehindName]⟩
      | array size =>
          rw [declarator_cons_of_behind rfl, toList_beside_array]
          obtain ⟨c, tail, hText, hBracket⟩ := hGrouped '[' _ (Or.inr rfl)
          refine ⟨c, tail, hText, ?_, ?_⟩
          · rcases hBracket with rfl | rfl <;> simp [IsMark]
          · rcases hBracket with rfl | rfl <;> simp [standsInFront, TypeLayer.bindsBehindName]
      | function params variadic prototyped =>
          rw [declarator_cons_of_behind rfl, toList_beside_function]
          obtain ⟨c, tail, hText, hBracket⟩ := hGrouped '(' _ (Or.inl rfl)
          refine ⟨c, tail, hText, ?_, ?_⟩
          · rcases hBracket with rfl | rfl <;> simp [IsMark]
          · rcases hBracket with rfl | rfl <;> simp [standsInFront, TypeLayer.bindsBehindName]

theorem isMark_head_declarator (layers : List TypeLayer) :
    ∀ c ∈ (declarator lang layers).toList.head?, IsMark c := by
  intro c hHead
  by_cases hNonempty : layers = []
  · subst hNonempty
    simp [declarator] at hHead
  · obtain ⟨first, tail, hText, hMark, -⟩ := exists_head_declarator lang hNonempty
    rw [hText] at hHead
    obtain rfl : first = c := by simpa using hHead
    exact hMark

/-- The end of a declarator that a layer leaves its mark on. -/
def TypeLayer.edge : TypeLayer → Char
  | pointer _ => '*'
  | reference _ => '&'
  | array _ => ']'
  | function .. => ')'

/-- The first character of a text if it is a pointer's or reference's, the last one otherwise. -/
def edgeOf (text : List Char) : Option Char :=
  if text.head? = some '*' ∨ text.head? = some '&' then text.head? else text.getLast?

/-- The ends of a declarator tell what its first layer is. -/
theorem edge_declarator (lang : Language) (layer : TypeLayer) (rest : List TypeLayer) :
    edgeOf (declarator lang (layer :: rest)).toList = some layer.edge := by
  obtain ⟨c, tail, hText, -, hIff⟩ :=
    exists_head_declarator lang (List.cons_ne_nil layer rest)
  cases layer with
  | pointer quals =>
      rw [declarator_cons_of_inFront rfl, toList_beside_pointer]
      rfl
  | reference rvalue =>
      rw [declarator_cons_of_inFront rfl, toList_beside_reference]
      rfl
  | array size | function params variadic prototyped =>
      have hNot : ¬ (c = '*' ∨ c = '&') := by
        simp [hIff, standsInFront, TypeLayer.bindsBehindName]
      have hHead : ¬ ((c :: tail).head? = some '*' ∨ (c :: tail).head? = some '&') := by
        simpa using hNot
      rw [hText, edgeOf, if_neg hHead, ← hText, declarator_cons_of_behind rfl]
      simp only [toList_beside_array, toList_beside_function, ← List.append_assoc,
        List.getLast?_concat, TypeLayer.edge]

/-! ## Balance -/

/-- A text that begins with a word and has no bare comma. -/
structure Legible (text : List Char) : Prop extends Unseparated text where
  begins : ∃ c ∈ text.head?, isNameChar c = true

/-- The texts between the parentheses of a function have no bare commas and begin with a word or a
dot. -/
theorem parameterTexts_legible {params : List CType} (variadic prototyped : Bool)
    (hParams : ∀ param ∈ params, Legible (param.spelling lang).toList) :
    ∀ text ∈ parameterTexts lang params variadic prototyped, Unseparated text.toList ∧
      ∃ c ∈ text.toList.head?, isNameChar c = true ∨ c = '.' := by
  intro text hMem
  have hCases : text = "void" ∨ text = "..." ∨ ∃ param ∈ params, param.spelling lang = text := by
    unfold parameterTexts at hMem
    split at hMem
    · exact Or.inl (by simpa using hMem)
    · rcases List.mem_append.mp hMem with hMem | hMem
      · exact Or.inr (Or.inr (List.mem_map.mp hMem))
      · cases variadic with
        | false => simp at hMem
        | true => exact Or.inr (Or.inl (by simpa using hMem))
  rcases hCases with rfl | rfl | ⟨param, hParam, rfl⟩
  · exact ⟨Unseparated.of_plain (by simp), 'v', rfl, by decide⟩
  · exact ⟨Unseparated.of_plain (by simp), '.', rfl, by decide⟩
  · have hLegible := hParams param hParam
    obtain ⟨c, hHead, hChar⟩ := hLegible.begins
    exact ⟨hLegible.toUnseparated, c, hHead, Or.inl hChar⟩

theorem balanced_parameters {params : List CType} {variadic prototyped : Bool}
    (hParams : ∀ param ∈ params, Legible (param.spelling lang).toList) :
    Balanced ([',', ' '].intercalate
      ((parameterTexts lang params variadic prototyped).map String.toList)) := by
  refine Unseparated.joined_balanced fun piece hPiece => ?_
  obtain ⟨text, hText, rfl⟩ := List.mem_map.mp hPiece
  exact (parameterTexts_legible variadic prototyped hParams text hText).1

theorem isLabel_spelling (quals : Qualifiers) : IsLabel (quals.spelling lang).toList := by
  exact isLabel_intercalate isPlainWord_of_mem_words

theorem isLabel_size {size : Option String} (hSize : ∀ text ∈ size, IsArraySize text) :
    IsLabel (size.getD "").toList := by
  intro c hMem
  cases size with
  | none => simp at hMem
  | some text =>
      have hChar := (hSize text rfl).isWordChar_of_mem c hMem
      left
      simp only [isNameChar, hChar, Bool.true_or]

private theorem unseparated_beside {layer : TypeLayer} {inner : String}
    (hLayer : layer.WellFormed lang)
    (hParams : ∀ param ∈ layer.params, Legible (param.spelling lang).toList)
    (hInner : Unseparated inner.toList) : Unseparated (layer.beside lang inner).toList := by
  cases layer with
  | pointer quals =>
      rw [toList_beside_pointer]
      have hGap : Unseparated (if quals = ∅ then [] else gapBefore inner) := by
        split
        · exact Unseparated.of_plain (by simp)
        · exact (isLabel_gapBefore inner).unseparated
      have hStar : Unseparated ['*'] := Unseparated.of_plain (by simp)
      exact hStar.append (((isLabel_spelling quals).unseparated.append hGap).append hInner)
  | reference rvalue =>
      rw [toList_beside_reference]
      have hAmpersand : Unseparated ['&'] := Unseparated.of_plain (by simp)
      cases rvalue with
      | false => exact hAmpersand.append hInner
      | true => exact hAmpersand.append (hAmpersand.append hInner)
  | array size =>
      rw [toList_beside_array]
      have hOpen : Unseparated ['['] := Unseparated.of_plain (by simp)
      have hClose : Unseparated [']'] := Unseparated.of_plain (by simp)
      exact hInner.append ((hOpen.append (isLabel_size hLayer).unseparated).append hClose)
  | function params variadic prototyped =>
      rw [toList_beside_function]
      exact hInner.append (balanced_parameters hParams).unseparated_enclosed

theorem unseparated_declarator {layers : List TypeLayer}
    (hLayers : ∀ layer ∈ layers, layer.WellFormed lang)
    (hParams : ∀ layer ∈ layers, ∀ param ∈ layer.params,
      Legible (param.spelling lang).toList) : Unseparated (declarator lang layers).toList := by
  induction layers with
  | nil => exact Unseparated.of_plain (by simp [declarator])
  | cons layer rest ih =>
      obtain ⟨hLayer, hOthers⟩ := List.forall_mem_cons.mp hLayers
      obtain ⟨hLegible, hOtherParams⟩ := List.forall_mem_cons.mp hParams
      have hRest := ih hOthers hOtherParams
      refine unseparated_beside hLayer hLegible ?_
      cases layer.bindsBehindName && standsInFront rest with
      | false => exact hRest
      | true =>
          rw [toList_enclosedIf_true]
          exact hRest.toBalanced.unseparated_enclosed

end Ends

/-! ## Spellings -/

namespace CType.WellFormed

variable {lang : Language}

/-- A spelling is a label of qualifiers and words in front of a declarator. -/
theorem exists_label {t : CType} (hWF : t.WellFormed lang) :
    ∃ (quals : Qualifiers) (words : List String), words ≠ [] ∧
      (∀ word ∈ words, IsNameWord word) ∧ t.base = .named (" ".intercalate words) quals ∧
      t.spelling lang =
        blankBefore (" ".intercalate (quals.words lang ++ words)) (declarator lang t.layers) := by
  obtain ⟨name, quals, hBase⟩ := base_eq_named t
  have hWFBase := hWF.base
  rw [hBase] at hWFBase
  cases hWFBase with
  | named hName =>
      obtain ⟨words, hNonempty, hWords, rfl⟩ := hName
      refine ⟨quals, words, hNonempty, hWords, hBase, ?_⟩
      rw [spelling_eq_declarator, hBase, spellAround]
      congr 1
      show blankAfter (" ".intercalate (quals.words lang)) _ = _
      by_cases hQuals : quals.words lang = []
      · simp [hQuals, blankAfter]
      · have hText : " ".intercalate (quals.words lang) ≠ "" := by
          intro hEmpty
          have hSame : " ".intercalate (quals.words lang) = " ".intercalate [] := hEmpty
          exact hQuals (intercalate_blank_inj isPlainWord_of_mem_words (by simp) hSame)
        rw [blankAfter, if_neg hText, String.intercalate_append_of_ne_nil hQuals hNonempty]

/-- A spelling begins with a word and has no bare comma. -/
theorem legible {t : CType} (hWF : t.WellFormed lang) : Legible (t.spelling lang).toList := by
  -- the parameters of functions may be taken to be legible
  refine parameter_induction (motive := fun t => Legible (t.spelling lang).toList) ?_ hWF
  intro t hWF hParams
  obtain ⟨quals, words, hNonempty, hWords, -, hSpelling⟩ := hWF.exists_label
  have hLabelWords := isPlainWord_of_mem_label lang quals hWords
  have hLabel := isLabel_intercalate hLabelWords
  have hDeclarator := unseparated_declarator hWF.layer hParams
  rw [hSpelling, toList_blankBefore]
  refine { toUnseparated := ?_, begins := ?_ }
  · exact (hLabel.unseparated.append (isLabel_gapBefore _).unseparated).append hDeclarator
  · obtain ⟨c, hHead, hChar⟩ := exists_head_intercalate
      (List.append_ne_nil_of_right_ne_nil (quals.words lang) hNonempty) hLabelWords
    refine ⟨c, ?_, hChar⟩
    rw [List.append_assoc, List.head?_append, Option.mem_def.mp hHead]
    rfl

end CType.WellFormed

end FunctionCatalog
