import FunctionCatalog.Proofs.CType.References
import FunctionCatalog.Proofs.Text.Characters

/-!
# The marks of references in a spelling

References that are applied to each other have their marks in a row, and everything else in a type
is written with something between them. So the runs of ampersands in a spelling are the stacks of
references in the type, and each is the mark of one reference only if nothing collapses.

## Main results

* `CType.ampersands_spelling` — the runs of ampersands in a spelling are the marks of the stacks.
* `CType.spelling_collapsed_eq_iff` — a type is spelled like what it collapses to only if it is
  that.
-/

namespace FunctionCatalog

/-! ## Runs of ampersands -/

/-- Whether a character is an ampersand. -/
def isAmpersand (c : Char) : Bool :=
  c == '&'

/-- The maximal runs of ampersands in a text, in order. -/
def ampersands (text : String) : List (List Char) :=
  runs isAmpersand text.toList

/-- The mark of a reference. -/
def referenceMark (rvalue : Bool) : List Char :=
  if rvalue then ['&', '&'] else ['&']

/-- The marks of a stack of references, in a row. -/
def stackMarks (stack : List Bool) : List Char :=
  stack.flatMap referenceMark

private theorem not_ampersand {text : List Char} (hText : '&' ∉ text) :
    ∀ c ∈ text, isAmpersand c = false :=
  fun _ hMem => beq_eq_false_iff_ne.2 fun hSame => hText (hSame ▸ hMem)

private theorem runs_append_of_not_mem {front : List Char} (hFront : '&' ∉ front)
    (back : List Char) :
    runs isAmpersand (front ++ back) = runs isAmpersand back := by
  induction front with
  | nil => rfl
  | cons c front ih =>
      obtain ⟨hFirst, -⟩ := List.forall_mem_cons.1 (not_ampersand hFront)
      rw [List.cons_append, runs_cons hFirst, ih (mt (List.mem_cons_of_mem c) hFront)]

private theorem runs_append_of_not_mem_right (front : List Char) {back : List Char}
    (hBack : '&' ∉ back) :
    runs isAmpersand (front ++ back) = runs isAmpersand front := by
  cases back with
  | nil => rw [List.append_nil]
  | cons c back =>
      obtain ⟨hFirst, hRest⟩ := List.forall_mem_cons.1 (not_ampersand hBack)
      rw [runs_append_cons hFirst, runs_eq_nil hRest, List.append_nil]

private theorem ampersands_intercalate (texts : List String) :
    ampersands (", ".intercalate texts) = texts.flatMap ampersands := by
  induction texts with
  | nil => rfl
  | cons text rest ih =>
      cases rest with
      | nil => simp
      | cons next rest =>
          have hSeparator : (", " : String).toList = [',', ' '] := rfl
          rw [String.intercalate_cons_cons, ampersands, String.toList_append,
            String.toList_append, hSeparator, List.append_assoc, List.cons_append,
            runs_append_cons (by decide), List.cons_append, runs_cons (by decide),
            List.flatMap_cons, ← ih]
          rfl

/-- A text begins with the marks of a stack, and the runs of ampersands behind them are the marks of
other stacks. -/
def Shows (text : List Char) (stack : List Bool) (inside : List (List Bool)) : Prop :=
  ∃ back, text = stackMarks stack ++ back ∧ back.head? ≠ some '&' ∧
    runs isAmpersand back = inside.map stackMarks

private theorem stackMarks_cons_ne_nil (rvalue : Bool) (stack : List Bool) :
    stackMarks (rvalue :: stack) ≠ [] := by
  cases rvalue <;> simp [stackMarks, referenceMark]

private theorem ampersand_of_mem_stackMarks (stack : List Bool) :
    ∀ c ∈ stackMarks stack, isAmpersand c = true := by
  intro c hMem
  obtain ⟨rvalue, -, hMark⟩ := List.mem_flatMap.1 hMem
  cases rvalue <;> simpa [referenceMark, isAmpersand] using hMark

namespace Shows

open CType (endStack)

variable {text : List Char} {stack : List Bool} {inside : List (List Bool)}

/-- The runs of ampersands are the marks of all stacks. -/
theorem runs_eq (h : Shows text stack inside) :
    runs isAmpersand text = (endStack stack inside).map stackMarks := by
  obtain ⟨back, rfl, hHead, hRuns⟩ := h
  cases stack with
  | nil => exact hRuns
  | cons rvalue stack =>
      have hMarks := runs_eq_singleton (stackMarks_cons_ne_nil rvalue stack)
        (ampersand_of_mem_stackMarks (rvalue :: stack))
      cases back with
      | nil =>
          obtain rfl : inside = [] := List.map_eq_nil_iff.1 hRuns.symm
          rw [List.append_nil, hMarks]
          rfl
      | cons c back =>
          have hOther : isAmpersand c = false :=
            beq_eq_false_iff_ne.2 fun hSame => hHead (by rw [hSame]; rfl)
          rw [runs_cons hOther] at hRuns
          rw [runs_append_cons hOther, hMarks, hRuns, endStack]
          rfl

theorem mark (h : Shows text stack inside) (rvalue : Bool) :
    Shows (referenceMark rvalue ++ text) (rvalue :: stack) inside := by
  obtain ⟨back, rfl, hHead, hRuns⟩ := h
  exact ⟨back, by rw [stackMarks, stackMarks, List.flatMap_cons, List.append_assoc], hHead, hRuns⟩

/-- Something else in front ends the stack. -/
theorem inFront (h : Shows text stack inside) (front : List Char) (hSome : front ≠ [])
    (hFront : '&' ∉ front) : Shows (front ++ text) [] (endStack stack inside) := by
  refine ⟨front ++ text, rfl, ?_, ?_⟩
  · rw [List.head?_append_of_ne_nil _ hSome]
    exact fun hHead => hFront (List.mem_of_mem_head? hHead)
  · rw [runs_append_of_not_mem hFront, h.runs_eq]

/-- More stacks behind something else. -/
theorem append_cons (h : Shows text stack inside) {c : Char} (hOther : isAmpersand c = false)
    {back : List Char} (more : List (List Bool))
    (hBack : runs isAmpersand back = more.map stackMarks) :
    Shows (text ++ c :: back) stack (inside ++ more) := by
  obtain ⟨behind, rfl, hHead, hRuns⟩ := h
  refine ⟨behind ++ c :: back, List.append_assoc _ _ _, ?_, ?_⟩
  · cases behind with
    | nil => exact fun hSame => beq_eq_false_iff_ne.1 hOther (Option.some.inj hSame)
    | cons => exact hHead
  · rw [runs_append_cons hOther, hRuns, hBack, List.map_append]

end Shows

namespace CType

variable {lang : Language}

/-- The text that a type holds beside its parts has no ampersand. -/
def LacksAmpersand : CType → Prop
  | named name _ => '&' ∉ name.toList
  | array _ size => ∀ text ∈ size, '&' ∉ text.toList
  | pointer .. | reference .. | function .. => True

private theorem ampersand_not_mem_spelling (quals : Qualifiers) (lang : Language) :
    '&' ∉ (quals.spelling lang).toList := by
  obtain ⟨_ | _, _ | _, _ | _⟩ := quals <;> cases lang <;> decide

private theorem ampersands_blankBefore {front : String} (hFront : '&' ∉ front.toList)
    (back : String) :
    ampersands (blankBefore front back) = ampersands back := by
  unfold blankBefore
  split
  · next hNone =>
      rw [hNone, ampersands, runs_eq_nil (not_ampersand hFront)]
      rfl
  · have hBlank : '&' ∉ (front ++ " ").toList := by simp [hFront]
    rw [ampersands, String.toList_append, runs_append_of_not_mem hBlank, ampersands]

private theorem ampersand_not_mem_label {name : String} (hName : '&' ∉ name.toList)
    (quals : Qualifiers) (lang : Language) :
    '&' ∉ (blankAfter (quals.spelling lang) name).toList := by
  have hQuals := ampersand_not_mem_spelling quals lang
  unfold blankAfter
  split
  · exact hName
  · simp [hQuals, hName]

section Beside

variable {inner : String} {stack : List Bool} {inside : List (List Bool)}
  (h : Shows inner.toList stack inside)

include h

/-- A pointer's operator ends the stack. -/
theorem shows_pointer (lang : Language) (quals : Qualifiers) :
    Shows ((TypeLayer.pointer quals).beside lang inner).toList [] (endStack stack inside) := by
  have hQuals := ampersand_not_mem_spelling quals lang
  have hStars : '&' ∉ ("*" ++ quals.spelling lang).toList := by simp [hQuals]
  simp only [TypeLayer.beside, blankBefore]
  split
  · simpa using h.inFront ['*'] (by simp) (by decide)
  · split
    · next hNone =>
        have hOnly := h.inFront ("*" ++ quals.spelling lang).toList (by simp) hStars
        simpa [hNone] using hOnly
    · have hBlank : '&' ∉ ("*" ++ quals.spelling lang ++ " ").toList := by simp [hQuals]
      simpa using h.inFront ("*" ++ quals.spelling lang ++ " ").toList (by simp) hBlank

private theorem shows_reference (lang : Language) (rvalue : Bool) :
    Shows ((TypeLayer.reference rvalue).beside lang inner).toList (rvalue :: stack) inside := by
  have hMark : (if rvalue then "&&" else "&" : String).toList = referenceMark rvalue := by
    cases rvalue <;> rfl
  rw [TypeLayer.beside, String.toList_append, hMark]
  exact h.mark rvalue

private theorem shows_array (lang : Language) {size : Option String}
    (hSize : ∀ text ∈ size, '&' ∉ text.toList) :
    Shows ((TypeLayer.array size).beside lang inner).toList stack inside := by
  have hText : '&' ∉ (size.getD "").toList := by
    cases size with
    | none => decide
    | some text => exact hSize text rfl
  have hBack : '&' ∉ (size.getD "").toList ++ [']'] := by simp [hText]
  have hOpening : isAmpersand '[' = false := by decide
  have hBrackets := h.append_cons hOpening [] (runs_eq_nil (not_ampersand hBack))
  simpa [TypeLayer.beside] using hBrackets

private theorem shows_function {params : List CType} (variadic prototyped : Bool)
    (hParams : params.flatMap (fun param => ampersands (param.spelling lang)) =
      (stacksAmong params).map stackMarks) :
    Shows ((TypeLayer.function params variadic prototyped).beside lang inner).toList stack
      (inside ++ stacksAmong params) := by
  have hTexts : (parameterTexts lang params variadic prototyped).flatMap ampersands =
      (stacksAmong params).map stackMarks := by
    have hDots : (if variadic then ["..."] else []).flatMap ampersands = [] := by
      cases variadic <;> decide
    rw [← hParams, parameterTexts]
    split
    · next hNone =>
        have hEmpty : params = [] := by
          rw [Bool.and_eq_true, Bool.and_eq_true, listedParameters] at hNone
          simpa using (List.append_eq_nil_iff.1 (List.isEmpty_iff.1 hNone.1.1)).1
        rw [hEmpty]
        rfl
    · rw [listedParameters, List.flatMap_append, hDots, List.append_nil, List.flatMap_map]
  have hList : runs isAmpersand
      ((", ".intercalate (parameterTexts lang params variadic prototyped)).toList ++ [')']) =
        (stacksAmong params).map stackMarks := by
    rw [runs_append_of_not_mem_right _ (by decide), ← hTexts, ← ampersands_intercalate, ampersands]
  have hOpening : isAmpersand '(' = false := by decide
  simpa [TypeLayer.beside] using h.append_cons hOpening _ hList

/-- Parentheses end the stack. -/
theorem shows_parenthesized (target : CType) :
    Shows (target.parenthesized inner).toList (if target.bindsBehindName then [] else stack)
      (if target.bindsBehindName then endStack stack inside else inside) := by
  unfold parenthesized
  split
  · have hOpen := h.inFront ['('] (by simp) (by decide)
    have hClosing : isAmpersand ')' = false := by decide
    have hNothing : runs isAmpersand [] = [] := rfl
    have hEnclosed := hOpen.append_cons hClosing [] hNothing
    simpa using hEnclosed
  · exact h

end Beside

/-- Parentheses around what a reference is applied to make no difference to its stacks. -/
theorem stacksAround_parenthesized (t : CType) (stack : List Bool) (inside : List (List Bool)) :
    t.stacksAround (if t.bindsBehindName then [] else stack)
        (if t.bindsBehindName then endStack stack inside else inside) =
      t.stacksAround stack inside := by
  split
  · next hBinds =>
      have hOther : t.isReference = false := by
        cases t with
        | reference => cases hBinds
        | _ => rfl
      exact (stacksAround_eq hOther stack inside).symm
  · rfl

mutual

-- What stands at the place of the name shows the stack that is being built and those inside it. A
-- stack may not be open in front of brackets, because these stand behind the name and would not end
-- it; there, parentheses have done so.
/-- The runs of ampersands in a spelling are the marks of the stacks, those at the place of the name
included. -/
theorem ampersands_spellAround : ∀ (t : CType) {inner : String} {stack : List Bool}
    {inside : List (List Bool)}, Everywhere LacksAmpersand t → Shows inner.toList stack inside →
      (t.bindsBehindName = true → stack = []) →
        ampersands (t.spellAround lang inner) = (t.stacksAround stack inside).map stackMarks
  | named name quals, inner, _, _, hAll, h, _ => by
      have hLabel := ampersand_not_mem_label (everywhere_named_iff.1 hAll) quals lang
      rw [spellAround, ampersands_blankBefore hLabel, stacksAround, ← h.runs_eq, ampersands]
  | pointer pointee quals, inner, stack, inside, hAll, h, _ => by
      have hInner := shows_parenthesized (shows_pointer h lang quals) pointee
      rw [stacksAround, ← stacksAround_parenthesized]
      exact ampersands_spellAround pointee (everywhere_pointer_iff.1 hAll).2 hInner (by simp)
  | reference referent rvalue, inner, stack, inside, hAll, h, _ => by
      have hInner := shows_parenthesized (shows_reference h lang rvalue) referent
      rw [stacksAround, ← stacksAround_parenthesized]
      refine ampersands_spellAround referent (everywhere_reference_iff.1 hAll).2 hInner ?_
      intro hBinds
      rw [hBinds, if_pos rfl]
  | array element size, inner, stack, inside, hAll, h, hNone => by
      obtain ⟨hSize, hElement⟩ := everywhere_array_iff.1 hAll
      obtain rfl := hNone rfl
      exact ampersands_spellAround element hElement (shows_array h lang hSize) (fun _ => rfl)
  | function result params variadic prototyped, inner, stack, inside, hAll, h, hNone => by
      obtain ⟨-, hResult, hParams⟩ := everywhere_function_iff.1 hAll
      obtain rfl := hNone rfl
      have hInner := shows_function h variadic prototyped (ampersands_spellings params hParams)
      have hAround := ampersands_spellAround result hResult hInner (fun _ => rfl)
      have hStacks : (function result params variadic prototyped).stacksAround [] inside =
          result.stacksAround [] (inside ++ stacksAmong params) := rfl
      rw [hStacks, ← hAround]
      simp [spellAround, TypeLayer.beside, parameterTexts, listedParameters]

private theorem ampersands_spellings :
    ∀ types : List CType, (∀ t ∈ types, Everywhere LacksAmpersand t) →
      types.flatMap (fun t => ampersands (t.spelling lang)) = (stacksAmong types).map stackMarks
  | [], _ => rfl
  | t :: rest, hAll => by
      obtain ⟨hFirst, hRest⟩ := List.forall_mem_cons.1 hAll
      have hEmpty : Shows ("" : String).toList [] [] := ⟨[], rfl, by simp, rfl⟩
      rw [List.flatMap_cons, ampersands_spellings rest hRest, stacksAmong, List.map_append,
        spelling,
        ampersands_spellAround t hFirst hEmpty (fun _ => rfl)]

end

/-- The runs of ampersands in a spelling are the marks of the stacks, if no name and no size has
one. -/
theorem ampersands_spelling {t : CType} (hAll : Everywhere LacksAmpersand t) (lang : Language) :
    ampersands (t.spelling lang) = t.referenceStacks.map stackMarks :=
  ampersands_spellAround t hAll ⟨[], rfl, by simp, rfl⟩ (fun _ => rfl)

private theorem lacksAmpersand_referenceTo {t : CType} (hAll : Everywhere LacksAmpersand t)
    (rvalue : Bool) : Everywhere LacksAmpersand (t.referenceTo rvalue) := by
  cases t with
  | reference referent inner =>
      exact everywhere_reference_iff.2 ⟨trivial, (everywhere_reference_iff.1 hAll).2⟩
  | _ => exact everywhere_reference_iff.2 ⟨trivial, hAll⟩

mutual

private theorem lacksAmpersand_collapsed : ∀ {t : CType}, Everywhere LacksAmpersand t →
    Everywhere LacksAmpersand t.collapsed
  | named name quals, hAll => hAll
  | pointer pointee quals, hAll =>
    everywhere_pointer_iff.2 ⟨trivial, lacksAmpersand_collapsed (everywhere_pointer_iff.1 hAll).2⟩
  | reference referent rvalue, hAll =>
    lacksAmpersand_referenceTo (lacksAmpersand_collapsed (everywhere_reference_iff.1 hAll).2) rvalue
  | array element size, hAll => by
      obtain ⟨hSize, hElement⟩ := everywhere_array_iff.1 hAll
      exact everywhere_array_iff.2 ⟨hSize, lacksAmpersand_collapsed hElement⟩
  | function result params variadic prototyped, hAll => by
      obtain ⟨-, hResult, hParams⟩ := everywhere_function_iff.1 hAll
      rw [collapsed]
      exact everywhere_function_iff.2
        ⟨trivial, lacksAmpersand_collapsed hResult, lacksAmpersand_collapsedAll hParams⟩

private theorem lacksAmpersand_collapsedAll : ∀ {types : List CType},
    (∀ t ∈ types, Everywhere LacksAmpersand t) →
      ∀ t ∈ collapsedAll types, Everywhere LacksAmpersand t
  | [], _ => by simp [collapsedAll]
  | t :: rest, hAll => by
      obtain ⟨hFirst, hRest⟩ := List.forall_mem_cons.1 hAll
      rw [collapsedAll]
      exact List.forall_mem_cons.2
        ⟨lacksAmpersand_collapsed hFirst, lacksAmpersand_collapsedAll hRest⟩

end

/-- Once references have collapsed, each run of ampersands is the mark of one reference. -/
theorem ampersands_spelling_collapsed {t : CType} (hAll : Everywhere LacksAmpersand t)
    (lang : Language) :
    ampersands (t.collapsed.spelling lang) =
      t.referenceStacks.map fun stack => referenceMark (stack.all id) := by
  have hMark : ∀ stack : List Bool,
      stackMarks (collapsedStack stack) = referenceMark (stack.all id) :=
    fun stack => List.append_nil _
  rw [ampersands_spelling (lacksAmpersand_collapsed hAll), referenceStacks_collapsed, List.map_map]
  exact List.map_congr_left fun stack _ => hMark stack

/-- The marks of a stack are those of one reference only if it is one. -/
theorem length_eq_one_of_stackMarks {stack : List Bool}
    (hSame : stackMarks stack = referenceMark (stack.all id)) : stack.length = 1 := by
  have hLength := congrArg List.length hSame
  match stack with
  | [] => exact absurd hLength (by decide)
  | [_] => rfl
  | first :: second :: rest =>
      rw [stackMarks, List.flatMap_cons, List.flatMap_cons, List.length_append,
        List.length_append, List.all_cons, List.all_cons] at hLength
      generalize rest.all id = whole at hLength
      cases first <;> cases second <;> cases whole <;> simp [referenceMark] at hLength <;> omega

/-- A type is spelled like what it collapses to only if nothing collapses. -/
theorem spelling_collapsed_eq_iff {t : CType} (hAll : Everywhere LacksAmpersand t)
    (lang : Language) :
    t.collapsed.spelling lang = t.spelling lang ↔ t.collapsed = t := by
  refine ⟨fun hSame => ?_, fun hSame => by rw [hSame]⟩
  have hMarks := congrArg ampersands hSame
  rw [ampersands_spelling_collapsed hAll, ampersands_spelling hAll, List.map_inj_left] at hMarks
  have hSingle : ∀ stack ∈ t.referenceStacks, stack.length = 1 :=
    fun stack hMem => length_eq_one_of_stackMarks (hMarks stack hMem).symm
  exact collapsed_eq_iff.2 (refersDirectly_of_stacksAround t hSingle).1

end CType

end FunctionCatalog
