import FunctionCatalog.Proofs.CType.Brackets
import FunctionCatalog.Proofs.CType.WellFormed

/-!
# Labels

Qualifiers and the words of a name, with one blank between two of them. The keywords among the words
are the qualifiers, so both are found in the text; and as no operator of a declarator begins with a
character of a word, the text is found in front of a declarator, whether a blank stands between them
or not.

## Main results

* `label_inj` — the qualifiers and the words of a name are found in a label.
* `label_mark_inj` — a label is found in front of a declarator.
-/

namespace FunctionCatalog

/-! ## Characters -/

/-- A text of words and blanks. -/
def IsLabel (text : List Char) : Prop :=
  ∀ c ∈ text, isNameChar c = true ∨ c = ' '

/-- The characters with which operators of a declarator begin. -/
def IsMark (c : Char) : Prop :=
  c ∈ ['*', '&', '(', '[']

private theorem not_mem_punctuation {c : Char} (hChar : isNameChar c = true ∨ c = ' ') :
    c ∉ ['*', '&', '(', '[', ')', ']', ',', '.'] := by
  intro hMem
  simp only [List.mem_cons, List.not_mem_nil, or_false] at hMem
  rcases hMem with rfl | rfl | rfl | rfl | rfl | rfl | rfl | rfl <;> exact absurd hChar (by decide)

theorem IsLabel.not_isMark {text : List Char} (hLabel : IsLabel text) :
    ∀ c ∈ text, ¬ IsMark c := by
  intro c hMem hMark
  have hPunctuation := not_mem_punctuation (hLabel c hMem)
  simp only [IsMark, List.mem_cons, List.not_mem_nil, or_false] at hMark
  rcases hMark with rfl | rfl | rfl | rfl <;> simp at hPunctuation

theorem IsLabel.unseparated {text : List Char} (hLabel : IsLabel text) : Unseparated text := by
  refine Unseparated.of_plain fun c hMem => ?_
  have hPunctuation := not_mem_punctuation (hLabel c hMem)
  refine ⟨?_, ?_, ?_⟩ <;> rintro rfl <;> simp at hPunctuation

theorem IsLabel.append {front back : List Char} (hFront : IsLabel front) (hBack : IsLabel back) :
    IsLabel (front ++ back) := by
  intro c hMem
  rcases List.mem_append.mp hMem with hMem | hMem
  · exact hFront c hMem
  · exact hBack c hMem

/-! ## Words -/

/-- The keywords of a set of qualifiers. -/
def Qualifiers.words (quals : Qualifiers) (lang : Language) : List String :=
  (if quals.isConst then ["const"] else []) ++
    (if quals.isVolatile then ["volatile"] else []) ++
    (if quals.isRestrict then
      [match lang with | .c => "restrict" | .cpp => "__restrict"]
    else [])

namespace Qualifiers

variable {lang : Language}

theorem mem_qualifierKeywords {quals : Qualifiers} :
    ∀ word ∈ quals.words lang, word ∈ qualifierKeywords := by
  obtain ⟨_ | _, _ | _, _ | _⟩ := quals <;> cases lang <;> decide

private theorem words_inj {quals quals' : Qualifiers}
    (hSame : quals.words lang = quals'.words lang) :
    quals = quals' := by
  revert hSame
  obtain ⟨_ | _, _ | _, _ | _⟩ := quals <;> obtain ⟨_ | _, _ | _, _ | _⟩ := quals' <;>
    cases lang <;> decide

end Qualifiers

/-- A word of the characters that names have. -/
def IsPlainWord (word : String) : Prop :=
  word ≠ "" ∧ ∀ c ∈ word.toList, isNameChar c = true

private theorem isPlainWord_of_keyword : ∀ word ∈ qualifierKeywords, IsPlainWord word := by
  intro word hMem
  simp only [qualifierKeywords, List.mem_cons, List.not_mem_nil, or_false] at hMem
  rcases hMem with rfl | rfl | rfl | rfl <;> exact ⟨by decide, List.all_eq_true.mp rfl⟩

theorem isPlainWord_of_mem_words {lang : Language} {quals : Qualifiers} :
    ∀ word ∈ quals.words lang, IsPlainWord word := by
  intro word hMem
  exact isPlainWord_of_keyword word (Qualifiers.mem_qualifierKeywords word hMem)

/-- A text of words with blanks between them is a label. -/
theorem isLabel_intercalate {words : List String} (hWords : ∀ word ∈ words, IsPlainWord word) :
    IsLabel (" ".intercalate words).toList := by
  induction words with
  | nil => simp [IsLabel]
  | cons word words ih =>
      obtain ⟨hWord, hRest⟩ := List.forall_mem_cons.mp hWords
      have hFirst : IsLabel word.toList := fun c hMem => Or.inl (hWord.2 c hMem)
      have hOthers := ih hRest
      cases words with
      | nil => simpa using hFirst
      | cons next words =>
          rw [String.intercalate_cons_cons, String.toList_append, String.toList_append]
          exact (hFirst.append (by simp [IsLabel])).append hOthers

/-- Words separated by blanks are found in the text. -/
theorem intercalate_blank_inj {words words' : List String}
    (hWords : ∀ word ∈ words, IsPlainWord word) (hWords' : ∀ word ∈ words', IsPlainWord word)
    (hSame : " ".intercalate words = " ".intercalate words') : words = words' := by
  have hPieces : ∀ words : List String, (∀ word ∈ words, IsPlainWord word) →
      ∀ piece ∈ words.map String.toList, ' ' ∉ piece ∧ piece ≠ [] := by
    intro words hWords piece hPiece
    obtain ⟨word, hMem, rfl⟩ := List.mem_map.mp hPiece
    obtain ⟨hNonempty, hChars⟩ := hWords word hMem
    refine ⟨?_, by simpa using hNonempty⟩
    intro hBlank
    exact absurd (hChars ' ' hBlank) (by decide)
  have hChars := congrArg String.toList hSame
  rw [String.toList_intercalate, String.toList_intercalate] at hChars
  have hLists := words_joined_inj (hPieces words hWords) (hPieces words' hWords') hChars
  exact List.map_injective_iff.mpr (fun _ _ => String.toList_injective) hLists

theorem exists_head_intercalate {words : List String} (hNonempty : words ≠ [])
    (hWords : ∀ word ∈ words, IsPlainWord word) :
    ∃ c ∈ (" ".intercalate words).toList.head?, isNameChar c = true := by
  cases words with
  | nil => exact absurd rfl hNonempty
  | cons word rest =>
      obtain ⟨hWord, hChars⟩ := hWords word (by simp)
      obtain ⟨c, tail, hList⟩ := List.exists_cons_of_ne_nil (mt String.toList_eq_nil_iff.mp hWord)
      refine ⟨c, ?_, hChars c (by simp [hList])⟩
      cases rest with
      | nil => simp [hList]
      | cons next rest => simp [hList]

/-- The words of a label: keywords of qualifiers and words of a name. -/
theorem isPlainWord_of_mem_label (lang : Language) (quals : Qualifiers) {words : List String}
    (hWords : ∀ word ∈ words, IsNameWord word) :
    ∀ word ∈ quals.words lang ++ words, IsPlainWord word := by
  intro word hMem
  rcases List.mem_append.mp hMem with hMem | hMem
  · exact isPlainWord_of_mem_words word hMem
  · exact ⟨(hWords word hMem).nonempty, (hWords word hMem).isNameChar_of_mem⟩

/-- The qualifiers and the words of a name are found in what they spell. -/
theorem label_inj {lang : Language} {quals quals' : Qualifiers} {words words' : List String}
    (hWords : ∀ word ∈ words, IsNameWord word) (hWords' : ∀ word ∈ words', IsNameWord word)
    (hSame : " ".intercalate (quals.words lang ++ words) =
      " ".intercalate (quals'.words lang ++ words')) : quals = quals' ∧ words = words' := by
  -- the words that are keywords are the qualifiers
  have hKeywords : ∀ (quals : Qualifiers) (words : List String),
      (∀ word ∈ words, IsNameWord word) →
      (quals.words lang ++ words).filter (· ∈ qualifierKeywords) = quals.words lang := by
    intro quals words hWords
    have hNone : words.filter (· ∈ qualifierKeywords) = [] := by
      refine List.filter_eq_nil_iff.mpr fun word hMem => ?_
      simpa using (hWords word hMem).not_keyword
    have hSome : (quals.words lang).filter (· ∈ qualifierKeywords) = quals.words lang :=
      List.filter_eq_self.mpr fun word hMem => by
        simpa using Qualifiers.mem_qualifierKeywords word hMem
    rw [List.filter_append, hNone, hSome, List.append_nil]
  have hLists := intercalate_blank_inj (isPlainWord_of_mem_label lang quals hWords)
    (isPlainWord_of_mem_label lang quals' hWords') hSame
  have hQuals : quals.words lang = quals'.words lang := by
    rw [← hKeywords quals words hWords, ← hKeywords quals' words' hWords', hLists]
  refine ⟨Qualifiers.words_inj hQuals, ?_⟩
  rw [hQuals] at hLists
  exact List.append_cancel_left hLists

/-! ## What follows a label -/

/-- The blank between a label and what follows. -/
def gapBefore (back : String) : List Char :=
  if back = "" then [] else [' ']

theorem isLabel_gapBefore (back : String) : IsLabel (gapBefore back) := by
  intro c hMem
  unfold gapBefore at hMem
  split at hMem
  · simp at hMem
  · exact Or.inr (by simpa using hMem)

theorem toList_blankBefore (front back : String) :
    (blankBefore front back).toList = front.toList ++ gapBefore back ++ back.toList := by
  by_cases hBack : back = ""
  · simp [blankBefore, gapBefore, hBack]
  · simp [blankBefore, gapBefore, hBack]

/-- A label ends where the first mark is, with or without a blank between them. -/
theorem label_mark_inj {front front' : List Char} {back back' : String} (hFront : IsLabel front)
    (hFront' : IsLabel front') (hBack : ∀ c ∈ back.toList.head?, IsMark c)
    (hBack' : ∀ c ∈ back'.toList.head?, IsMark c)
    (hSame : front ++ gapBefore back ++ back.toList = front' ++ gapBefore back' ++ back'.toList) :
    front = front' ∧ back = back' := by
  have hGap : ∀ {front : List Char} (back : String), IsLabel front →
      ∀ c ∈ front ++ gapBefore back, ¬ IsMark c := by
    intro front back hFront
    exact (hFront.append (isLabel_gapBefore back)).not_isMark
  obtain ⟨hFronts, hBacks⟩ :=
    append_inj_of_mark (hGap back hFront) (hGap back' hFront') hBack hBack' hSame
  have hBackSame : back = back' := String.toList_injective hBacks
  subst hBackSame
  exact ⟨List.append_cancel_right hFronts, rfl⟩

end FunctionCatalog
