import FunctionCatalog.Text.Basic

/-!
# The characters of a text

Which characters are in a text that was joined of others or cut out of one. A text is on one line
if blanks are the only white space in it: then it has no line break, whichever of the line breaks
of Unicode that may be. A word has no white space at all.

## Main results

* `mem_of_mem_intercalate` — a character of joined texts is from one of them, or from what stands
  between.
* `runs_append_cons` — no run reaches over a character that runs are not made of.
* `isWord_of_mem_words` — the words of a text have no white space.
* `words_append_gap` — no word reaches over white space.
* `oneLine_intercalate` — texts on one line that are joined on one line are on one line.
-/

namespace FunctionCatalog

/-! ## Joining and cutting -/

/-- A member of joined lists is from one of them, or from what stands between them. -/
theorem mem_of_mem_intercalate {α : Type} {separator : List α} {pieces : List (List α)} {item : α}
    (hMem : item ∈ separator.intercalate pieces) :
    item ∈ separator ∨ ∃ piece ∈ pieces, item ∈ piece := by
  induction pieces with
  | nil => simp at hMem
  | cons first rest ih =>
      cases rest with
      | nil =>
          rw [List.intercalate_singleton] at hMem
          exact .inr ⟨first, List.mem_cons_self, hMem⟩
      | cons next rest =>
          rw [List.intercalate_cons_cons, List.mem_append, List.mem_append] at hMem
          rcases hMem with (hFirst | hSeparator) | hRest
          · exact .inr ⟨first, List.mem_cons_self, hFirst⟩
          · exact .inl hSeparator
          · rcases ih hRest with hSeparator | ⟨piece, hPiece, hItem⟩
            · exact .inl hSeparator
            · exact .inr ⟨piece, List.mem_cons_of_mem _ hPiece, hItem⟩

private theorem keep_of_mem_runsFrom {keep : Char → Bool} {text run : List Char}
    (hRun : ∀ c ∈ run, keep c = true) :
    ∀ piece ∈ runsFrom keep run text, ∀ c ∈ piece, keep c = true := by
  induction run, text using runsFrom.induct keep with
  | case1 run hEmpty => simp [runsFrom, hEmpty]
  | case2 run hEmpty => simpa [runsFrom, hEmpty] using hRun
  | case3 run c rest hKeep ih =>
      rw [runsFrom, if_pos hKeep]
      exact ih (List.forall_mem_append.mpr ⟨hRun, by simpa using hKeep⟩)
  | case4 run c rest hKeep hEmpty ih =>
      rw [runsFrom, if_neg hKeep, if_pos hEmpty]
      exact ih (by simp)
  | case5 run c rest hKeep hEmpty ih =>
      rw [runsFrom, if_neg hKeep, if_neg hEmpty]
      exact List.forall_mem_cons.mpr ⟨hRun, ih (by simp)⟩

/-- A run is made of the characters that runs are made of. -/
theorem keep_of_mem_runs {keep : Char → Bool} {text : List Char} :
    ∀ piece ∈ runs keep text, ∀ c ∈ piece, keep c = true :=
  keep_of_mem_runsFrom (by simp)

private theorem ne_nil_of_mem_runsFrom {keep : Char → Bool} {text run : List Char} :
    ∀ piece ∈ runsFrom keep run text, piece ≠ [] := by
  induction run, text using runsFrom.induct keep with
  | case1 run hEmpty => simp [runsFrom, hEmpty]
  | case2 run hEmpty =>
      rw [runsFrom, if_neg hEmpty]
      simpa using hEmpty
  | case3 run c rest hKeep ih =>
      rw [runsFrom, if_pos hKeep]
      exact ih
  | case4 run c rest hKeep hEmpty ih =>
      rw [runsFrom, if_neg hKeep, if_pos hEmpty]
      exact ih
  | case5 run c rest hKeep hEmpty ih =>
      rw [runsFrom, if_neg hKeep, if_neg hEmpty]
      exact List.forall_mem_cons.mpr ⟨by simpa using hEmpty, ih⟩

/-- No run is empty. -/
theorem ne_nil_of_mem_runs {keep : Char → Bool} {text : List Char} :
    ∀ piece ∈ runs keep text, piece ≠ [] :=
  ne_nil_of_mem_runsFrom

private theorem runsFrom_append_cons {keep : Char → Bool} {c : Char} (hSeparates : keep c = false)
    (run front back : List Char) :
    runsFrom keep run (front ++ c :: back) = runsFrom keep run front ++ runs keep back := by
  induction run, front using runsFrom.induct keep with
  | case1 run hEmpty => simp [runsFrom, hEmpty, hSeparates, runs]
  | case2 run hEmpty => simp [runsFrom, hEmpty, hSeparates, runs]
  | case3 run c' rest hKeep ih => simpa [runsFrom, hKeep] using ih
  | case4 run c' rest hKeep hEmpty ih => simpa [runsFrom, hKeep, hEmpty] using ih
  | case5 run c' rest hKeep hEmpty ih => simpa [runsFrom, hKeep, hEmpty] using ih

/-- No run reaches over a character that runs are not made of. -/
theorem runs_append_cons {keep : Char → Bool} {c : Char} (hSeparates : keep c = false)
    (front back : List Char) :
    runs keep (front ++ c :: back) = runs keep front ++ runs keep back :=
  runsFrom_append_cons hSeparates [] front back

theorem runs_cons {keep : Char → Bool} {c : Char} (hSeparates : keep c = false)
    (back : List Char) : runs keep (c :: back) = runs keep back :=
  runs_append_cons hSeparates [] back

theorem runs_gap {keep : Char → Bool} {gap : List Char} (hGap : ∀ c ∈ gap, keep c = false)
    (back : List Char) : runs keep (gap ++ back) = runs keep back := by
  induction gap with
  | nil => rfl
  | cons c gap ih =>
      obtain ⟨hFirst, hRest⟩ := List.forall_mem_cons.1 hGap
      rw [List.cons_append, runs_cons hFirst, ih hRest]

theorem runs_eq_nil {keep : Char → Bool} {text : List Char} (hText : ∀ c ∈ text, keep c = false) :
    runs keep text = [] := by
  have hGap := runs_gap hText []
  rwa [List.append_nil] at hGap

/-- What separates runs adds none. -/
theorem runs_append_gap {keep : Char → Bool} {gap : List Char} (hNonempty : gap ≠ [])
    (hGap : ∀ c ∈ gap, keep c = false) (front back : List Char) :
    runs keep (front ++ (gap ++ back)) = runs keep front ++ runs keep back := by
  obtain ⟨c, gap, rfl⟩ := List.exists_cons_of_ne_nil hNonempty
  obtain ⟨hFirst, hRest⟩ := List.forall_mem_cons.1 hGap
  rw [List.cons_append, runs_append_cons hFirst, runs_gap hRest]

private theorem runsFrom_eq_singleton {keep : Char → Bool} {text run : List Char}
    (hNonempty : run ++ text ≠ []) (hText : ∀ c ∈ text, keep c = true) :
    runsFrom keep run text = [run ++ text] := by
  induction text generalizing run with
  | nil => simpa [runsFrom] using hNonempty
  | cons c rest ih =>
      obtain ⟨hFirst, hRest⟩ := List.forall_mem_cons.1 hText
      rw [runsFrom, if_pos hFirst, ih (by simp) hRest, List.append_assoc, List.singleton_append]

/-- A text of characters that runs are made of is one run. -/
theorem runs_eq_singleton {keep : Char → Bool} {text : List Char} (hNonempty : text ≠ [])
    (hText : ∀ c ∈ text, keep c = true) : runs keep text = [text] :=
  runsFrom_eq_singleton hNonempty hText

/-- Runs with a mark between them are found again. -/
theorem runs_intercalate {keep : Char → Bool} {mark : Char} (hMark : keep mark = false)
    {list : List (List Char)} (hList : ∀ run ∈ list, run ≠ [] ∧ ∀ c ∈ run, keep c = true) :
    runs keep ([mark].intercalate list) = list := by
  induction list with
  | nil => rfl
  | cons run list ih =>
      obtain ⟨⟨hNonempty, hRun⟩, hRest⟩ := List.forall_mem_cons.1 hList
      cases list with
      | nil => simpa using runs_eq_singleton hNonempty hRun
      | cons next list =>
          rw [List.intercalate_cons_cons, List.append_assoc, List.singleton_append,
            runs_append_cons hMark, runs_eq_singleton hNonempty hRun, ih hRest,
            List.singleton_append]

/-! ## Words -/

/-- There is no white space in a text. -/
def IsWord (text : String) : Prop :=
  ∀ c ∈ text.toList, isWhiteSpace c = false

instance (text : String) : Decidable (IsWord text) :=
  List.decidableBAll (fun c => isWhiteSpace c = false) text.toList

theorem isWord_of_mem_words {text : String} : ∀ word ∈ words text, IsWord word := by
  intro word hWord c hMem
  obtain ⟨run, hRun, rfl⟩ := List.mem_map.mp hWord
  rw [String.toList_ofList] at hMem
  simpa using keep_of_mem_runs run hRun c hMem

/-- A word is its own only word. -/
theorem words_eq_singleton {text : String} (hWord : IsWord text) (hNonempty : text ≠ "") :
    words text = [text] := by
  rw [words, runs_eq_singleton (fun hNil => hNonempty (String.toList_eq_nil_iff.mp hNil))
    fun c hMem => by rw [hWord c hMem]; rfl]
  simp

theorem ne_empty_of_mem_words {text : String} : ∀ word ∈ words text, word ≠ "" := by
  intro word hWord hEmpty
  obtain ⟨run, hRun, rfl⟩ := List.mem_map.mp hWord
  exact ne_nil_of_mem_runs run hRun (by simpa using hEmpty)

theorem IsWord.filter_eq {text : String} (hWord : IsWord text) :
    text.toList.filter (!isWhiteSpace ·) = text.toList :=
  List.filter_eq_self.mpr fun c hMem => by rw [hWord c hMem]; rfl

theorem toList_intercalate_words (text : String) :
    (" ".intercalate (words text)).toList =
      [' '].intercalate (runs (!isWhiteSpace ·) text.toList) := by
  rw [String.toList_intercalate, words, List.map_map]
  simp [Function.comp_def]

/-- No word reaches over white space. -/
theorem words_append_gap {gap : List Char} (hNonempty : gap ≠ [])
    (hGap : ∀ c ∈ gap, isWhiteSpace c = true) (front back : List Char) :
    words (String.ofList (front ++ (gap ++ back))) =
      words (String.ofList front) ++ words (String.ofList back) := by
  simp only [words, String.toList_ofList]
  rw [runs_append_gap hNonempty (fun c hMem => by rw [hGap c hMem]; rfl), List.map_append]

/-! ## Lines -/

/-- Blanks are the only white space in a text. -/
def OneLine (text : String) : Prop :=
  ∀ c ∈ text.toList, isWhiteSpace c = true → c = ' '

instance (text : String) : Decidable (OneLine text) :=
  List.decidableBAll (fun c => isWhiteSpace c = true → c = ' ') text.toList

theorem IsWord.oneLine {text : String} (hWord : IsWord text) : OneLine text :=
  fun c hMem hWhite => absurd ((hWord c hMem).symm.trans hWhite) Bool.false_ne_true

theorem oneLine_ofList {text : List Char} :
    OneLine (String.ofList text) ↔ ∀ c ∈ text, isWhiteSpace c = true → c = ' ' := by
  rw [OneLine, String.toList_ofList]

@[simp] theorem oneLine_append {front back : String} :
    OneLine (front ++ back) ↔ OneLine front ∧ OneLine back := by
  rw [OneLine, String.toList_append]
  exact List.forall_mem_append

theorem oneLine_intercalate {separator : String} {texts : List String}
    (hSeparator : OneLine separator) (hTexts : ∀ text ∈ texts, OneLine text) :
    OneLine (separator.intercalate texts) := by
  intro c hMem
  rw [String.toList_intercalate] at hMem
  rcases mem_of_mem_intercalate hMem with hSeparatorMem | ⟨piece, hPiece, hPieceMem⟩
  · exact hSeparator c hSeparatorMem
  · obtain ⟨text, hText, rfl⟩ := List.mem_map.mp hPiece
    exact hTexts text hText c hPieceMem

theorem oneLine_join {texts : List String} (hTexts : ∀ text ∈ texts, OneLine text) :
    OneLine (String.join texts) := by
  intro c hMem
  rw [String.toList_join, List.mem_flatMap] at hMem
  obtain ⟨text, hText, hMem⟩ := hMem
  exact hTexts text hText c hMem

/-- A text on one line has no line feed, and no other line break either. -/
theorem OneLine.not_mem {text : String} (hText : OneLine text) {c : Char}
    (hBreak : isWhiteSpace c = true ∧ c ≠ ' ') : c ∉ text.toList :=
  fun hMem => hBreak.2 (hText c hMem hBreak.1)

end FunctionCatalog
