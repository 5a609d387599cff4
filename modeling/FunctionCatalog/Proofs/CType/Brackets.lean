import Mathlib.Data.List.Basic

/-!
# Texts with parentheses and separators

What can be read back from a text that was put together from pieces. A closing parenthesis at the
end of a text finds its opening one if everything between them is balanced; a list of pieces joined
with a separator finds its pieces if the separator's first character cannot be part of a piece where
it would cut it; and a text in front of an operator ends where the operator's first character is.

## Main results

* `Balanced.enclosed_inj` — the parentheses at the end of a text are found.
* `Unseparated.joined_inj` — the pieces between commas are found.
* `append_inj_of_mark` — the text in front of a mark is found.
-/

namespace FunctionCatalog

/-- A text in which every closing parenthesis has an opening one in front, and every opening one
is closed. -/
structure Balanced (text : List Char) : Prop where
  /-- All parentheses are closed at the end. -/
  closed : text.count '(' = text.count ')'
  /-- No more are closed than opened anywhere before. -/
  opened : ∀ front back, text = front ++ back → front.count ')' ≤ front.count '('

/-- A balanced text in which commas stand between parentheses only. -/
structure Unseparated (text : List Char) : Prop extends Balanced text where
  /-- Some parenthesis is open where a comma stands. -/
  comma_inside : ∀ front back, text = front ++ ',' :: back → front.count ')' < front.count '('

/-! ## Balanced texts -/

theorem Balanced.of_plain {text : List Char} (hPlain : ∀ c ∈ text, c ≠ '(' ∧ c ≠ ')') :
    Balanced text := by
  have hNone : ∀ front back, text = front ++ back →
      front.count '(' = 0 ∧ front.count ')' = 0 := by
    intro front back hText
    have hFront : ∀ c ∈ front, c ≠ '(' ∧ c ≠ ')' := by
      intro c hMem
      exact hPlain c (by simp [hText, hMem])
    constructor
    · exact List.count_eq_zero.mpr fun hMem => (hFront _ hMem).1 rfl
    · exact List.count_eq_zero.mpr fun hMem => (hFront _ hMem).2 rfl
  constructor
  · obtain ⟨hOpen, hClose⟩ := hNone text [] (by simp)
    omega
  · intro front back hText
    obtain ⟨hOpen, hClose⟩ := hNone front back hText
    omega

theorem Balanced.append {front back : List Char} (hFront : Balanced front)
    (hBack : Balanced back) : Balanced (front ++ back) := by
  have hClosed := hFront.closed
  constructor
  · have hClosedBack := hBack.closed
    simp only [List.count_append]
    omega
  · intro left right hText
    obtain ⟨middle, hLeft, hRight⟩ | ⟨middle, hLeft, hRight⟩ :=
      List.append_eq_append_iff.mp hText
    · have hOpened := hBack.opened middle right hRight
      simp only [hLeft, List.count_append]
      omega
    · exact hFront.opened left middle hLeft

theorem Unseparated.of_plain {text : List Char}
    (hPlain : ∀ c ∈ text, c ≠ '(' ∧ c ≠ ')' ∧ c ≠ ',') : Unseparated text where
  toBalanced := Balanced.of_plain fun c hMem => ⟨(hPlain c hMem).1, (hPlain c hMem).2.1⟩
  comma_inside := by
    intro front back hText
    have hComma := hPlain ',' (by simp [hText])
    exact absurd rfl hComma.2.2

theorem Unseparated.append {front back : List Char} (hFront : Unseparated front)
    (hBack : Unseparated back) : Unseparated (front ++ back) where
  toBalanced := hFront.toBalanced.append hBack.toBalanced
  comma_inside := by
    intro left right hText
    have hClosed := hFront.closed
    obtain ⟨middle, hLeft, hRight⟩ | ⟨middle, hLeft, hRight⟩ :=
      List.append_eq_append_iff.mp hText
    · have hInside := hBack.comma_inside middle right hRight
      simp only [hLeft, List.count_append]
      omega
    · cases middle with
      | nil =>
          have hInside := hBack.comma_inside [] right (by simpa using hRight.symm)
          simp at hInside
      | cons c middle =>
          obtain ⟨rfl, -⟩ := List.cons.inj hRight
          exact hFront.comma_inside left middle hLeft

/-- Parentheses around a balanced text hide its commas. -/
theorem Balanced.unseparated_enclosed {text : List Char} (hText : Balanced text) :
    Unseparated ('(' :: text ++ [')']) := by
  have hClosed := hText.closed
  -- inside the parentheses, one more is open than in the text itself
  have hInside : ∀ front back, '(' :: text ++ [')'] = front ++ back → back ≠ [] →
      front = [] ∨ front.count ')' < front.count '(' := by
    intro front back hFront hBack
    cases front with
    | nil => exact Or.inl rfl
    | cons c front =>
        simp only [List.cons_append, List.cons.injEq] at hFront
        obtain ⟨rfl, hFront⟩ := hFront
        obtain ⟨last, c, rfl⟩ := List.eq_nil_or_concat back |>.resolve_left hBack
        rw [List.concat_eq_append, ← List.append_assoc] at hFront
        obtain ⟨hFront, -⟩ := List.append_inj' hFront rfl
        have hOpened := hText.opened front last hFront
        right
        simp
        omega
  refine { closed := by simp; omega, opened := ?_, comma_inside := ?_ }
  · intro front back hFront
    by_cases hBack : back = []
    · subst hBack
      rw [List.append_nil] at hFront
      rw [← hFront]
      simp
      omega
    · rcases hInside front back hFront hBack with rfl | hLt
      · simp
      · omega
  · intro front back hFront
    rcases hInside front (',' :: back) hFront (by simp) with rfl | hLt
    · simp at hFront
    · exact hLt

/-- A closing parenthesis at the end has one opening partner, if what stands between them is
balanced. -/
theorem Balanced.enclosed_inj {front front' text text' : List Char} (hText : Balanced text)
    (hText' : Balanced text')
    (hSame : front ++ ('(' :: text ++ [')']) = front' ++ ('(' :: text' ++ [')'])) :
    front = front' ∧ text = text' := by
  have hClosed := hText.closed
  have hClosed' := hText'.closed
  rw [← List.append_assoc, ← List.append_assoc] at hSame
  obtain ⟨hSame, -⟩ := List.append_inj' hSame rfl
  obtain ⟨middle, hFront, hRest⟩ | ⟨middle, hFront, hRest⟩ := List.append_eq_append_iff.mp hSame
  · cases middle with
    | nil =>
        simp only [List.nil_append, List.cons.injEq, true_and] at hRest
        exact ⟨by simpa using hFront.symm, hRest⟩
    | cons c middle =>
        simp only [List.cons_append, List.cons.injEq] at hRest
        obtain ⟨rfl, hRest⟩ := hRest
        have hOpened := hText.opened middle _ hRest
        simp [hRest] at hClosed
        omega
  · cases middle with
    | nil =>
        simp only [List.nil_append, List.cons.injEq, true_and] at hRest
        exact ⟨by simpa using hFront, hRest.symm⟩
    | cons c middle =>
        simp only [List.cons_append, List.cons.injEq] at hRest
        obtain ⟨rfl, hRest⟩ := hRest
        have hOpened := hText'.opened middle _ hRest
        simp [hRest] at hClosed'
        omega

/-! ## Joined pieces -/

/-- What follows the first of some joined pieces. -/
def joinedTail (mark : Char) (sep : List Char) : List (List Char) → List Char
  | [] => []
  | a :: as => mark :: (sep ++ (mark :: sep).intercalate (a :: as))

private theorem intercalate_cons_eq (mark : Char) (sep a : List Char) (as : List (List Char)) :
    (mark :: sep).intercalate (a :: as) = a ++ joinedTail mark sep as := by
  cases as with
  | nil => simp [joinedTail]
  | cons b as => rw [List.intercalate_cons_cons, List.append_assoc, joinedTail, List.cons_append]

private theorem eq_mark_of_joinedTail {mark c : Char} {sep tail : List Char} {as : List (List Char)}
    (hTail : joinedTail mark sep as = c :: tail) : c = mark := by
  cases as with
  | nil => simp [joinedTail] at hTail
  | cons a as => exact (List.cons.inj hTail).1.symm

private theorem intercalate_eq_of_joinedTail {mark : Char} {sep : List Char}
    {as bs : List (List Char)} (hTails : joinedTail mark sep as = joinedTail mark sep bs) :
    (mark :: sep).intercalate as = (mark :: sep).intercalate bs := by
  cases as with
  | nil =>
      cases bs with
      | nil => rfl
      | cons b bs => simp [joinedTail] at hTails
  | cons a as =>
      cases bs with
      | nil => simp [joinedTail] at hTails
      | cons b bs => exact List.append_cancel_left (List.cons.inj hTails).2

/-- If no piece goes on with the mark where another piece ends, the first piece is found. -/
theorem piece_inj {piece : List Char → Prop} {mark : Char} {sep a b : List Char}
    {as bs : List (List Char)}
    (hCut : ∀ a b rest, piece a → piece b → a ≠ b ++ mark :: rest) (hA : piece a) (hB : piece b)
    (hSame : a ++ joinedTail mark sep as = b ++ joinedTail mark sep bs) : a = b := by
  obtain ⟨middle, hb, hTail⟩ | ⟨middle, ha, hTail⟩ := List.append_eq_append_iff.mp hSame
  · cases middle with
    | nil => simpa using hb.symm
    | cons c middle =>
        obtain rfl := eq_mark_of_joinedTail hTail
        exact absurd hb (hCut b a middle hB hA)
  · cases middle with
    | nil => simpa using ha
    | cons c middle =>
        obtain rfl := eq_mark_of_joinedTail hTail
        exact absurd ha (hCut a b middle hA hB)

/-- Pieces joined with a separator are found again, if no piece goes on with the separator's first
character where another piece ends. -/
theorem joined_inj {piece : List Char → Prop} {mark : Char} {sep : List Char}
    (hNonempty : ∀ a, piece a → a ≠ [])
    (hCut : ∀ a b rest, piece a → piece b → a ≠ b ++ mark :: rest)
    {as bs : List (List Char)} (hAs : ∀ a ∈ as, piece a) (hBs : ∀ b ∈ bs, piece b)
    (hSame : (mark :: sep).intercalate as = (mark :: sep).intercalate bs) : as = bs := by
  induction as generalizing bs with
  | nil =>
      cases bs with
      | nil => rfl
      | cons b bs =>
          rw [intercalate_cons_eq, List.intercalate_nil] at hSame
          have hEmpty : b = [] := (List.append_eq_nil_iff.mp hSame.symm).1
          exact absurd hEmpty (hNonempty b (hBs b List.mem_cons_self))
  | cons a as ih =>
      obtain ⟨hA, hOthers⟩ := List.forall_mem_cons.mp hAs
      rw [intercalate_cons_eq] at hSame
      cases bs with
      | nil =>
          rw [List.intercalate_nil] at hSame
          have hEmpty : a = [] := (List.append_eq_nil_iff.mp hSame).1
          exact absurd hEmpty (hNonempty a hA)
      | cons b bs =>
          rw [intercalate_cons_eq] at hSame
          obtain ⟨hB, hOthers'⟩ := List.forall_mem_cons.mp hBs
          obtain rfl : a = b := piece_inj hCut hA hB hSame
          have hRest := intercalate_eq_of_joinedTail (List.append_cancel_left hSame)
          rw [ih hOthers hOthers' hRest]

/-- Texts without a bare comma are found between commas. -/
theorem Unseparated.joined_inj {as bs : List (List Char)}
    (hAs : ∀ a ∈ as, Unseparated a ∧ a ≠ []) (hBs : ∀ b ∈ bs, Unseparated b ∧ b ≠ [])
    (hSame : [',', ' '].intercalate as = [',', ' '].intercalate bs) : as = bs := by
  refine FunctionCatalog.joined_inj (fun a hA => hA.2) ?_ hAs hBs hSame
  intro a b rest hA hB hCut
  have hInside := hA.1.comma_inside b rest hCut
  have hClosed := hB.1.closed
  omega

/-- Words are found between blanks. -/
theorem words_joined_inj {as bs : List (List Char)}
    (hAs : ∀ a ∈ as, ' ' ∉ a ∧ a ≠ []) (hBs : ∀ b ∈ bs, ' ' ∉ b ∧ b ≠ [])
    (hSame : [' '].intercalate as = [' '].intercalate bs) : as = bs := by
  refine joined_inj (fun a hA => hA.2) ?_ hAs hBs hSame
  intro a b rest hA _ hCut
  exact hA.1 (by simp [hCut])

theorem Unseparated.joined_balanced {as : List (List Char)} (hAs : ∀ a ∈ as, Unseparated a) :
    Balanced ([',', ' '].intercalate as) := by
  have hSep : Balanced [',', ' '] := Balanced.of_plain (by simp)
  induction as with
  | nil => exact Balanced.of_plain (by simp)
  | cons a as ih =>
      obtain ⟨hA, hOthers⟩ := List.forall_mem_cons.mp hAs
      cases as with
      | nil => simpa using hA.toBalanced
      | cons b as =>
          rw [List.intercalate_cons_cons]
          exact (hA.toBalanced.append hSep).append (ih hOthers)

/-! ## Texts in front of a mark -/

/-- A text without marks ends where the first mark is. -/
theorem append_inj_of_mark {isMark : Char → Prop} {front front' back back' : List Char}
    (hFront : ∀ c ∈ front, ¬ isMark c) (hFront' : ∀ c ∈ front', ¬ isMark c)
    (hBack : ∀ c ∈ back.head?, isMark c) (hBack' : ∀ c ∈ back'.head?, isMark c)
    (hSame : front ++ back = front' ++ back') : front = front' ∧ back = back' := by
  induction front generalizing front' with
  | nil =>
      cases front' with
      | nil => exact ⟨rfl, by simpa using hSame⟩
      | cons c front' =>
          have hMark : isMark c := hBack c (by simpa using congrArg List.head? hSame)
          exact absurd hMark (hFront' c (by simp))
  | cons c front ih =>
      cases front' with
      | nil =>
          have hMark : isMark c := hBack' c (by simpa using (congrArg List.head? hSame).symm)
          exact absurd hMark (hFront c (by simp))
      | cons c' front' =>
          simp only [List.cons_append, List.cons.injEq] at hSame
          obtain ⟨rfl, hSame⟩ := hSame
          obtain ⟨hFronts, hBacks⟩ := ih (fun d hMem => hFront d (by simp [hMem]))
            (fun d hMem => hFront' d (by simp [hMem])) hSame
          exact ⟨by rw [hFronts], hBacks⟩

/-- A text without a mark begins behind the last mark. -/
theorem append_inj_of_last_mark {mark : Char} {front front' back back' : List Char}
    (hBack : mark ∉ back) (hBack' : mark ∉ back')
    (hSame : front ++ mark :: back = front' ++ mark :: back') : front = front' ∧ back = back' := by
  obtain ⟨middle, hFront, hRest⟩ | ⟨middle, hFront, hRest⟩ := List.append_eq_append_iff.mp hSame
  · cases middle with
    | nil => simp_all
    | cons c middle =>
        obtain ⟨-, hCut⟩ := List.cons.inj hRest
        exact absurd (by simp [hCut]) hBack
  · cases middle with
    | nil => simp_all
    | cons c middle =>
        obtain ⟨-, hCut⟩ := List.cons.inj hRest
        exact absurd (by simp [hCut]) hBack'

end FunctionCatalog
