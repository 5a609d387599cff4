import FunctionCatalog.Proofs.LinkageGuard.Parts

/-!
# The search for guards goes by lines

A guard that is found at the start of a source covers its first two lines and the beginning of its
third. So the search goes on from line to line, and three lines at a time where there is a guard.

## Main results

* `guardsFirst_of_find?`, `find?_of_guardsFirst` — a guard is found exactly where the first three
  lines make one.
* `rangesFrom_of_not_guardsFirst`, `rangesFrom_of_guardsFirst` — how the search goes on.
-/

namespace FunctionCatalog

namespace LinkageGuard

open Pattern

/-! ## Guards at the front -/

/-- What is found at the start of a source, with its lines. -/
theorem exists_of_find? {source : Bytes} {found : Found} (h : find? source = some found) :
    ∃ first middle front rest, source = first ++ 0x0A :: (middle ++ 0x0A :: (front ++ rest)) ∧
      0x0A ∉ first ∧ 0x0A ∉ middle ∧ 0x0A ∉ front ∧
      asksForCpp first ∧ marksBlock middle ∧ (directive "endif").Describes front ∧
      found = {
        markStart := first.length + 1
        markStop := first.length + 1 + (withoutReturn middle).length
        stop := first.length + 1 + (middle.length + 1 + front.length) } := by
  obtain ⟨open', atMark, rfl, hOpening, h⟩ := exists_of_run h
  obtain ⟨mark, behindMark, rfl, hMark, h⟩ := exists_of_run h
  obtain ⟨end', rest, rfl, hEnding, h⟩ := exists_of_run h
  obtain ⟨first, rfl, hFirst, hAsks⟩ := describes_opening.1 hOpening
  obtain ⟨lineEnd', front, rfl, hEnd, hFront⟩ := hEnding
  have hReturn : 0x0D ∉ mark := not_mem_of_rejects (n := 0x0D) (by decide) (by rfl) hMark
  have hFeed : 0x0A ∉ mark := not_mem_of_rejects (n := 0x0A) (by decide) (by rfl) hMark
  have hNoFeed : 0x0A ∉ front := not_mem_of_rejects (n := 0x0A) (by decide) (by rfl) hFront
  obtain ⟨middle, hMiddle, hNot, rfl⟩ := exists_line_of_lineEnd hReturn hFeed hEnd
  have hLength := congrArg List.length hMiddle
  refine ⟨first, middle, front, rest, ?_, hFirst, hNot, hNoFeed, hAsks, describes_marked.1 hMark,
    hFront, ?_⟩
  · calc (first ++ [0x0A]) ++ (withoutReturn middle ++ ((lineEnd' ++ front) ++ rest))
        = (first ++ [0x0A]) ++ ((withoutReturn middle ++ lineEnd') ++ (front ++ rest)) := by
          simp only [List.append_assoc]
      _ = first ++ 0x0A :: (middle ++ 0x0A :: (front ++ rest)) := by
          rw [hMiddle]
          simp
  · rw [← Option.some.inj h]
    simp only [List.length_append, List.length_cons, List.length_nil] at hLength ⊢
    congr 1 <;> omega

/-- Where three lines make a guard, one is found. -/
theorem find?_ne_none {first middle front : Bytes} (hFirst : 0x0A ∉ first)
    (hAsks : asksForCpp first) (hMarks : marksBlock middle)
    (hFront : (directive "endif").Describes front) (rest : Bytes) :
    find? (first ++ 0x0A :: (middle ++ 0x0A :: (front ++ rest))) ≠ none := by
  obtain ⟨ending, hEnd, hMiddle⟩ := exists_lineEnd_of_line middle
  intro hNone
  have hBehind : middle ++ 0x0A :: (front ++ rest) =
      withoutReturn middle ++ (ending ++ front ++ rest) :=
    calc middle ++ 0x0A :: (front ++ rest)
        = (middle ++ [0x0A]) ++ (front ++ rest) := by simp
      _ = withoutReturn middle ++ (ending ++ front ++ rest) := by
          rw [hMiddle]
          simp only [List.append_assoc]
  have hAtMark := run_eq_none_iff.1 hNone (first ++ [0x0A]) (middle ++ 0x0A :: (front ++ rest))
    (by simp) (describes_opening.2 ⟨first, rfl, hFirst, hAsks⟩)
  have hBehindMark := run_eq_none_iff.1 hAtMark _ _ hBehind (describes_marked.2 hMarks)
  have hRest := run_eq_none_iff.1 hBehindMark (ending ++ front) rest rfl
    ⟨ending, front, rfl, hEnd, hFront⟩
  exact absurd hRest (by simp)

private theorem directive_ne_nil {front : Bytes} (h : (directive "endif").Describes front) :
    front ≠ [] := by
  rintro rfl
  have hAfter : afterDirective? "endif" [] = some [] :=
    (afterDirective?_eq_some_iff (by rfl) (by rfl)).2 ⟨[], rfl, h⟩
  exact absurd hAfter (by decide)

theorem guardsFirst_of_find? {list : List Bytes} (hList : list ≠ [])
    (hLines : ∀ line ∈ list, 0x0A ∉ line) {found : Found} (h : find? (unlines list) = some found) :
    guardsFirst list := by
  obtain ⟨first, middle, front, rest, hSource, hFirst, hMiddle, hFront, hAsks, hMarks, hEnds, -⟩ :=
    exists_of_find? h
  obtain ⟨tail, more, hRest⟩ := List.exists_cons_of_ne_nil (lines_ne_nil rest)
  have hSame : list = first :: middle :: (front ++ tail) :: more := by
    rw [← lines_unlines hList hLines, hSource, lines_append_lineFeed hFirst,
      lines_append_lineFeed hMiddle, lines_append hFront hRest]
  have hLast : afterDirective? "endif" (front ++ tail) = some tail :=
    (afterDirective?_eq_some_iff (by rfl) (by rfl)).2 ⟨front, rfl, hEnds⟩
  simp [hSame, guardsFirst, hAsks, hMarks, endsConditional, hLast]

/-- A guard reaches from its first line into its last. -/
theorem find?_of_guardsFirst {first middle last : Bytes} (hFirst : 0x0A ∉ first)
    (hMiddle : 0x0A ∉ middle) {more : List Bytes}
    (hGuard : guardsFirst (first :: middle :: last :: more)) :
    ∃ reach, 0 < reach ∧ reach ≤ last.length ∧
      find? (unlines (first :: middle :: last :: more)) = some {
        markStart := first.length + 1
        markStop := first.length + 1 + (withoutReturn middle).length
        stop := first.length + 1 + (middle.length + 1 + reach) } := by
  simp only [guardsFirst, Bool.and_eq_true, endsConditional, Option.isSome_iff_exists] at hGuard
  obtain ⟨⟨hAsks, hMarks⟩, left, hLeft⟩ := hGuard
  obtain ⟨front, rfl, hEnds⟩ := (afterDirective?_eq_some_iff (by rfl) (by rfl)).1 hLeft
  obtain ⟨rest, hRest⟩ : ∃ rest, unlines ((front ++ left) :: more) = front ++ rest := by
    cases more with
    | nil => exact ⟨left, unlines_singleton _⟩
    | cons next more =>
        exact ⟨left ++ 0x0A :: unlines (next :: more), by
          rw [unlines_cons (List.cons_ne_nil _ _), List.append_assoc]⟩
  have hSource : unlines (first :: middle :: (front ++ left) :: more) =
      first ++ 0x0A :: (middle ++ 0x0A :: (front ++ rest)) := by
    rw [unlines_cons (List.cons_ne_nil _ _), unlines_cons (List.cons_ne_nil _ _), hRest]
  obtain ⟨found, hFound⟩ :=
    Option.ne_none_iff_exists'.1 (find?_ne_none hFirst hAsks hMarks hEnds rest)
  obtain ⟨first', middle', front', rest', hSource', hFirst', hMiddle', -, -, -, hEnds', rfl⟩ :=
    exists_of_find? hFound
  -- What is found has the same lines, and the name of the last directive ends at the same place.
  have hSame := congrArg lines hSource'
  rw [lines_append_lineFeed hFirst, lines_append_lineFeed hFirst', lines_append_lineFeed hMiddle,
    lines_append_lineFeed hMiddle'] at hSame
  injection hSame with hSameFirst hSame
  injection hSame with hSameMiddle
  subst hSameFirst hSameMiddle
  have hBehind : front ++ rest = front' ++ rest' := by simpa using hSource'
  have hAfter : afterDirective? "endif" (front ++ rest) = some rest :=
    (afterDirective?_eq_some_iff (by rfl) (by rfl)).2 ⟨front, rfl, hEnds⟩
  have hAfter' : afterDirective? "endif" (front ++ rest) = some rest' :=
    (afterDirective?_eq_some_iff (by rfl) (by rfl)).2 ⟨front', hBehind, hEnds'⟩
  obtain rfl : rest = rest' := Option.some.inj (hAfter.symm.trans hAfter')
  obtain rfl : front = front' := List.append_cancel_right hBehind
  exact ⟨front.length, List.length_pos_iff.2 (directive_ne_nil hEnds), by simp, hSource ▸ hFound⟩

/-! ## From line to line -/

/-- The search goes on at the next line. -/
theorem rangesFrom_line {line : Bytes} (hLine : 0x0A ∉ line) (rest : Bytes) {offset skipped : Nat}
    {startsLine : Bool} (hSkipped : skipped ≤ line.length)
    (hNone : (if skipped = 0 ∧ startsLine then find? (line ++ 0x0A :: rest) else none) = none) :
    rangesFrom offset skipped startsLine (line ++ 0x0A :: rest) =
      rangesFrom (offset + line.length + 1) 0 true rest := by
  induction line generalizing offset skipped startsLine with
  | nil =>
      rw [List.nil_append] at hNone ⊢
      rw [rangesFrom, hNone]
      obtain rfl : skipped = 0 := by simpa using hSkipped
      rfl
  | cons b line ih =>
      have hByte : (b == 0x0A) = false :=
        beq_eq_false_iff_ne.2 fun h => hLine (h ▸ List.mem_cons_self)
      rw [List.cons_append] at hNone ⊢
      rw [rangesFrom, hNone, hByte]
      rw [List.length_cons] at hSkipped
      have hOffset : offset + (b :: line).length + 1 = offset + 1 + line.length + 1 := by
        rw [List.length_cons]
        omega
      rw [hOffset]
      exact ih (fun hMem => hLine (List.mem_cons_of_mem _ hMem)) (by omega) (by simp)

/-- There is nothing behind the last line. -/
theorem rangesFrom_last {line : Bytes} (hLine : 0x0A ∉ line) {offset skipped : Nat}
    {startsLine : Bool} (hNone : (if skipped = 0 ∧ startsLine then find? line else none) = none) :
    rangesFrom offset skipped startsLine line = [] := by
  induction line generalizing offset skipped startsLine with
  | nil => rfl
  | cons b line ih =>
      have hByte : (b == 0x0A) = false :=
        beq_eq_false_iff_ne.2 fun h => hLine (h ▸ List.mem_cons_self)
      rw [rangesFrom, hNone, hByte]
      exact ih (fun hMem => hLine (List.mem_cons_of_mem _ hMem)) (by simp)

/-- The search goes on behind the first line, whether or not there are more. -/
theorem rangesFrom_unlines {line : Bytes} {more : List Bytes} (hLine : 0x0A ∉ line)
    {offset skipped : Nat} {startsLine : Bool} (hSkipped : skipped ≤ line.length)
    (hNone : (if skipped = 0 ∧ startsLine then find? (unlines (line :: more)) else none) = none) :
    rangesFrom offset skipped startsLine (unlines (line :: more)) =
      rangesFrom (offset + line.length + 1) 0 true (unlines more) := by
  cases more with
  | nil =>
      rw [unlines_singleton] at hNone ⊢
      exact rangesFrom_last hLine hNone
  | cons next more =>
      rw [unlines_cons (List.cons_ne_nil _ _)] at hNone ⊢
      exact rangesFrom_line hLine _ hSkipped hNone

/-- The search goes on in the next line, behind the part of it that belongs to a guard. -/
theorem rangesFrom_skip (front rest : Bytes) (offset skipped : Nat) (startsLine : Bool) :
    ∃ startsLine', rangesFrom offset (front.length + (skipped + 1)) startsLine (front ++ rest) =
      rangesFrom (offset + front.length) (skipped + 1) startsLine' rest := by
  induction front generalizing offset startsLine with
  | nil => exact ⟨startsLine, by simp⟩
  | cons b front ih =>
      obtain ⟨startsLine', hRest⟩ := ih (offset + 1) (b == 0x0A)
      refine ⟨startsLine', ?_⟩
      have hOffset : offset + 1 + front.length = offset + (b :: front).length := by
        rw [List.length_cons]
        omega
      have hLeft : (b :: front).length + (skipped + 1) - 1 = front.length + (skipped + 1) := by
        rw [List.length_cons]
        omega
      rw [List.cons_append, rangesFrom, if_neg (by simp), ← hOffset, ← hRest, hLeft]

theorem rangesFrom_of_not_guardsFirst {line : Bytes} {more : List Bytes}
    (hLines : ∀ line' ∈ line :: more, 0x0A ∉ line') (hGuard : guardsFirst (line :: more) = false)
    (offset : Nat) :
    rangesFrom offset 0 true (unlines (line :: more)) =
      rangesFrom (offset + line.length + 1) 0 true (unlines more) := by
  have hNone : find? (unlines (line :: more)) = none := by
    cases hFound : find? (unlines (line :: more)) with
    | none => rfl
    | some found =>
        exact absurd (guardsFirst_of_find? (List.cons_ne_nil _ _) hLines hFound) (by simp [hGuard])
  exact rangesFrom_unlines (hLines line List.mem_cons_self) (Nat.zero_le _)
    ((if_pos ⟨rfl, rfl⟩).trans hNone)

theorem rangesFrom_of_guardsFirst {first middle last : Bytes} {more : List Bytes}
    (hLines : ∀ line ∈ first :: middle :: last :: more, 0x0A ∉ line)
    (hGuard : guardsFirst (first :: middle :: last :: more)) (offset : Nat) :
    rangesFrom offset 0 true (unlines (first :: middle :: last :: more)) =
      (offset + first.length + 1, offset + first.length + 1 + (withoutReturn middle).length) ::
        rangesFrom (offset + first.length + 1 + middle.length + 1 + last.length + 1) 0 true
          (unlines more) := by
  obtain ⟨hFirst, hLines⟩ := List.forall_mem_cons.1 hLines
  obtain ⟨hMiddle, hLines⟩ := List.forall_mem_cons.1 hLines
  obtain ⟨hLast, hMore⟩ := List.forall_mem_cons.1 hLines
  obtain ⟨reach, hPos, hReach, hFound⟩ := find?_of_guardsFirst hFirst hMiddle hGuard
  rw [unlines_cons (List.cons_ne_nil _ _), unlines_cons (List.cons_ne_nil _ _)] at hFound ⊢
  cases first with
  | nil => exact absurd hGuard (by simp [guardsFirst, show asksForCpp [] = false by decide])
  | cons b first =>
      rw [List.cons_append] at hFound ⊢
      rw [rangesFrom, if_pos ⟨rfl, rfl⟩, hFound]
      obtain ⟨reach, rfl⟩ := Nat.exists_eq_succ_of_ne_zero (Nat.pos_iff_ne_zero.1 hPos)
      obtain ⟨startsLine, hSkip⟩ := rangesFrom_skip (first ++ 0x0A :: (middle ++ [0x0A]))
        (unlines (last :: more)) (offset + 1) reach (b == 0x0A)
      rw [rangesFrom_unlines hLast hReach (if_neg (by simp))] at hSkip
      have hStop : (b :: first).length + 1 + (middle.length + 1 + (reach + 1)) - 1 =
          (first ++ 0x0A :: (middle ++ [0x0A])).length + (reach + 1) := by
        simp only [List.length_append, List.length_cons, List.length_nil]
        omega
      have hOffset : offset + 1 + (first ++ 0x0A :: (middle ++ [0x0A])).length =
          offset + (b :: first).length + 1 + middle.length + 1 := by
        simp only [List.length_append, List.length_cons, List.length_nil]
        omega
      rw [hOffset] at hSkip
      simp only [List.append_assoc, List.cons_append, List.nil_append] at hSkip
      dsimp only
      rw [hStop, hSkip]
      simp only [Nat.add_assoc]

end LinkageGuard

end FunctionCatalog
