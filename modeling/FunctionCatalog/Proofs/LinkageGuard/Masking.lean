import FunctionCatalog.Proofs.LinkageGuard.Search
import FunctionCatalog.Tree.Node

/-!
# Masking by lines

The search for guards goes through the bytes of a source and skips what belongs to a guard. By
lines, it is a rule about three of them: a line is masked if it stands in the middle of a guard,
wherever the guards before it begin. This rests on guards having no line in common.

## Main results

* `maskLinkageGuards_eq` — masking is the rule on lines.
* `map_lineEnd?_maskLinkageGuards` — no line end moves.
* `guardsFirst_drop_maskedLines` — masking leaves no guard, and makes none.
* `maskLinkageGuards_by_lines` — all that masking does, and keeps.
-/

namespace FunctionCatalog

namespace LinkageGuard

open Pattern

/-! ## Guards have no line in common -/

private theorem blankLine_eq (line : Bytes) :
    ∃ ending, (ending = [] ∨ ending = [0x0D]) ∧ line = withoutReturn line ++ ending ∧
      blankLine line = List.replicate (withoutReturn line).length 0x20 ++ ending := by
  rcases withoutReturn_append line with hEnd | hEnd
  · refine ⟨[0x0D], .inr rfl, hEnd.symm, ?_⟩
    rw [blankLine]
    congr 1
    exact (congrArg (List.drop _) hEnd).symm.trans List.drop_left
  · exact ⟨[], .inl rfl, by rw [hEnd, List.append_nil], by rw [blankLine, hEnd, List.drop_length]⟩

private theorem length_blankLine (line : Bytes) : (blankLine line).length = line.length := by
  obtain ⟨ending, -, hLine, hBlank⟩ := blankLine_eq line
  rw [hBlank, List.length_append, List.length_replicate, ← List.length_append, ← hLine]

private theorem skipBlanks_replicate (count : Nat) (rest : Bytes) :
    skipBlanks (List.replicate count 0x20 ++ rest) = skipBlanks rest :=
  skipBlanks_append (fun b hMem => by rw [List.eq_of_mem_replicate hMem]; rfl) rest

private theorem skipBlanks_replicate_nil (count : Nat) :
    skipBlanks (List.replicate count 0x20) = [] :=
  (congrArg skipBlanks (List.append_nil _)).symm.trans (skipBlanks_replicate count [])

private theorem skipBlanks_withoutReturn_blankLine (line : Bytes) :
    skipBlanks (withoutReturn (blankLine line)) = [] := by
  obtain ⟨ending, rfl | rfl, -, hBlank⟩ := blankLine_eq line
  · rw [hBlank, List.append_nil, withoutReturn_of_not_mem]
    · exact skipBlanks_replicate_nil _
    · exact fun hMem => absurd (List.eq_of_mem_replicate hMem) (by decide)
  · rw [hBlank, withoutReturn_append_return]
    exact skipBlanks_replicate_nil _

private theorem asksForCpp_blankLine (line : Bytes) : asksForCpp (blankLine line) = false := by
  rw [asksForCpp, afterDirective?, skipBlanks_withoutReturn_blankLine]
  rfl

private theorem marksBlock_blankLine (line : Bytes) : marksBlock (blankLine line) = false := by
  rw [marksBlock, skipBlanks_withoutReturn_blankLine]
  rfl

private theorem endsConditional_blankLine (line : Bytes) :
    endsConditional (blankLine line) = false := by
  obtain ⟨ending, hEnd, -, hBlank⟩ := blankLine_eq line
  rw [endsConditional, afterDirective?, hBlank, skipBlanks_replicate]
  rcases hEnd with rfl | rfl <;> rfl

private theorem maskedLines_cons (line : Bytes) (more : List Bytes) :
    maskedLines (line :: more) = line :: (maskedLines (line :: more)).tail := by
  rw [maskedLines, List.mapIdx_cons, List.tail_cons, maskedLine, if_neg (by simp)]

/-- Whether a line is masked is up to itself and the lines beside it. -/
theorem maskedLines_cons_cons (line next : Bytes) (more : List Bytes) :
    maskedLines (line :: next :: more) =
      line :: (if guardsFirst (line :: next :: more) then blankLine next else next) ::
        (maskedLines (next :: more)).tail := by
  have hRest : (fun number => maskedLine (line :: next :: more) (number + 1 + 1)) =
      fun number => maskedLine (next :: more) (number + 1) := by
    funext number line'
    simp [maskedLine]
  rw [maskedLines, List.mapIdx_cons, List.mapIdx_cons, hRest, maskedLines, List.mapIdx_cons,
    List.tail_cons, maskedLine, if_neg (by simp), maskedLine]
  simp

private theorem maskedLines_of_not_guardsFirst {line : Bytes} {more : List Bytes}
    (hGuard : guardsFirst (line :: more) = false) :
    maskedLines (line :: more) = line :: maskedLines more := by
  cases more with
  | nil => exact maskedLines_cons line []
  | cons next more =>
      rw [maskedLines_cons_cons, hGuard, if_neg Bool.false_ne_true, ← maskedLines_cons]

/-- A line that stands in the middle of a guard begins no other. -/
theorem asksForCpp_of_marksBlock {line : Bytes} (h : marksBlock line) :
    asksForCpp line = false := by
  obtain ⟨rest, hMark, -⟩ := (Option.any_eq_true _ _).1 h
  have hHash : after? "#" (skipBlanks (withoutReturn line)) = none := by
    rw [afterBlockMark?] at hMark
    split at hMark
    · next hClose => exact after?_eq_none rfl rfl (by decide) hClose
    · obtain ⟨_, hExtern, -⟩ := Option.bind_eq_some_iff.1 hMark
      exact after?_eq_none rfl rfl (by decide) hExtern
  rw [asksForCpp, afterDirective?, hHash]
  rfl

/-- A line that stands at the end of a guard begins no other. -/
theorem asksForCpp_of_endsConditional {line : Bytes} (h : endsConditional line) :
    asksForCpp line = false := by
  rw [asksForCpp]
  cases hIf : afterDirective? "if" (withoutReturn line) with
  | none => rfl
  | some rest =>
      obtain ⟨front, hFront, hDirective⟩ := (afterDirective?_eq_some_iff (by rfl) (by rfl)).1 hIf
      obtain ⟨ending, -, hLine, -⟩ := blankLine_eq line
      have hIfLine : afterDirective? "if" line = some (rest ++ ending) :=
        (afterDirective?_eq_some_iff (by rfl) (by rfl)).2
          ⟨front, by rw [hLine, hFront, List.append_assoc], hDirective⟩
      obtain ⟨left, hEndif⟩ := Option.isSome_iff_exists.1 h
      obtain ⟨_, hHash, hIfName⟩ := Option.bind_eq_some_iff.1 hIfLine
      obtain ⟨_, hHash', hEndifName⟩ := Option.bind_eq_some_iff.1 hEndif
      obtain rfl := Option.some.inj (hHash.symm.trans hHash')
      have hNone : after? "endif" _ = none := after?_eq_none rfl rfl (by decide) hIfName
      exact absurd hEndifName (by simp [hNone])

private theorem guardsFirst_of_asksForCpp {line : Bytes} (more : List Bytes)
    (h : asksForCpp line = false) :
    guardsFirst (line :: more) = false := by
  rw [guardsFirst.eq_def]
  split <;> simp_all

private theorem maskedLines_of_guardsFirst {first middle last : Bytes} {more : List Bytes}
    (hGuard : guardsFirst (first :: middle :: last :: more)) :
    maskedLines (first :: middle :: last :: more) =
      first :: blankLine middle :: last :: maskedLines more := by
  rw [maskedLines_cons_cons, if_pos hGuard]
  simp only [guardsFirst, Bool.and_eq_true] at hGuard
  obtain ⟨⟨-, hMarks⟩, hEnds⟩ := hGuard
  have hMiddle := guardsFirst_of_asksForCpp (last :: more) (asksForCpp_of_marksBlock hMarks)
  have hLast := guardsFirst_of_asksForCpp more (asksForCpp_of_endsConditional hEnds)
  rw [maskedLines_of_not_guardsFirst hMiddle, List.tail_cons, maskedLines_of_not_guardsFirst hLast]

/-- Lines are gone through one at a time, and guards as a whole. -/
theorem lines_induction {motive : List Bytes → Prop} (nil : motive [])
    (line : ∀ line more, guardsFirst (line :: more) = false → motive more → motive (line :: more))
    (guard : ∀ first middle last more, guardsFirst (first :: middle :: last :: more) →
      motive more → motive (first :: middle :: last :: more)) :
    ∀ list, motive list
  | [] => nil
  | [first] => line first [] rfl nil
  | [first, middle] => line first [middle] rfl (line middle [] rfl nil)
  | first :: middle :: last :: more =>
    match hGuard : guardsFirst (first :: middle :: last :: more) with
    | true => guard first middle last more hGuard (lines_induction nil line guard more)
    | false =>
      line first (middle :: last :: more) hGuard
        (lines_induction nil line guard (middle :: last :: more))

/-! ## Masking -/

private theorem blanked_append (front line rest : Bytes) :
    Bytes.blanked (front ++ (line ++ rest))
        (front.length, front.length + (withoutReturn line).length) =
      front ++ (blankLine line ++ rest) := by
  obtain ⟨ending, -, hLine, hBlank⟩ := blankLine_eq line
  have hSplit : line ++ rest = withoutReturn line ++ (ending ++ rest) := by
    rw [← List.append_assoc, ← hLine]
  rw [hSplit, hBlank]
  simp [Bytes.blanked]

private theorem maskedLines_eq_nil_iff {list : List Bytes} : maskedLines list = [] ↔ list = [] :=
  List.mapIdx_eq_nil_iff

/-- Filling the ranges behind a line leaves the line. -/
theorem foldl_blanked_line {more : List Bytes}
    (hMore : ∀ front, (rangesFrom front.length 0 true (unlines more)).foldl Bytes.blanked
      (front ++ unlines more) = front ++ unlines (maskedLines more)) (front line : Bytes) :
    (rangesFrom (front.length + line.length + 1) 0 true (unlines more)).foldl Bytes.blanked
      (front ++ unlines (line :: more)) = front ++ unlines (line :: maskedLines more) := by
  cases more with
  | nil => rfl
  | cons next more =>
      have hMasked : maskedLines (next :: more) ≠ [] :=
        mt maskedLines_eq_nil_iff.1 (List.cons_ne_nil _ _)
      have hRest := hMore (front ++ (line ++ [0x0A]))
      rw [List.length_append, List.length_append, List.length_singleton, ← Nat.add_assoc] at hRest
      rw [unlines_cons (List.cons_ne_nil _ _), unlines_cons hMasked]
      simpa only [List.append_assoc, List.singleton_append] using hRest

/-- The ranges of the search, filled with blanks, are the middle lines. -/
theorem foldl_blanked_ranges {list : List Bytes} (hLines : ∀ line ∈ list, 0x0A ∉ line)
    (front : Bytes) :
    (rangesFrom front.length 0 true (unlines list)).foldl Bytes.blanked (front ++ unlines list) =
      front ++ unlines (maskedLines list) := by
  induction list using lines_induction generalizing front with
  | nil => rfl
  | line line more hGuard ih =>
      rw [rangesFrom_of_not_guardsFirst hLines hGuard, maskedLines_of_not_guardsFirst hGuard]
      exact foldl_blanked_line (ih (List.forall_mem_cons.1 hLines).2) front line
  | guard first middle last more hGuard ih =>
      have hMore := ih fun line hMem => hLines line (by simp [hMem])
      rw [rangesFrom_of_guardsFirst hLines hGuard, maskedLines_of_guardsFirst hGuard]
      have hLast :=
        foldl_blanked_line hMore (front ++ (first ++ 0x0A :: (blankLine middle ++ [0x0A]))) last
      have hMiddle :=
        blanked_append (front ++ (first ++ [0x0A])) middle (0x0A :: unlines (last :: more))
      rw [unlines_cons (List.cons_ne_nil _ _), unlines_cons (List.cons_ne_nil _ _), List.foldl_cons]
      rw [unlines_cons (List.cons_ne_nil _ _), unlines_cons (List.cons_ne_nil _ _)]
      have hStart : (front ++ (first ++ [0x0A])).length = front.length + first.length + 1 := by
        simp only [List.length_append, List.length_singleton]
        omega
      have hStop : (front ++ (first ++ 0x0A :: (blankLine middle ++ [0x0A]))).length =
          front.length + first.length + 1 + middle.length + 1 := by
        simp only [List.length_append, List.length_cons, List.length_nil, length_blankLine]
        omega
      rw [hStart] at hMiddle
      rw [hStop] at hLast
      simp only [List.append_assoc, List.cons_append, List.nil_append] at hMiddle hLast
      rw [hMiddle, hLast]

theorem maskLinkageGuards_eq (source : Bytes) :
    maskLinkageGuards source = unlines (maskedLines (lines source)) := by
  have hLines : ∀ line ∈ lines source, 0x0A ∉ line := fun _ => not_mem_of_mem_lines
  have h := foldl_blanked_ranges hLines []
  rwa [unlines_lines] at h

private theorem rangesFrom_eq_nil_iff {list : List Bytes} (hLines : ∀ line ∈ list, 0x0A ∉ line)
    (offset : Nat) :
    rangesFrom offset 0 true (unlines list) = [] ↔
      ∀ number, guardsFirst (list.drop number) = false := by
  induction list using lines_induction generalizing offset with
  | nil => simp [unlines, rangesFrom, guardsFirst]
  | line line more hGuard ih =>
      rw [rangesFrom_of_not_guardsFirst hLines hGuard, ih (List.forall_mem_cons.1 hLines).2]
      exact ⟨fun hRest number => by cases number with
          | zero => exact hGuard
          | succ number => exact hRest number,
        fun hAll number => hAll (number + 1)⟩
  | guard first middle last more hGuard ih =>
      rw [rangesFrom_of_guardsFirst hLines hGuard]
      exact ⟨fun hNil => absurd hNil (List.cons_ne_nil _ _),
        fun hAll => absurd hGuard (by simpa using hAll 0)⟩

private theorem hasLinkageGuard_eq_false_iff {source : Bytes} :
    hasLinkageGuard source = false ↔
      ∀ number, guardsFirst ((lines source).drop number) = false := by
  rw [← rangesFrom_eq_nil_iff (fun _ => not_mem_of_mem_lines) 0, unlines_lines, hasLinkageGuard,
    Bool.not_eq_false', List.isEmpty_iff]
  rfl

/-! ## Line ends stay -/

/-- The kind of line end that a byte is, if it is one. -/
def lineEnd? (b : UInt8) : Option UInt8 :=
  if b = 0x0A ∨ b = 0x0D then some b else none

private theorem lineEnd?_eq_some_iff {b b' : UInt8} :
    lineEnd? b = some b' ↔ b = b' ∧ (b' = 0x0A ∨ b' = 0x0D) := by
  rw [lineEnd?]
  split
  · next hEnd => simp only [Option.some.injEq]; exact ⟨fun h => ⟨h, h ▸ hEnd⟩, fun h => h.1⟩
  · next hNot => exact ⟨fun h => by simp at h, fun h => absurd (h.1 ▸ h.2) hNot⟩

theorem beq_lineEnd? (b : UInt8) : (lineEnd? b == some 0x0A) = (b == 0x0A) := by
  rw [Bool.eq_iff_iff, beq_iff_eq, beq_iff_eq, lineEnd?_eq_some_iff]
  simp

private theorem count_lineFeed (bytes : Bytes) :
    bytes.count 0x0A = (bytes.map lineEnd?).count (some 0x0A) := by
  simp only [List.count, List.countP_map, Function.comp_def, beq_lineEnd?]

private theorem map_unlines (f : UInt8 → Option UInt8) (list : List Bytes) :
    (unlines list).map f = List.intercalate [f 0x0A] (list.map (List.map f)) := by
  induction list with
  | nil => rfl
  | cons line more ih =>
      cases more with
      | nil => simp [unlines_singleton, List.intercalate]
      | cons next more =>
          rw [unlines_cons (List.cons_ne_nil _ _), List.map_append, List.map_cons, ih]
          simp [List.intercalate]

private theorem map_lineEnd?_blankLine {middle : Bytes} (hMiddle : 0x0A ∉ middle)
    (hMarks : marksBlock middle) :
    (blankLine middle).map lineEnd? = middle.map lineEnd? := by
  obtain ⟨ending, -, hLine, hBlank⟩ := blankLine_eq middle
  have hReturn : 0x0D ∉ withoutReturn middle :=
    not_mem_of_rejects (n := 0x0D) (by decide) (by rfl) (describes_marked.2 hMarks)
  have hFeed : 0x0A ∉ withoutReturn middle := fun hMem =>
    hMiddle (hLine ▸ List.mem_append_left ending hMem)
  have hNone : (withoutReturn middle).map lineEnd? =
      List.replicate (withoutReturn middle).length none :=
    List.map_eq_replicate_iff.2 fun b hMem => if_neg fun hEnd => hEnd.elim
      (fun hSame => hFeed (hSame ▸ hMem)) (fun hSame => hReturn (hSame ▸ hMem))
  calc (blankLine middle).map lineEnd?
      = List.replicate (withoutReturn middle).length none ++ ending.map lineEnd? := by
        rw [hBlank, List.map_append, List.map_replicate]
        rfl
    _ = middle.map lineEnd? := by rw [← hNone, ← List.map_append, ← hLine]

private theorem map_lineEnd?_maskedLines {list : List Bytes} (hLines : ∀ line ∈ list, 0x0A ∉ line) :
    (maskedLines list).map (List.map lineEnd?) = list.map (List.map lineEnd?) := by
  induction list using lines_induction with
  | nil => rfl
  | line line more hGuard ih =>
      rw [maskedLines_of_not_guardsFirst hGuard, List.map_cons, List.map_cons,
        ih (List.forall_mem_cons.1 hLines).2]
  | guard first middle last more hGuard ih =>
      have hMarks : marksBlock middle := by
        simp only [guardsFirst, Bool.and_eq_true] at hGuard
        exact hGuard.1.2
      rw [maskedLines_of_guardsFirst hGuard]
      simp only [List.map_cons, ih fun line hMem => hLines line (by simp [hMem]),
        map_lineEnd?_blankLine (hLines middle (by simp)) hMarks]

theorem map_lineEnd?_maskLinkageGuards (source : Bytes) :
    (maskLinkageGuards source).map lineEnd? = source.map lineEnd? := by
  rw [maskLinkageGuards_eq, map_unlines, map_lineEnd?_maskedLines fun _ => not_mem_of_mem_lines,
    ← map_unlines, unlines_lines]

end LinkageGuard

/-- The number of bytes between the start of its line and an offset. -/
def Bytes.column (bytes : Bytes) (offset : Nat) : Nat :=
  ((bytes.take offset).reverse.takeWhile (· != 0x0A)).length

section LineEnds

open LinkageGuard

variable {source masked : Bytes} (hSame : masked.map lineEnd? = source.map lineEnd?)

include hSame

private theorem getElem?_eq_of_lineEnds {b : UInt8} (hEnd : b = 0x0A ∨ b = 0x0D) (offset : Nat) :
    masked[offset]? = some b ↔ source[offset]? = some b := by
  have hKind : ∀ {bytes : Bytes},
      bytes[offset]? = some b ↔ (bytes.map lineEnd?)[offset]? = some (some b) := by
    intro bytes
    simp only [List.getElem?_map, Option.map_eq_some_iff, lineEnd?_eq_some_iff]
    exact ⟨fun h => ⟨b, h, rfl, hEnd⟩, fun ⟨_, h, hByte, _⟩ => hByte ▸ h⟩
  rw [hKind, hKind, hSame]

theorem row_eq_of_lineEnds (offset : Nat) : Bytes.row masked offset = Bytes.row source offset := by
  rw [Bytes.row, Bytes.row, count_lineFeed, count_lineFeed, List.map_take, List.map_take, hSame]

theorem count_slice_eq_of_lineEnds (start stop : Nat) :
    (Bytes.slice masked start stop).count 0x0A = (Bytes.slice source start stop).count 0x0A := by
  rw [Bytes.slice, Bytes.slice, count_lineFeed, count_lineFeed]
  simp only [List.map_take, List.map_drop, hSame]

private theorem column_eq_of_lineEnds (offset : Nat) :
    Bytes.column masked offset = Bytes.column source offset := by
  have hKind : ∀ bytes : Bytes, Bytes.column bytes offset =
      (((bytes.map lineEnd?).take offset).reverse.takeWhile (· != some 0x0A)).length := by
    intro bytes
    simp only [Bytes.column, ← List.map_take, ← List.map_reverse, List.takeWhile_map,
      List.length_map, Function.comp_def, bne, beq_lineEnd?]
  rw [hKind, hKind, hSame]

end LineEnds

/-! ## Masking once is enough -/

namespace LinkageGuard

theorem guardsFirst_drop_iff {list : List Bytes} {number : Nat} :
    guardsFirst (list.drop number) ↔ ∃ first middle last, list[number]? = some first ∧
      list[number + 1]? = some middle ∧ list[number + 2]? = some last ∧
      asksForCpp first ∧ marksBlock middle ∧ endsConditional last := by
  have hItem : ∀ index, list[number + index]? = (list.drop number)[index]? :=
    fun index => List.getElem?_drop.symm
  rw [hItem 1, hItem 2, show list[number]? = (list.drop number)[0]? from hItem 0]
  generalize list.drop number = rest
  match rest with
  | [] | [_] | [_, _] => simp [guardsFirst]
  | first :: middle :: last :: more => simp [guardsFirst, and_assoc]

private theorem getElem?_maskedLines_of_ne {list : List Bytes} {number : Nat} {line : Bytes}
    (h : (maskedLines list)[number]? = some line) (hBlank : ∀ original, line ≠ blankLine original) :
    list[number]? = some line := by
  rw [maskedLines, List.getElem?_mapIdx, Option.map_eq_some_iff] at h
  obtain ⟨original, hOriginal, hLine⟩ := h
  rw [maskedLine] at hLine
  split at hLine
  · exact absurd hLine.symm (hBlank original)
  · exact hLine ▸ hOriginal

/-- Masking leaves no guard, and makes none. -/
theorem guardsFirst_drop_maskedLines (list : List Bytes) (number : Nat) :
    guardsFirst ((maskedLines list).drop number) = false := by
  cases hGuard : guardsFirst ((maskedLines list).drop number) with
  | false => rfl
  | true =>
      obtain ⟨first, middle, last, hFirst, hMiddle, hLast, hAsks, hMarks, hEnds⟩ :=
        guardsFirst_drop_iff.1 hGuard
      have hFirst := getElem?_maskedLines_of_ne hFirst fun original hBlank => by
        simp [hBlank, asksForCpp_blankLine] at hAsks
      have hLast := getElem?_maskedLines_of_ne hLast fun original hBlank => by
        simp [hBlank, endsConditional_blankLine] at hEnds
      have hUnmasked := getElem?_maskedLines_of_ne hMiddle fun original hBlank => by
        simp [hBlank, marksBlock_blankLine] at hMarks
      have hBefore : guardsFirst (list.drop number) :=
        guardsFirst_drop_iff.2 ⟨first, middle, last, hFirst, hUnmasked, hLast, hAsks, hMarks, hEnds⟩
      rw [maskedLines, List.getElem?_mapIdx, hUnmasked, Option.map_some, Option.some.injEq,
        maskedLine, if_pos ⟨Nat.succ_ne_zero _, hBefore⟩] at hMiddle
      rw [← hMiddle, marksBlock_blankLine] at hMarks
      exact absurd hMarks Bool.false_ne_true

private theorem maskedLines_of_unguarded {list : List Bytes}
    (h : ∀ number, guardsFirst (list.drop number) = false) : maskedLines list = list := by
  induction list with
  | nil => rfl
  | cons line more ih =>
      rw [maskedLines_of_not_guardsFirst (h 0), ih fun number => h (number + 1)]

private theorem mem_blankLine {line : Bytes} {b : UInt8} (h : b ∈ blankLine line) :
    b = 0x20 ∨ b = 0x0D := by
  obtain ⟨ending, hEnd, -, hBlank⟩ := blankLine_eq line
  rw [hBlank, List.mem_append] at h
  rcases h with hBlank | hEnding
  · exact .inl (List.eq_of_mem_replicate hBlank)
  · rcases hEnd with rfl | rfl
    · exact absurd hEnding List.not_mem_nil
    · exact .inr (List.mem_singleton.1 hEnding)

private theorem not_mem_of_mem_maskedLines {list : List Bytes} (hLines : ∀ line ∈ list, 0x0A ∉ line)
    {line : Bytes} (h : line ∈ maskedLines list) : 0x0A ∉ line := by
  obtain ⟨number, hNumber, rfl⟩ := List.mem_mapIdx.1 h
  rw [maskedLine]
  split
  · exact fun hMem => absurd (mem_blankLine hMem) (by decide)
  · exact hLines _ (List.getElem_mem hNumber)

theorem lines_maskLinkageGuards (source : Bytes) :
    lines (maskLinkageGuards source) = maskedLines (lines source) := by
  rw [maskLinkageGuards_eq]
  exact lines_unlines (mt maskedLines_eq_nil_iff.1 (lines_ne_nil source))
    fun _ => not_mem_of_mem_maskedLines fun _ => not_mem_of_mem_lines

end LinkageGuard

open LinkageGuard

/-- Masking is a rule about three lines: the lines in the middle of guards are filled with blanks,
all others stay. No line end moves, so every offset keeps its row and its column. A guard is found
exactly where there is one, and none is left. -/
theorem maskLinkageGuards_by_lines (source : Bytes) :
    maskLinkageGuards source = unlines (maskedLines (lines source)) ∧
      (maskLinkageGuards source).length = source.length ∧
      (∀ b, b = 0x0A ∨ b = 0x0D →
        ∀ offset : Nat, (maskLinkageGuards source)[offset]? = some b ↔ source[offset]? = some b) ∧
      (∀ offset, Bytes.row (maskLinkageGuards source) offset = Bytes.row source offset ∧
        Bytes.column (maskLinkageGuards source) offset = Bytes.column source offset) ∧
      (hasLinkageGuard source ↔ ∃ number, guardsFirst ((lines source).drop number)) ∧
      maskLinkageGuards (maskLinkageGuards source) = maskLinkageGuards source ∧
      hasLinkageGuard (maskLinkageGuards source) = false := by
  have hEnds := map_lineEnd?_maskLinkageGuards source
  have hUnguarded : ∀ number,
      guardsFirst ((lines (maskLinkageGuards source)).drop number) = false := by
    rw [lines_maskLinkageGuards]
    exact guardsFirst_drop_maskedLines (lines source)
  refine ⟨maskLinkageGuards_eq source, ?_, fun b hEnd => getElem?_eq_of_lineEnds hEnds hEnd,
    fun offset => ⟨row_eq_of_lineEnds hEnds offset, column_eq_of_lineEnds hEnds offset⟩, ?_, ?_,
    hasLinkageGuard_eq_false_iff.2 hUnguarded⟩
  · simpa using congrArg List.length hEnds
  · rw [← Bool.not_eq_false, hasLinkageGuard_eq_false_iff, not_forall]
    simp only [Bool.not_eq_false]
  · rw [maskLinkageGuards_eq (maskLinkageGuards source), maskedLines_of_unguarded hUnguarded,
      unlines_lines]

end FunctionCatalog
