import FunctionCatalog.Proofs.LinkageGuard.Search
import FunctionCatalog.Tree.Node

/-!
# What masking leaves as it is

Masking puts a blank in place of every byte in a masked range, and leaves every other byte.

## Main results

* `LinkageGuard.bounds_of_mem_ranges` — the masked ranges lie in the source.
* `getElem?_maskLinkageGuards` — every byte of a masked source.
-/

namespace FunctionCatalog

namespace LinkageGuard

private theorem length_withoutReturn_le (line : Bytes) :
    (withoutReturn line).length ≤ line.length := by
  rcases withoutReturn_append line with hEnd | hEnd
  · have hLength := congrArg List.length hEnd
    rw [List.length_append, List.length_singleton] at hLength
    omega
  · exact Nat.le_of_eq (congrArg List.length hEnd)

private theorem find?_bounds {source : Bytes} {found : Found} (h : find? source = some found) :
    found.markStart ≤ found.markStop ∧ found.markStop ≤ source.length := by
  obtain ⟨first, middle, front, rest, rfl, -, -, -, -, -, -, rfl⟩ := exists_of_find? h
  have hMiddle := length_withoutReturn_le middle
  simp only [List.length_append, List.length_cons]
  omega

private theorem bounds_of_mem_rangesFrom {bytes : Bytes} {offset skipped : Nat}
    {startsLine : Bool} :
    ∀ range ∈ rangesFrom offset skipped startsLine bytes,
      range.1 ≤ range.2 ∧ range.2 ≤ offset + bytes.length := by
  induction bytes generalizing offset skipped startsLine with
  | nil => simp [rangesFrom]
  | cons b rest ih =>
      have hRest : ∀ skipped startsLine, ∀ range ∈ rangesFrom (offset + 1) skipped startsLine rest,
          range.1 ≤ range.2 ∧ range.2 ≤ offset + (b :: rest).length := by
        intro skipped startsLine range hRange
        have hBounds := ih range hRange
        rw [List.length_cons]
        omega
      rw [rangesFrom]
      split
      · next found hFound =>
          have hFind : find? (b :: rest) = some found := by
            split at hFound
            · exact hFound
            · simp at hFound
          have hBounds := find?_bounds hFind
          exact List.forall_mem_cons.2 ⟨by dsimp only; omega, hRest _ _⟩
      · exact hRest _ _

theorem bounds_of_mem_ranges {source : Bytes} {range : Nat × Nat} (h : range ∈ ranges source) :
    range.1 ≤ range.2 ∧ range.2 ≤ source.length := by
  have hBounds := bounds_of_mem_rangesFrom range h
  omega

end LinkageGuard

namespace Bytes

/-- Whether a range covers an offset. -/
def covers (offset : Nat) (range : Nat × Nat) : Bool :=
  range.1 ≤ offset && offset < range.2

private theorem length_blanked {source : Bytes} {range : Nat × Nat} (hOrder : range.1 ≤ range.2)
    (hStop : range.2 ≤ source.length) : (Bytes.blanked source range).length = source.length := by
  simp only [blanked, List.length_append, List.length_take, List.length_replicate, List.length_drop]
  omega

private theorem getElem?_blanked {source : Bytes} {range : Nat × Nat} (hOrder : range.1 ≤ range.2)
    (hStop : range.2 ≤ source.length) (offset : Nat) :
    (Bytes.blanked source range)[offset]? =
      if covers offset range then some 0x20 else source[offset]? := by
  have hFront : (source.take range.1).length = range.1 := List.length_take_of_le (by omega)
  rw [blanked, List.getElem?_append, List.getElem?_append, List.length_append, hFront,
    List.length_replicate, List.getElem?_take, List.getElem?_replicate, List.getElem?_drop]
  have hCovers : covers offset range ↔ range.1 ≤ offset ∧ offset < range.2 := by simp [covers]
  rcases Nat.lt_or_ge offset range.1 with hBefore | hBehind
  · rw [if_pos (by omega), if_pos hBefore, if_pos hBefore, if_neg (by rw [hCovers]; omega)]
  · rcases Nat.lt_or_ge offset range.2 with hInside | hBeyond
    · rw [if_pos (by omega), if_neg (by omega), if_pos (by omega),
        if_pos (hCovers.2 ⟨hBehind, hInside⟩)]
    · rw [if_neg (by omega), if_neg (by rw [hCovers]; omega)]
      congr 1
      omega

private theorem getElem?_foldl_blanked {ranges : List (Nat × Nat)} {source : Bytes}
    (hRanges : ∀ range ∈ ranges, range.1 ≤ range.2 ∧ range.2 ≤ source.length) (offset : Nat) :
    (ranges.foldl Bytes.blanked source)[offset]? =
      if ranges.any (covers offset) then some 0x20 else source[offset]? := by
  induction ranges generalizing source with
  | nil => rfl
  | cons range rest ih =>
      obtain ⟨⟨hOrder, hStop⟩, hRest⟩ := List.forall_mem_cons.1 hRanges
      rw [List.foldl_cons, ih (by rwa [length_blanked hOrder hStop]),
        getElem?_blanked hOrder hStop, List.any_cons]
      cases covers offset range <;> cases rest.any (covers offset) <;> rfl

end Bytes

/-- A byte of a masked source is a blank in a masked range, and the byte of the source elsewhere. -/
theorem getElem?_maskLinkageGuards (source : Bytes) (offset : Nat) :
    (maskLinkageGuards source)[offset]? =
      if (LinkageGuard.ranges source).any (Bytes.covers offset) then some 0x20
      else source[offset]? :=
  Bytes.getElem?_foldl_blanked (fun _ => LinkageGuard.bounds_of_mem_ranges) offset

end FunctionCatalog
