import FunctionCatalog.Text.Utf8
import Mathlib.Algebra.Group.Nat.Defs
import Mathlib.Data.List.Basic

/-!
# ASCII in texts

A character beyond ASCII takes bytes beyond ASCII only, so a byte below 0x80 stands for a character
of its own wherever it is found in a text.

## Main results

* `Utf8.mem_iff_of_decode` — an ASCII byte is in a text if and only if its character is.
* `Utf8.eq_map_of_decode` — a text of ASCII characters has a byte for each of them.
* `Utf8.decodeFrom_append_eq_none` — what is no text stays none in front of an ASCII byte.
-/

namespace FunctionCatalog

namespace Utf8

/-! ## Characters of several bytes -/

theorem toNat_ofNat_of_valid {n : Nat} (h : n.isValidChar) : (Char.ofNat n).toNat = n := by
  rw [Char.ofNat, dif_pos h]
  rfl

private theorem toNat_ofNat_of_ascii {n : Nat} (h : n < 0x80) : (Char.ofNat n).toNat = n :=
  toNat_ofNat_of_valid (.inl (by omega))

/-- Between characters is where a reader stands after a character. -/
theorem Position.step?_some {position after : Position} {b : UInt8} {c : Char}
    (h : position.step? b = some (some c, after)) : after = .boundary := by
  cases position with
  | boundary =>
      rw [step?] at h
      split at h <;> simp_all
  | inside low high owed value =>
      rw [step?] at h
      split at h
      · cases owed <;> simp_all
      · simp at h

/-- Inside a character is where a reader stands while it owes one. -/
theorem Position.step?_none {position after : Position} {b : UInt8}
    (h : position.step? b = some (none, after)) : after ≠ .boundary := by
  rintro rfl
  cases position with
  | boundary =>
      rw [step?, afterLead?] at h
      split at h
      · simp at h
      · revert h
        repeat' split
        all_goals simp
  | inside low high owed value =>
      rw [step?] at h
      split at h
      · cases owed <;> simp at h
      · simp at h

/-- Whether only characters beyond ASCII can be completed from a position. The values that are
possible lie above ASCII, off the surrogates and below the end of Unicode. -/
def Position.IsWide : Position → Prop
  | .boundary => True
  | .inside low high owed value =>
    0x80 ≤ low.toNat ∧ high.toNat ≤ 0xBF ∧ 0x80 ≤ (64 * value + (low.toNat - 0x80)) * 64 ^ owed ∧
      ((64 * value + (high.toNat - 0x80) + 1) * 64 ^ owed ≤ 0xD800 ∨
        0xE000 ≤ (64 * value + (low.toNat - 0x80)) * 64 ^ owed ∧
          (64 * value + (high.toNat - 0x80) + 1) * 64 ^ owed ≤ 0x110000)

theorem Position.isWide_boundary : Position.boundary.IsWide :=
  trivial

private theorem Position.isWide_of_afterLead? {b : UInt8} {position : Position}
    (h : Position.afterLead? b = some position) : 0x80 ≤ b.toNat ∧ position.IsWide := by
  unfold afterLead? at h
  simp only [UInt8.le_iff_toNat_le, ← UInt8.toNat_inj] at h
  repeat' split at h
  all_goals
    simp only [Option.some.injEq, reduceCtorEq] at h
  all_goals
    subst h
    simp [IsWide] at *
    omega

/-- A byte inside a character lies beyond ASCII, and so does the character that it completes. -/
theorem Position.isWide_step?_inside {low high : UInt8} {owed value : Nat} {b : UInt8}
    {found : Option Char} {after : Position} (hWide : (Position.inside low high owed value).IsWide)
    (h : Position.step? (.inside low high owed value) b = some (found, after)) :
    0x80 ≤ b.toNat ∧ after.IsWide ∧ ∀ c ∈ found, 0x80 ≤ c.toNat := by
  obtain ⟨hLow, hHigh, hLeast, hRange⟩ := hWide
  rw [step?] at h
  split at h
  · next hByte =>
      obtain ⟨hLowByte, hHighByte⟩ := hByte
      rw [UInt8.le_iff_toNat_le] at hLowByte hHighByte
      cases owed with
      | zero =>
          obtain ⟨rfl, rfl⟩ := Prod.mk.inj (Option.some.inj h)
          simp only [Nat.pow_zero, Nat.mul_one] at hLeast hRange
          refine ⟨by omega, trivial, fun c hFound => ?_⟩
          obtain rfl := Option.some.inj hFound
          rw [toNat_ofNat_of_valid (by rw [Nat.isValidChar]; omega)]
          omega
      | succ owed =>
          obtain ⟨rfl, rfl⟩ := Prod.mk.inj (Option.some.inj h)
          refine ⟨by omega, ?_, by simp⟩
          have hBelow : (64 * value + (low.toNat - 0x80)) * 64 ^ (owed + 1) ≤
              (64 * (64 * value + (b.toNat - 0x80))) * 64 ^ owed := by
            rw [Nat.pow_succ', ← Nat.mul_assoc]
            exact Nat.mul_le_mul_right _ (by omega)
          have hAbove : (64 * (64 * value + (b.toNat - 0x80)) + 63 + 1) * 64 ^ owed ≤
              (64 * value + (high.toNat - 0x80) + 1) * 64 ^ (owed + 1) := by
            rw [Nat.pow_succ', ← Nat.mul_assoc]
            exact Nat.mul_le_mul_right _ (by omega)
          have hLowest : (0x80 : UInt8).toNat - 0x80 = 0 := rfl
          have hHighest : (0xBF : UInt8).toNat - 0x80 = 63 := rfl
          rw [IsWide, hLowest, hHighest, Nat.add_zero]
          refine ⟨by decide, by decide, Nat.le_trans hLeast hBelow, ?_⟩
          exact hRange.imp (Nat.le_trans hAbove) fun ⟨hAboveSurrogates, hInside⟩ =>
            ⟨Nat.le_trans hAboveSurrogates hBelow, Nat.le_trans hAbove hInside⟩
  · simp at h

/-- A byte of ASCII stands for a character of its own, and any other byte adds to a character beyond
ASCII. -/
theorem Position.step?_ascii_or_wide {position after : Position} {b : UInt8} {found : Option Char}
    (hWide : position.IsWide) (h : position.step? b = some (found, after)) :
    after.IsWide ∧
      (b.toNat < 0x80 ∧ found = some (Char.ofNat b.toNat) ∨
        0x80 ≤ b.toNat ∧ ∀ c ∈ found, 0x80 ≤ c.toNat) := by
  cases position with
  | boundary =>
      rw [step?] at h
      split at h
      · next hByte =>
          obtain ⟨rfl, rfl⟩ := Prod.mk.inj (Option.some.inj h)
          exact ⟨trivial, .inl ⟨UInt8.lt_iff_toNat_lt.1 hByte, rfl⟩⟩
      · obtain ⟨inside, hLead, hInside⟩ := Option.map_eq_some_iff.1 h
        obtain ⟨rfl, rfl⟩ := Prod.mk.inj hInside
        obtain ⟨hByte, hAfter⟩ := isWide_of_afterLead? hLead
        exact ⟨hAfter, .inr ⟨hByte, by simp⟩⟩
  | inside low high owed value =>
      obtain ⟨hByte, hAfter, hFound⟩ := isWide_step?_inside hWide h
      exact ⟨hAfter, .inr ⟨hByte, hFound⟩⟩

/-! ## Bytes and characters -/

private theorem ofNat_eq_iff_of_ascii {n : Nat} (hAscii : n < 0x80) {b : UInt8} :
    UInt8.ofNat n = b ↔ n = b.toNat := by
  rw [← UInt8.toNat_inj, UInt8.toNat_ofNat']
  omega

private theorem mem_iff_of_decodeFrom {position : Position} {bytes : Bytes} {chars : List Char}
    (hWide : position.IsWide) (h : decodeFrom position bytes = some chars) {n : Nat}
    (hAscii : n < 0x80) : UInt8.ofNat n ∈ bytes ↔ Char.ofNat n ∈ chars := by
  induction bytes generalizing position chars with
  | nil => cases position <;> simp_all [decodeFrom]
  | cons b rest ih =>
      rw [decodeFrom] at h
      split at h
      · simp at h
      · next after hStep =>
          obtain ⟨hAfter, ⟨-, hFound⟩ | ⟨hByte, -⟩⟩ := Position.step?_ascii_or_wide hWide hStep
          · simp at hFound
          · rw [List.mem_cons, ih hAfter h, ofNat_eq_iff_of_ascii hAscii]
            exact or_iff_right (by omega)
      · next c after hStep =>
          obtain ⟨tail, hTail, rfl⟩ := Option.map_eq_some_iff.1 h
          obtain ⟨hAfter, hCase⟩ := Position.step?_ascii_or_wide hWide hStep
          rw [List.mem_cons, List.mem_cons, ih hAfter hTail, ofNat_eq_iff_of_ascii hAscii]
          refine or_congr_left ?_
          rcases hCase with ⟨hByte, hFound⟩ | ⟨hByte, hFound⟩
          · obtain rfl := Option.some.inj hFound
            refine ⟨fun hSame => hSame ▸ rfl, fun hSame => ?_⟩
            rw [← toNat_ofNat_of_ascii hAscii, hSame, toNat_ofNat_of_ascii hByte]
          · have hChar : 0x80 ≤ c.toNat := hFound c rfl
            refine iff_of_false (by omega) fun hSame => ?_
            rw [← hSame, toNat_ofNat_of_ascii hAscii] at hChar
            omega

/-- An ASCII byte is in a text if and only if its character is. -/
theorem mem_iff_of_decode {bytes : Bytes} {chars : List Char} (h : decode bytes = some chars)
    {n : Nat} (hAscii : n < 0x80) : UInt8.ofNat n ∈ bytes ↔ Char.ofNat n ∈ chars :=
  mem_iff_of_decodeFrom Position.isWide_boundary h hAscii

/-- Whoever stands inside a character reads one beyond ASCII. -/
theorem exists_wide_of_decodeFrom {position : Position} {bytes : Bytes} {chars : List Char}
    (hWide : position.IsWide) (hInside : position ≠ .boundary)
    (h : decodeFrom position bytes = some chars) : ∃ c ∈ chars, 0x80 ≤ c.toNat := by
  induction bytes generalizing position chars with
  | nil => cases position <;> simp_all [decodeFrom]
  | cons b rest ih =>
      cases position with
      | boundary => exact absurd rfl hInside
      | inside low high owed value =>
          rw [decodeFrom] at h
          split at h
          · simp at h
          · next after hStep =>
              exact ih (Position.isWide_step?_inside hWide hStep).2.1 (Position.step?_none hStep) h
          · next c after hStep =>
              obtain ⟨tail, hTail, rfl⟩ := Option.map_eq_some_iff.1 h
              exact ⟨c, List.mem_cons_self, (Position.isWide_step?_inside hWide hStep).2.2 c rfl⟩

/-- A text of ASCII characters has a byte for each of them. -/
theorem eq_map_of_decode {bytes : Bytes} {chars : List Char} (h : decode bytes = some chars)
    (hAscii : ∀ c ∈ chars, c.toNat < 0x80) : bytes = chars.map fun c => UInt8.ofNat c.toNat := by
  induction bytes generalizing chars with
  | nil =>
      obtain rfl : chars = [] := by simpa [decode, decodeFrom, eq_comm] using h
      rfl
  | cons b rest ih =>
      rw [decode, decodeFrom] at h
      split at h
      · simp at h
      · next after hStep =>
          have hAfter := (Position.step?_ascii_or_wide Position.isWide_boundary hStep).1
          obtain ⟨c, hChar, hWide⟩ :=
            exists_wide_of_decodeFrom hAfter (Position.step?_none hStep) h
          have := hAscii c hChar
          omega
      · next c after hStep =>
          obtain ⟨tail, hTail, rfl⟩ := Option.map_eq_some_iff.1 h
          obtain rfl := Position.step?_some hStep
          obtain ⟨hChar, hChars⟩ := List.forall_mem_cons.1 hAscii
          rw [List.map_cons, ← ih hTail hChars]
          obtain ⟨hByte, hFound⟩ | ⟨-, hFound⟩ :=
            (Position.step?_ascii_or_wide Position.isWide_boundary hStep).2
          · obtain rfl := Option.some.inj hFound
            rw [toNat_ofNat_of_ascii hByte, UInt8.ofNat_toNat]
          · have := hFound c rfl
            omega

/-- ASCII bytes are read one by one. -/
theorem decode_of_ascii {bytes : Bytes} (hAscii : ∀ b ∈ bytes, b < 0x80) :
    decode bytes = some (bytes.map fun b => Char.ofNat b.toNat) := by
  induction bytes with
  | nil => rfl
  | cons b rest ih =>
      obtain ⟨hByte, hRest⟩ := List.forall_mem_cons.1 hAscii
      rw [decode, decodeFrom, Position.step?, if_pos hByte]
      simp only [List.map_cons]
      rw [← decode, ih hRest, Option.map_some]

/-- What is no text stays none in front of an ASCII byte. -/
theorem decodeFrom_append_eq_none {position : Position} {front : Bytes}
    (hWide : position.IsWide) (h : decodeFrom position front = none) {b : UInt8}
    (hByte : b < 0x80) (back : Bytes) : decodeFrom position (front ++ b :: back) = none := by
  induction front generalizing position with
  | nil =>
      cases position with
      | boundary => simp [decodeFrom] at h
      | inside low high owed value =>
          rw [List.nil_append, decodeFrom]
          cases hStep : Position.step? (.inside low high owed value) b with
          | none => rfl
          | some result =>
              have hBeyond := (Position.isWide_step?_inside hWide hStep).1
              rw [UInt8.lt_iff_toNat_lt] at hByte
              exact absurd hBeyond (Nat.not_le.2 hByte)
  | cons first rest ih =>
      rw [List.cons_append]
      rw [decodeFrom] at h ⊢
      split at h
      · rfl
      · next after hStep => exact ih (Position.step?_ascii_or_wide hWide hStep).1 h
      · next c after hStep =>
          rw [Option.map_eq_none_iff] at h ⊢
          exact ih (Position.step?_ascii_or_wide hWide hStep).1 h

end Utf8

end FunctionCatalog
