import FunctionCatalog.Text.Utf8
import Mathlib.Data.List.Basic

/-!
# Texts as bytes

The bytes of a text are read as that text again: `Utf8.decode` knows the first byte of a character
by its range and takes six bits from each byte after it. Bytes below 0x80 stand for themselves only,
so a line end among the bytes of a text is a line end of the text.

## Main results

* `Utf8.decode_encode` — the bytes of a text are read as that text.
* `Utf8.ofNat_mem_of_mem_encode` — an ASCII byte is among the bytes of a text only where its
  character is in the text.
-/

namespace FunctionCatalog

namespace Utf8

/-! ## Bytes of a text -/

private theorem byteArray_toList_loop (bytes : ByteArray) (i : Nat) (seen : List UInt8) :
    ByteArray.toList.loop bytes i seen = seen.reverse ++ bytes.data.toList.drop i := by
  fun_induction ByteArray.toList.loop bytes i seen with
  | case1 i seen hMore ih =>
      have hLt : i < bytes.data.toList.length := by simpa using hMore
      rw [ih, List.drop_eq_getElem_cons hLt]
      simp [ByteArray.get!, hMore]
  | case2 i seen hEnd =>
      have hLe : bytes.data.toList.length ≤ i := by simpa using hEnd
      rw [List.drop_eq_nil_of_le hLe, List.append_nil]

/-- A text is encoded character by character. -/
theorem encode_eq_flatMap (text : String) :
    encode text = text.toList.flatMap String.utf8EncodeChar := by
  rw [encode, String.toUTF8, ← String.utf8Encode_toList, ByteArray.toList, byteArray_toList_loop,
    List.utf8Encode, List.toList_data_toByteArray]
  rfl

/-! ## Reading one character -/

section Character

/-- The byte in front of one further byte holds five bits. -/
theorem afterLead?_two : ∀ bits < 32, 2 ≤ bits →
    Position.afterLead? (UInt8.ofNat (bits + 192)) = some (.inside 0x80 0xBF 0 bits) := by
  decide

/-- The byte in front of two further bytes holds four bits. Some values of the next byte are ruled
out by it. -/
theorem afterLead?_three : ∀ bits < 16,
    Position.afterLead? (UInt8.ofNat (bits + 224)) =
      some (.inside (if bits = 0 then 0xA0 else 0x80) (if bits = 13 then 0x9F else 0xBF) 1
        bits) := by
  decide

/-- The byte in front of three further bytes holds three bits. -/
theorem afterLead?_four : ∀ bits < 5,
    Position.afterLead? (UInt8.ofNat (bits + 240)) =
      some (.inside (if bits = 0 then 0x90 else 0x80) (if bits = 4 then 0x8F else 0xBF) 2
        bits) := by
  decide

/-- A further byte of a character adds six bits, and the last one completes it. -/
theorem step?_inside {low high : UInt8} {owed value bits : Nat} (hBits : bits < 64)
    (hLow : low.toNat ≤ bits + 128) (hHigh : bits + 128 ≤ high.toNat) :
    Position.step? (.inside low high owed value) (UInt8.ofNat (bits + 128)) =
      match owed with
      | 0 => some (some (Char.ofNat (64 * value + bits)), .boundary)
      | owed + 1 => some (none, .inside 0x80 0xBF owed (64 * value + bits)) := by
  have hByte : (UInt8.ofNat (bits + 128)).toNat = bits + 128 := by
    rw [UInt8.toNat_ofNat']
    omega
  have hRange : low ≤ UInt8.ofNat (bits + 128) ∧ UInt8.ofNat (bits + 128) ≤ high := by
    rw [UInt8.le_iff_toNat_le, UInt8.le_iff_toNat_le, hByte]
    exact ⟨hLow, hHigh⟩
  rw [Position.step?, if_pos hRange, hByte]
  cases owed <;> simp

private theorem decodeFrom_last {low high : UInt8} {value bits : Nat} (hBits : bits < 64)
    (hLow : low.toNat ≤ bits + 128) (hHigh : bits + 128 ≤ high.toNat) :
    decodeFrom (.inside low high 0 value) [UInt8.ofNat (bits + 128)] =
      some [Char.ofNat (64 * value + bits)] := by
  rw [decodeFrom, step?_inside hBits hLow hHigh]
  rfl

private theorem decodeFrom_middle {low high : UInt8} {value bits owed : Nat} {rest : Bytes}
    (hBits : bits < 64) (hLow : low.toNat ≤ bits + 128) (hHigh : bits + 128 ≤ high.toNat) :
    decodeFrom (.inside low high (owed + 1) value) (UInt8.ofNat (bits + 128) :: rest) =
      decodeFrom (.inside 0x80 0xBF owed (64 * value + bits)) rest := by
  rw [decodeFrom, step?_inside hBits hLow hHigh]

/-- A character of several bytes is read from the position after its first one. -/
theorem decode_lead {lead : UInt8} {position : Position} (rest : Bytes) (hLead : ¬ lead < 0x80)
    (hAfter : Position.afterLead? lead = some position) :
    decode (lead :: rest) = decodeFrom position rest := by
  simp [decode, decodeFrom, Position.step?, hLead, hAfter]

private theorem not_lt_of_le_toNat {lead : UInt8} (hLead : 128 ≤ lead.toNat) : ¬ lead < 0x80 := by
  rw [UInt8.lt_iff_toNat_lt]
  exact Nat.not_lt.2 hLead

/-- The bytes of a character are read as that character. -/
theorem decode_utf8EncodeChar (c : Char) : decode (String.utf8EncodeChar c) = some [c] := by
  have hChar : Char.ofNat c.val.toNat = c := Char.ofNat_toNat c
  have hValid : c.val.toNat < 0xD800 ∨ 0xDFFF < c.val.toNat ∧ c.val.toNat < 0x110000 := c.valid
  unfold String.utf8EncodeChar
  generalize c.val.toNat = n at hChar hValid ⊢
  have hLow : n % 64 < 64 := Nat.mod_lt _ (by decide)
  have hMiddle : n / 64 % 64 < 64 := Nat.mod_lt _ (by decide)
  have hHigh : n / 4096 % 64 < 64 := Nat.mod_lt _ (by decide)
  dsimp only
  split
  · next hOne =>
      have hByte : (UInt8.ofNat n).toNat = n := by
        rw [UInt8.toNat_ofNat']
        omega
      have hLt : UInt8.ofNat n < 0x80 := by
        rw [UInt8.lt_iff_toNat_lt, hByte]
        exact Nat.lt_succ_of_le hOne
      simp [decode, decodeFrom, Position.step?, hLt, hByte, hChar]
  · split
    · next hOne hTwo =>
        have hLead := afterLead?_two (n / 64 % 32) (by omega) (by omega)
        rw [decode_lead _ (not_lt_of_le_toNat (by rw [UInt8.toNat_ofNat']; omega)) hLead,
          decodeFrom_last hLow (by change 128 ≤ _; omega) (by change _ ≤ 191; omega)]
        have hValue : 64 * (n / 64 % 32) + n % 64 = n := by omega
        rw [hValue, hChar]
    · split
      · next hOne hTwo hThree =>
          have hLead := afterLead?_three (n / 4096 % 16) (by omega)
          have hSecondLow : (if n / 4096 % 16 = 0 then 0xA0 else 0x80 : UInt8).toNat ≤
              n / 64 % 64 + 128 := by
            split
            · change 160 ≤ _; omega
            · change 128 ≤ _; omega
          have hSecondHigh : n / 64 % 64 + 128 ≤
              (if n / 4096 % 16 = 13 then 0x9F else 0xBF : UInt8).toNat := by
            split
            · change _ ≤ 159; omega
            · change _ ≤ 191; omega
          rw [decode_lead _ (not_lt_of_le_toNat (by rw [UInt8.toNat_ofNat']; omega)) hLead,
            decodeFrom_middle hMiddle hSecondLow hSecondHigh,
            decodeFrom_last hLow (by change 128 ≤ _; omega) (by change _ ≤ 191; omega)]
          have hValue : 64 * (64 * (n / 4096 % 16) + n / 64 % 64) + n % 64 = n := by omega
          rw [hValue, hChar]
      · next hOne hTwo hThree =>
          have hLead := afterLead?_four (n / 262144 % 8) (by omega)
          have hSecondLow : (if n / 262144 % 8 = 0 then 0x90 else 0x80 : UInt8).toNat ≤
              n / 4096 % 64 + 128 := by
            split
            · change 144 ≤ _; omega
            · change 128 ≤ _; omega
          have hSecondHigh : n / 4096 % 64 + 128 ≤
              (if n / 262144 % 8 = 4 then 0x8F else 0xBF : UInt8).toNat := by
            split
            · change _ ≤ 143; omega
            · change _ ≤ 191; omega
          rw [decode_lead _ (not_lt_of_le_toNat (by rw [UInt8.toNat_ofNat']; omega)) hLead,
            decodeFrom_middle hHigh hSecondLow hSecondHigh,
            decodeFrom_middle hMiddle (by change 128 ≤ _; omega) (by change _ ≤ 191; omega),
            decodeFrom_last hLow (by change 128 ≤ _; omega) (by change _ ≤ 191; omega)]
          have hValue : 64 * (64 * (64 * (n / 262144 % 8) + n / 4096 % 64) + n / 64 % 64) + n % 64
              = n := by
            omega
          rw [hValue, hChar]

end Character

/-! ## Reading a text -/

/-- The bytes of a text are read as that text. -/
theorem decode_encode (text : String) : decode (encode text) = some text.toList := by
  rw [encode_eq_flatMap]
  induction text.toList with
  | nil => rfl
  | cons c rest ih =>
      rw [List.flatMap_cons, decode_append (decode_utf8EncodeChar c), ih]
      rfl

theorem text?_encode (text : String) : text? (encode text) = some text := by
  rw [text?, decode_encode, Option.map_some, String.ofList_toList]

/-- Different texts have different bytes. -/
theorem encode_injective : Function.Injective encode := by
  intro text text' hSame
  have hText := congrArg text? hSame
  rw [text?_encode, text?_encode] at hText
  exact Option.some.inj hText

/-- A byte below 0x80 is all of the character that it is part of. -/
theorem eq_ofNat_of_mem_utf8EncodeChar {b : UInt8} (hAscii : b < 0x80) {c : Char}
    (hMem : b ∈ String.utf8EncodeChar c) : c = Char.ofNat b.toNat := by
  have hLt : b.toNat < 128 := UInt8.lt_iff_toNat_lt.1 hAscii
  have hOther : ∀ n, 128 ≤ n → n < 256 → b ≠ UInt8.ofNat n := by
    rintro n hLow hHigh rfl
    rw [UInt8.toNat_ofNat'] at hLt
    omega
  unfold String.utf8EncodeChar at hMem
  dsimp only at hMem
  split at hMem
  · next hOne =>
      rw [List.mem_singleton] at hMem
      rw [hMem, UInt8.toNat_ofNat', Nat.mod_eq_of_lt (by omega)]
      exact (Char.ofNat_toNat c).symm
  · split at hMem
    · simp only [List.mem_cons, List.not_mem_nil, or_false] at hMem
      rcases hMem with hMem | hMem <;> exact absurd hMem (hOther _ (by omega) (by omega))
    · split at hMem
      · simp only [List.mem_cons, List.not_mem_nil, or_false] at hMem
        rcases hMem with hMem | hMem | hMem <;>
          exact absurd hMem (hOther _ (by omega) (by omega))
      · simp only [List.mem_cons, List.not_mem_nil, or_false] at hMem
        rcases hMem with hMem | hMem | hMem | hMem <;>
          exact absurd hMem (hOther _ (by omega) (by omega))

/-- An ASCII byte is among the bytes of a text only where its character is in the text. -/
theorem ofNat_mem_of_mem_encode {b : UInt8} (hAscii : b < 0x80) {text : String}
    (hMem : b ∈ encode text) : Char.ofNat b.toNat ∈ text.toList := by
  rw [encode_eq_flatMap, List.mem_flatMap] at hMem
  obtain ⟨c, hChar, hByte⟩ := hMem
  rwa [← eq_ofNat_of_mem_utf8EncodeChar hAscii hByte]

end Utf8

end FunctionCatalog
