/-!
# UTF-8

Source files are byte sequences, and only parts of them have to be text. `Utf8.decode` reads a
byte sequence as text, one byte at a time: between two bytes the reader stands either between
characters or inside one, and then knows which bytes may come next. That form makes decoding
follow concatenation (`decode_append`), which is what lets a run of comments be read member by
member.

Overlong forms, surrogates and values above U+10FFFF are refused by the range that the second
byte has to lie in.
-/

namespace FunctionCatalog

/-- The bytes of a file or of a part of it. -/
abbrev Bytes := List UInt8

namespace Utf8

/-- Where a reader stands between two bytes. -/
inductive Position where
  /-- Between two characters. -/
  | boundary
  /-- Inside a character whose next byte lies between `low` and `high`, with `owed` more bytes
  after that one; `value` holds the bits read so far. -/
  | inside (low high : UInt8) (owed value : Nat)
deriving DecidableEq, Repr

/-- The position after the first byte of a character that takes several bytes. -/
def Position.afterLead? (b : UInt8) : Option Position :=
  if 0xC2 ≤ b ∧ b ≤ 0xDF then some (.inside 0x80 0xBF 0 (b.toNat - 0xC0))
  else if b = 0xE0 then some (.inside 0xA0 0xBF 1 0)
  else if b = 0xED then some (.inside 0x80 0x9F 1 0xD)
  else if 0xE1 ≤ b ∧ b ≤ 0xEF then some (.inside 0x80 0xBF 1 (b.toNat - 0xE0))
  else if b = 0xF0 then some (.inside 0x90 0xBF 2 0)
  else if 0xF1 ≤ b ∧ b ≤ 0xF3 then some (.inside 0x80 0xBF 2 (b.toNat - 0xF0))
  else if b = 0xF4 then some (.inside 0x80 0x8F 2 4)
  else none

/-- One byte: the character that it completes, if it does, and the position after it; `none`
where no character continues with this byte. -/
def Position.step? : Position → UInt8 → Option (Option Char × Position)
  | .boundary, b =>
    if b < 0x80 then some (some (Char.ofNat b.toNat), .boundary)
    else (afterLead? b).map (none, ·)
  | .inside low high owed value, b =>
    if low ≤ b ∧ b ≤ high then
      let value := 64 * value + (b.toNat - 0x80)
      match owed with
      | 0 => some (some (Char.ofNat value), .boundary)
      | owed + 1 => some (none, .inside 0x80 0xBF owed value)
    else none

/-- The characters of a byte sequence read from a position, which has to end between characters. -/
def decodeFrom : Position → Bytes → Option (List Char)
  | .boundary, [] => some []
  | .inside .., [] => none
  | position, b :: rest =>
    match position.step? b with
    | none => none
    | some (none, next) => decodeFrom next rest
    | some (some c, next) => (decodeFrom next rest).map (c :: ·)

/-- The characters of a byte sequence, if it is well-formed UTF-8. -/
def decode (bytes : Bytes) : Option (List Char) :=
  decodeFrom .boundary bytes

/-- The text of a byte sequence, if it is well-formed UTF-8. -/
def text? (bytes : Bytes) : Option String :=
  (decode bytes).map String.ofList

/-- The bytes of a text. -/
def encode (text : String) : Bytes :=
  text.toUTF8.toList

/-- Decoding a concatenation is decoding the two parts, when the first part is text by itself. -/
theorem decodeFrom_append {position : Position} {front back : Bytes} {chars : List Char}
    (h : decodeFrom position front = some chars) :
    decodeFrom position (front ++ back) = (decode back).map (chars ++ ·) := by
  induction front generalizing position chars with
  | nil =>
    cases position with
    | boundary =>
      simp only [decodeFrom, Option.some.injEq] at h
      subst h
      simp [decode]
    | inside low high owed value => simp [decodeFrom] at h
  | cons b rest ih =>
    simp only [List.cons_append, decodeFrom] at h ⊢
    cases hstep : position.step? b with
    | none => simp [hstep] at h
    | some result =>
      obtain ⟨_ | c, next⟩ := result
      · simp only [hstep] at h ⊢
        exact ih h
      · simp only [hstep] at h ⊢
        obtain ⟨tail, htail, rfl⟩ := Option.map_eq_some_iff.1 h
        rw [ih htail]
        cases decode back <;> rfl

theorem decode_append {front back : Bytes} {chars : List Char} (h : decode front = some chars) :
    decode (front ++ back) = (decode back).map (chars ++ ·) :=
  decodeFrom_append h

end Utf8

end FunctionCatalog
