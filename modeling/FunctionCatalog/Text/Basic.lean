/-!
# Characters and texts

Sets of characters, the runs that a text is made of, white space and the words between it, and
hexadecimal digits.
-/

namespace FunctionCatalog

/-! ## Sets of code points

A property of characters is given by closed ranges of code points, in ascending order. The
tables of the property modules are lists of such ranges. -/

/-- A set of code points, as closed ranges. -/
abbrev CodePoints := List (Nat × Nat)

namespace CodePoints

/-- Whether a character lies in one of the ranges. -/
def contains (ranges : CodePoints) (c : Char) : Bool :=
  ranges.any fun range => range.1 ≤ c.toNat && c.toNat ≤ range.2

theorem contains_iff {ranges : CodePoints} {c : Char} :
    contains ranges c = true ↔ ∃ range ∈ ranges, range.1 ≤ c.toNat ∧ c.toNat ≤ range.2 := by
  simp [contains]

/-- Sets whose ranges do not overlap have no character in common. -/
theorem contains_eq_false_of_apart {ranges others : CodePoints}
    (hApart : ∀ range ∈ ranges, ∀ other ∈ others, range.2 < other.1 ∨ other.2 < range.1) {c : Char}
    (hMem : contains ranges c = true) : contains others c = false := by
  rw [Bool.eq_false_iff]
  intro hOther
  obtain ⟨range, hRange, hLow, hHigh⟩ := contains_iff.1 hMem
  obtain ⟨other, hOthers, hOtherLow, hOtherHigh⟩ := contains_iff.1 hOther
  have := hApart range hRange other hOthers
  omega

end CodePoints

/-! ## Maximal runs

`runs keep text` lists the maximal runs of characters with `keep`, in order. The words of a text
are its runs of characters other than white space, and the tokens of a comment are its runs of
ASCII letters and digits. -/

/-- The runs of a text that is read after the characters `run` of an unfinished run. -/
def runsFrom (keep : Char → Bool) (run : List Char) : List Char → List (List Char)
  | [] => if run.isEmpty then [] else [run]
  | c :: rest =>
    if keep c then runsFrom keep (run ++ [c]) rest
    else if run.isEmpty then runsFrom keep [] rest
    else run :: runsFrom keep [] rest

/-- The maximal runs of characters with `keep`, in order. -/
def runs (keep : Char → Bool) (text : List Char) : List (List Char) :=
  runsFrom keep [] text

/-! ## White space, words and trimming

White space is the Unicode property White_Space. `words` cuts a text at every run of it, so
leading and trailing white space leaves no empty word behind. -/

/-- The code points with the Unicode property White_Space. -/
def whiteSpace : CodePoints :=
  [(0x09, 0x0D), (0x20, 0x20), (0x85, 0x85), (0xA0, 0xA0), (0x1680, 0x1680), (0x2000, 0x200A),
   (0x2028, 0x2029), (0x202F, 0x202F), (0x205F, 0x205F), (0x3000, 0x3000)]

/-- Whether a character is white space. -/
def isWhiteSpace (c : Char) : Bool :=
  whiteSpace.contains c

/-- The words of a text: its maximal runs of characters that are not white space. -/
def words (text : String) : List String :=
  (runs (!isWhiteSpace ·) text.toList).map String.ofList

/-- A text without the white space at its start. -/
def trimStart (text : List Char) : List Char :=
  text.dropWhile isWhiteSpace

/-- A text without the white space at its ends. -/
def trim (text : List Char) : List Char :=
  ((trimStart text).reverse.dropWhile isWhiteSpace).reverse

/-! ## Hexadecimal digits -/

/-- The digit of a number below sixteen. -/
def hexDigit (n : Nat) : Char :=
  if n < 10 then Char.ofNat (48 + n) else Char.ofNat (87 + n)

/-- The value of a hexadecimal digit. -/
def hexValue? (c : Char) : Option Nat :=
  if '0' ≤ c ∧ c ≤ '9' then some (c.toNat - '0'.toNat)
  else if 'a' ≤ c ∧ c ≤ 'f' then some (c.toNat - 'a'.toNat + 10)
  else if 'A' ≤ c ∧ c ≤ 'F' then some (c.toNat - 'A'.toNat + 10)
  else none

/-- A digit reads back as its number. -/
theorem hexValue?_hexDigit {n : Nat} (h : n < 16) : hexValue? (hexDigit n) = some n := by
  revert n
  decide

end FunctionCatalog
