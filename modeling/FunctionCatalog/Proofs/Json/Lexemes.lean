import FunctionCatalog.Json.Basic
import FunctionCatalog.Json.Token
import FunctionCatalog.Proofs.Text.Characters
import Mathlib.Data.List.Basic

/-!
# Strings are read back

A string in quotes is one token wherever it stands: each character is read back from its escape, and
the first quote without a backslash is the one at the end. Brackets and separators are tokens by
themselves. So texts that are put together from these are read piece by piece (`Lexes`). No
character of an encoded string is a control character, so nothing in it ends a line.

## Main results

* `lexes_quote` — a string in quotes is the token of its text.
* `isPrinted_quote` — it has no control characters.
-/

namespace FunctionCatalog

namespace Json

/-! ## Characters of a string -/

/-- Whether a character is written by its number. -/
def isNumbered (c : Char) : Bool :=
  c.toNat < 0x20 && !(c == '\x08' || c == '\x0c' || c == '\n' || c == '\r' || c == '\t')

/-- What is read of a character as it stands inside a string. -/
def Piece.ofChar (c : Char) : Piece :=
  if isNumbered c then .unit c.toNat else .char c

/-- The forms that a character can have inside a string. -/
private inductive EncodesAs (c : Char) : List Char → Prop
  /-- By its number. -/
  | numbered (hNumbered : isNumbered c = true) (hControl : c.toNat < 0x20) :
    EncodesAs c ['\\', 'u', '0', '0', hexDigit (c.toNat / 16), hexDigit (c.toNat % 16)]
  /-- By a letter. -/
  | lettered {letter : Char} (hNumbered : isNumbered c = false) (hUnit : letter ≠ 'u')
    (hLetter : unescape? letter = some c) (hPrinted : 0x20 ≤ letter.toNat) :
    EncodesAs c ['\\', letter]
  /-- As it is. -/
  | itself (hNumbered : isNumbered c = false) (hQuote : c ≠ '\"') (hSlash : c ≠ '\\')
    (hPrinted : 0x20 ≤ c.toNat) : EncodesAs c [c]

private theorem encodesAs_encodeChar (c : Char) : EncodesAs c (encodeChar c) := by
  unfold encodeChar
  split_ifs with hQuote hSlash hBack hFeed hLine hReturn hTab hControl
  · subst hQuote
    exact .lettered rfl (by decide) rfl (by decide)
  · subst hSlash
    exact .lettered rfl (by decide) rfl (by decide)
  · subst hBack
    exact .lettered rfl (by decide) rfl (by decide)
  · subst hFeed
    exact .lettered rfl (by decide) rfl (by decide)
  · subst hLine
    exact .lettered rfl (by decide) rfl (by decide)
  · subst hReturn
    exact .lettered rfl (by decide) rfl (by decide)
  · subst hTab
    exact .lettered rfl (by decide) rfl (by decide)
  · exact .numbered (by simp [isNumbered, hBack, hFeed, hLine, hReturn, hTab, hControl]) hControl
  · exact .itself (by simp [isNumbered, hControl]) hQuote hSlash (Nat.le_of_not_lt hControl)

/-- One character inside a string is read off its front. -/
theorem tokensFrom?_encodeChar (seen : List Piece) (c : Char) (rest : List Char) :
    tokensFrom? (.string seen) (encodeChar c ++ rest) =
      tokensFrom? (.string (.ofChar c :: seen)) rest := by
  have hEncodes := encodesAs_encodeChar c
  generalize encodeChar c = code at hEncodes ⊢
  cases hEncodes with
  | numbered hNumbered hControl =>
      have hHigh : hexValue? (hexDigit (c.toNat / 16)) = some (c.toNat / 16) :=
        hexValue?_hexDigit (by omega)
      have hLow : hexValue? (hexDigit (c.toNat % 16)) = some (c.toNat % 16) :=
        hexValue?_hexDigit (by omega)
      have hZero : hexValue? '0' = some 0 := by decide
      have hValue : 16 * (c.toNat / 16) + c.toNat % 16 = c.toNat := Nat.div_add_mod c.toNat 16
      simp [tokensFrom?, LexState.step?, hZero, hHigh, hLow, hValue, Piece.ofChar, hNumbered]
  | lettered hNumbered hUnit hLetter hPrinted =>
      simp [tokensFrom?, LexState.step?, hUnit, hLetter, Piece.ofChar, hNumbered]
  | itself hNumbered hQuote hSlash hPrinted =>
      have hNotControl : ¬ c.toNat < 0x20 := Nat.not_lt.2 hPrinted
      simp [tokensFrom?, LexState.step?, hQuote, hSlash, hNotControl, Piece.ofChar, hNumbered]

/-- The characters of a string are read up to the quote at its end. -/
theorem tokensFrom?_flatMap_encodeChar (seen : List Piece) (text rest : List Char) :
    tokensFrom? (.string seen) (text.flatMap encodeChar ++ '\"' :: rest) =
      tokensFrom? (.string ((text.map Piece.ofChar).reverse ++ seen)) ('\"' :: rest) := by
  induction text generalizing seen with
  | nil => rfl
  | cons c text ih =>
      rw [List.flatMap_cons, List.append_assoc, tokensFrom?_encodeChar, ih]
      simp

/-- A unit that is no half of a surrogate pair stands for a character of its own. -/
theorem textOfPieces?_unit {value : Nat} (hValue : value < 0xD800) (rest : List Piece) :
    textOfPieces? (.unit value :: rest) = (textOfPieces? rest).map (Char.ofNat value :: ·) := by
  have hHigh : ¬ (0xD800 ≤ value ∧ value < 0xDC00) := by omega
  have hLow : ¬ (0xDC00 ≤ value ∧ value < 0xE000) := by omega
  have hHalf : ¬ (0xD800 ≤ value ∧ value < 0xE000) := by omega
  cases rest with
  | nil => simp [textOfPieces?, hHalf]
  | cons piece rest =>
      cases piece with
      | char c => simp [textOfPieces?, hHalf]
      | unit next => rw [textOfPieces?, if_neg hHigh, if_neg hLow]

/-- What is read of the characters of a text is the text. -/
theorem textOfPieces?_map_ofChar (text : List Char) :
    textOfPieces? (text.map Piece.ofChar) = some text := by
  induction text with
  | nil => rfl
  | cons c text ih =>
      rw [List.map_cons, Piece.ofChar]
      split
      · next hNumbered =>
          have hControl : c.toNat < 0x20 := by
            rw [isNumbered, Bool.and_eq_true, decide_eq_true_eq] at hNumbered
            exact hNumbered.1
          rw [textOfPieces?_unit (by omega), ih, Char.ofNat_toNat]
          rfl
      · rw [textOfPieces?, ih]
        rfl

/-! ## Texts that are read piece by piece -/

/-- A text that is read as these tokens, whatever comes behind it. -/
def Lexes (text : List Char) (tokens : List Token) : Prop :=
  ∀ rest, tokensFrom? .idle (text ++ rest) = (tokensFrom? .idle rest).map (tokens ++ ·)

theorem Lexes.append {front back : List Char} {tokens more : List Token}
    (hFront : Lexes front tokens) (hBack : Lexes back more) :
    Lexes (front ++ back) (tokens ++ more) := by
  intro rest
  rw [List.append_assoc, hFront, hBack, Option.map_map]
  simp only [Function.comp_def, List.append_assoc]

/-- A string in quotes is the token of its text. -/
theorem lexes_quote (text : String) : Lexes (quote text) [.string (some text)] := by
  intro rest
  have hStart : tokensFrom? .idle (quote text ++ rest) =
      tokensFrom? (.string []) (text.toList.flatMap encodeChar ++ '\"' :: rest) := by
    rw [quote]
    simp [tokensFrom?, LexState.step?, LexState.start?]
  rw [hStart, tokensFrom?_flatMap_encodeChar]
  cases hRest : tokensFrom? .idle rest <;>
    simp [tokensFrom?, LexState.step?, textOfPieces?_map_ofChar, hRest]

/-- A bracket or a separator is a token. -/
theorem lexes_mark {c : Char} {token : Token}
    (hMark : LexState.start? c = some ([token], .idle)) : Lexes [c] [token] := by
  intro rest
  rw [List.singleton_append, tokensFrom?, LexState.step?, hMark]
  cases hRest : tokensFrom? .idle rest <;> simp [hRest]

/-- Pieces with commas between them. -/
theorem lexes_intercalate_comma {α : Type} {text : α → List Char} {tokens : α → List Token}
    (hPiece : ∀ a, Lexes (text a) (tokens a)) (first : α) (others : List α) :
    Lexes ([','].intercalate ((first :: others).map text))
      (tokens first ++ others.flatMap fun a => .comma :: tokens a) := by
  induction others generalizing first with
  | nil => simpa using hPiece first
  | cons next others ih =>
      have hComma : Lexes [','] [.comma] := lexes_mark (by decide)
      have hAll := ((hPiece first).append hComma).append (ih next)
      simpa [List.intercalate_cons_cons] using hAll

/-- A text is read as the tokens that it lexes to. -/
theorem Lexes.tokens?_eq {text : List Char} {tokens : List Token} (hLexes : Lexes text tokens) :
    tokens? text = some tokens := by
  have hEnd := hLexes []
  rw [List.append_nil] at hEnd
  rw [tokens?, hEnd]
  simp [tokensFrom?]

/-! ## No control characters -/

/-- A text without control characters, so without line ends. -/
def IsPrinted (text : List Char) : Prop :=
  ∀ c ∈ text, 0x20 ≤ c.toNat

theorem IsPrinted.append {front back : List Char} (hFront : IsPrinted front)
    (hBack : IsPrinted back) : IsPrinted (front ++ back) := by
  intro c hMem
  rcases List.mem_append.1 hMem with hMem | hMem
  · exact hFront c hMem
  · exact hBack c hMem

theorem isPrinted_singleton {c : Char} (hChar : 0x20 ≤ c.toNat) : IsPrinted [c] := by
  intro other hMem
  rw [List.mem_singleton] at hMem
  rwa [hMem]

private theorem le_toNat_hexDigit : ∀ n < 16, 0x20 ≤ (hexDigit n).toNat := by
  decide

private theorem isPrinted_encodeChar (c : Char) : IsPrinted (encodeChar c) := by
  have hEncodes := encodesAs_encodeChar c
  generalize encodeChar c = code at hEncodes ⊢
  cases hEncodes with
  | numbered hNumbered hControl =>
      have hHigh := le_toNat_hexDigit (c.toNat / 16) (by omega)
      have hLow := le_toNat_hexDigit (c.toNat % 16) (by omega)
      simp [IsPrinted, hHigh, hLow]
  | lettered hNumbered hUnit hLetter hPrinted => simp [IsPrinted, hPrinted]
  | itself hNumbered hQuote hSlash hPrinted => exact isPrinted_singleton hPrinted

theorem isPrinted_quote (text : String) : IsPrinted (quote text) := by
  have hQuote : IsPrinted ['\"'] := isPrinted_singleton (by decide)
  have hText : IsPrinted (text.toList.flatMap encodeChar) := by
    intro c hMem
    obtain ⟨other, -, hMem⟩ := List.mem_flatMap.1 hMem
    exact isPrinted_encodeChar other c hMem
  exact (hQuote.append hText).append hQuote

theorem isPrinted_intercalate_comma {texts : List (List Char)}
    (hTexts : ∀ text ∈ texts, IsPrinted text) : IsPrinted ([','].intercalate texts) := by
  intro c hMem
  rcases mem_of_mem_intercalate hMem with hComma | ⟨text, hText, hMem⟩
  · exact isPrinted_singleton (by decide) c hComma
  · exact hTexts text hText c hMem

end Json

end FunctionCatalog
