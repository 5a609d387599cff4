import FunctionCatalog.Text.Basic

/-!
# Tokens of JSON

The lexical level of JSON: brackets, separators, words, numbers and strings, with white space
between them. The reader takes one character at a time and keeps what it has seen of a token that
may still go on, so it needs no look-ahead: a number or word ends at the first character that cannot
belong to it, and that character is then read on its own.
-/

namespace FunctionCatalog

namespace Json

/-- One element of a string: a character, or a 16-bit unit written as an escape. -/
inductive Piece where
  /-- A character. -/
  | char (c : Char)
  /-- A 16-bit unit. -/
  | unit (value : Nat)
deriving DecidableEq, Repr

/-- The text of a string, unless one of its units is half of a surrogate pair without the other. -/
def textOfPieces? : List Piece → Option (List Char)
  | [] => some []
  | .char c :: rest => (textOfPieces? rest).map (c :: ·)
  | .unit high :: .unit low :: rest =>
    if 0xD800 ≤ high ∧ high < 0xDC00 then
      if 0xDC00 ≤ low ∧ low < 0xE000 then
        (textOfPieces? rest).map
          (Char.ofNat (0x10000 + (high - 0xD800) * 0x400 + (low - 0xDC00)) :: ·)
      else none
    else if 0xDC00 ≤ high ∧ high < 0xE000 then none
    else (textOfPieces? (.unit low :: rest)).map (Char.ofNat high :: ·)
  | .unit value :: rest =>
    if 0xD800 ≤ value ∧ value < 0xE000 then none
    else (textOfPieces? rest).map (Char.ofNat value :: ·)

/-- A token. -/
inductive Token where
  /-- An opening bracket. -/
  | openArray
  /-- A closing bracket. -/
  | closeArray
  /-- An opening brace. -/
  | openObject
  /-- A closing brace. -/
  | closeObject
  /-- A colon. -/
  | colon
  /-- A comma. -/
  | comma
  /-- The word `null`. -/
  | null
  /-- The word `true` or `false`. -/
  | bool (value : Bool)
  /-- A number, as it is written. -/
  | number (literal : String)
  /-- A string, if it is text. -/
  | string (text? : Option String)
deriving DecidableEq, Repr

/-- Whether digits are a whole number without needless zeros in front. -/
def isWhole (digits : List Char) : Bool :=
  !digits.isEmpty && digits.all Char.isDigit && (digits.head? != some '0' || digits.length == 1)

/-- Whether characters are at least one digit, and digits only. -/
def areDigits (digits : List Char) : Bool :=
  !digits.isEmpty && digits.all Char.isDigit

/-- Whether characters are an exponent's sign and digits. -/
def isExponent : List Char → Bool
  | '+' :: digits | '-' :: digits | digits => areDigits digits

/-- Whether what follows the whole part of a number is a fraction, an exponent, or both. -/
def isNumberTail : List Char → Bool
  | [] => true
  | '.' :: rest =>
    areDigits (rest.takeWhile Char.isDigit) &&
      match rest.dropWhile Char.isDigit with
      | [] => true
      | c :: exponent => (c == 'e' || c == 'E') && isExponent exponent
  | c :: exponent => (c == 'e' || c == 'E') && isExponent exponent

/-- Whether a literal is a number. -/
def isNumber (literal : List Char) : Bool :=
  let unsigned :=
    match literal with
    | '-' :: rest => rest
    | rest => rest
  isWhole (unsigned.takeWhile Char.isDigit) && isNumberTail (unsigned.dropWhile Char.isDigit)

/-- Whether a character may occur in a number or a word. -/
def isLiteralChar (c : Char) : Bool :=
  c.isAlphanum || c == '+' || c == '-' || c == '.'

/-- The token that a number or a word is. -/
def literalToken? (literal : List Char) : Option Token :=
  match literal with
  | ['n', 'u', 'l', 'l'] => some .null
  | ['t', 'r', 'u', 'e'] => some (.bool true)
  | ['f', 'a', 'l', 's', 'e'] => some (.bool false)
  | _ => if isNumber literal then some (.number (String.ofList literal)) else none

/-- The character that an escape letter stands for. -/
def unescape? (c : Char) : Option Char :=
  match c with
  | '\"' => some '\"'
  | '\\' => some '\\'
  | '/' => some '/'
  | 'b' => some '\x08'
  | 'f' => some '\x0c'
  | 'n' => some '\n'
  | 'r' => some '\r'
  | 't' => some '\t'
  | _ => none

/-- Where the reader stands. What has been read of a string is held with the last piece first, and
so is what has been read of a literal. -/
inductive LexState where
  /-- Between two tokens. -/
  | idle
  /-- In a number or a word. -/
  | literal (seen : List Char)
  /-- In a string. -/
  | string (seen : List Piece)
  /-- After a backslash in a string. -/
  | escape (seen : List Piece)
  /-- In the digits of an escape, `owed` more of which have to come. -/
  | unit (seen : List Piece) (owed value : Nat)
deriving DecidableEq, Repr

/-- What one character does between two tokens. -/
def LexState.start? (c : Char) : Option (List Token × LexState) :=
  if c = ' ' ∨ c = '\t' ∨ c = '\n' ∨ c = '\r' then some ([], .idle)
  else if c = '\"' then some ([], .string [])
  else if c = '[' then some ([.openArray], .idle)
  else if c = ']' then some ([.closeArray], .idle)
  else if c = '\x7b' then some ([.openObject], .idle)
  else if c = '\x7d' then some ([.closeObject], .idle)
  else if c = ':' then some ([.colon], .idle)
  else if c = ',' then some ([.comma], .idle)
  else if isLiteralChar c then some ([], .literal [c])
  else none

/-- What one character does: the tokens that it completes and the state after it. -/
def LexState.step? : LexState → Char → Option (List Token × LexState)
  | .idle, c => start? c
  | .literal seen, c =>
    if isLiteralChar c then some ([], .literal (c :: seen))
    else do
      let token ← literalToken? seen.reverse
      let (tokens, state) ← start? c
      some (token :: tokens, state)
  | .string seen, c =>
    if c = '\"' then
      some ([.string ((textOfPieces? seen.reverse).map String.ofList)], .idle)
    else if c = '\\' then some ([], .escape seen)
    else if c.toNat < 0x20 then none
    else some ([], .string (.char c :: seen))
  | .escape seen, c =>
    if c = 'u' then some ([], .unit seen 3 0)
    else (unescape? c).map fun c => ([], .string (.char c :: seen))
  | .unit seen owed value, c => do
    let value := 16 * value + (← hexValue? c)
    match owed with
    | 0 => some ([], .string (.unit value :: seen))
    | owed + 1 => some ([], .unit seen owed value)

/-- The tokens of the characters that follow a state. -/
def tokensFrom? : LexState → List Char → Option (List Token)
  | .idle, [] => some []
  | .literal seen, [] => (literalToken? seen.reverse).map ([·])
  | _, [] => none
  | state, c :: rest => do
    let (tokens, state) ← state.step? c
    let more ← tokensFrom? state rest
    some (tokens ++ more)

/-- The tokens of a text. -/
def tokens? (text : List Char) : Option (List Token) :=
  tokensFrom? .idle text

end Json

end FunctionCatalog
