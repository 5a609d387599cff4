import FunctionCatalog.Text.Basic
import FunctionCatalog.Text.Reader

/-!
# Texts of TOML

Blanks, line ends and comments, and the four ways in which a string is written: with escapes in
double quotes or without any in single ones, on one line in one quote on each side or on any number
of lines in three. A line end inside a string is one line feed, whichever way it is written.
-/

namespace FunctionCatalog

namespace Toml

/-- Whether a character may stand in a string or a comment. Of the control characters of ASCII, only
the tab may. -/
def isPlain (c : Char) : Bool :=
  c == '\t' || (0x20 ≤ c.toNat && c != '\x7f')

/-- Whether a character is a blank. -/
def isBlank (c : Char) : Bool :=
  c == ' ' || c == '\t'

/-- Blanks, if there are any. -/
def blanks : Reader Unit :=
  discard (Reader.run isBlank)

/-- A line end. -/
def lineEnd : Reader Unit :=
  Reader.char '\n' <|> Reader.word ['\r', '\n']

/-- A comment, up to the end of its line. -/
def comment : Reader Unit := do
  Reader.char '#'
  discard (Reader.run isPlain)

/-- Blanks, line ends and comments, if there are any. -/
def filler : Reader Unit :=
  discard (Reader.many (discard (Reader.one isBlank) <|> lineEnd <|> (comment *> lineEnd)))

/-! ## Strings -/

/-- A character by its number, in `width` hexadecimal digits. -/
def characterByNumber (width : Nat) : Reader Char := do
  let digits ← (List.replicate width ()).mapM fun _ => Reader.one fun c => (hexValue? c).isSome
  let value := digits.foldl (fun value c => 16 * value + (hexValue? c).getD 0) 0
  if value.isValidChar then return Char.ofNat value else failure

/-- A character after a backslash. -/
def escape : Reader Char := do
  Reader.char '\\'
  match ← Reader.one fun _ => true with
  | 'b' => return '\x08'
  | 't' => return '\t'
  | 'n' => return '\n'
  | 'f' => return '\x0c'
  | 'r' => return '\r'
  | '\"' => return '\"'
  | '\\' => return '\\'
  | 'u' => characterByNumber 4
  | 'U' => characterByNumber 8
  | _ => failure

/-- A character that stands for itself in double quotes. -/
def basicCharacter : Reader Char :=
  Reader.one fun c => isPlain c && c != '\"' && c != '\\'

/-- A character that stands for itself in single quotes. -/
def literalCharacter : Reader Char :=
  Reader.one fun c => isPlain c && c != '\''

/-- A string on one line. -/
def shortString (quote : Char) (character : Reader Char) : Reader (List Char) := do
  Reader.char quote
  let text ← Reader.many character
  Reader.char quote
  return text

/-- A backslash at the end of a line, with all blanks and line ends after it. -/
def joinedLines : Reader Unit := do
  Reader.char '\\'
  blanks
  lineEnd
  discard (Reader.many (discard (Reader.one isBlank) <|> lineEnd))

/-- A string on any number of lines, in three quotes on each side. A line end right after the first
three is no part of it. One or two quotes may stand anywhere inside, also right before the last
three. -/
def longString (quote : Char) (piece : Reader (List Char)) : Reader (List Char) := do
  let quotes := [quote, quote, quote]
  Reader.word quotes
  discard (Reader.optional? lineEnd)
  let pieces ← Reader.many (
    piece
      <|> (lineEnd *> pure ['\n'])
      <|> (Reader.absent (Reader.word quotes) *> Reader.char quote *> pure [quote]))
  Reader.word quotes
  let more ← Reader.run (· == quote)
  if more.length ≤ 2 then return pieces.flatten ++ more else failure

/-- A string on one line, in either kind of quotes. -/
def readShortString : Reader (List Char) :=
  shortString '\"' (basicCharacter <|> escape) <|> shortString '\'' literalCharacter

/-- A string. -/
def readString : Reader (List Char) :=
  longString '\"' ((([·]) <$> basicCharacter) <|> (joinedLines *> pure []) <|> (([·]) <$> escape))
    <|> longString '\'' (([·]) <$> literalCharacter)
    <|> readShortString

end Toml

end FunctionCatalog
