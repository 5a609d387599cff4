import FunctionCatalog.Toml.Literal
import FunctionCatalog.Toml.Table
import FunctionCatalog.Toml.Text

/-!
# Documents in TOML

A document is a list of lines, each of which is blank, opens a table, or gives a key its value. A
value may go on over further lines where strings and arrays do.
-/

namespace FunctionCatalog

namespace Toml

/-! ## Keys and values -/

/-- The number of arrays and tables that a value may be nested in, and of parts that a key may
have. -/
def maxDepth : Nat := 79

/-- A key. -/
def readKey : Reader Key := do
  let isBare := fun c : Char => c.isAlphanum || c == '_' || c == '-'
  let part := blanks *> (readShortString <|> Reader.run1 isBare) <* blanks
  let parts := (← Reader.separated (Reader.char '.') part).map String.ofList
  match parts.reverse with
  | [] => failure
  | last :: path =>
    if parts.length ≤ maxDepth then return { path := path.reverse, last } else failure

/-- The text of a literal. -/
def literalText : Reader (List Char) :=
  Reader.run1 fun c => c.isAlphanum || c == '_' || c == '+' || c == '-' || c == '.' || c == ':'

/-- A literal. A blank may stand between a date and the time of day. -/
def readLiteral : Reader Setting :=
  (do
    let date ← literalText
    Reader.char ' '
    match literal? (date ++ ' ' :: (← literalText)) with
    | some value => return value
    | none => failure)
  <|> (do
    match literal? (← literalText) with
    | some value => return value
    | none => failure)

/-- A string or literal. -/
def readScalar : Reader Setting :=
  ((fun text => .text (String.ofList text)) <$> readString) <|> readLiteral

/-- An array of items that a reader takes. A comma may follow the last one. -/
def readArray (item : Reader Setting) : Reader Setting := do
  Reader.char '['
  let items? ← Reader.optional? (Reader.separated (Reader.char ',') (filler *> item <* filler))
  if items?.isSome then discard (Reader.optional? (Reader.char ','))
  filler
  Reader.char ']'
  return .list (items?.getD [])

/-- A key with the value that a reader takes. -/
def readPair (value : Reader Setting) : Reader (Key × Setting) := do
  let key ← readKey
  Reader.char '='
  blanks
  return (key, ← value)

/-- A table in braces, of values that a reader takes. -/
def readTable (value : Reader Setting) : Reader Setting := do
  Reader.char '\x7b'
  let pairs? ← Reader.optional? (Reader.separated (Reader.char ',') (readPair value <* blanks))
  blanks
  Reader.char '\x7d'
  match (pairs?.getD []).foldlM (fun members (key, value) => Members.addValue? key value members)
      [] with
  | some members => return .table (settingsOf members)
  | none => failure

/-- A value, with arrays and tables nested up to a depth. -/
def readValue : (depth : Nat) → Reader Setting
  | 0 => readScalar
  | depth + 1 => readScalar <|> readArray (readValue depth) <|> readTable (readValue depth)

/-! ## Lines -/

/-- What a line of a document does. -/
inductive Statement where
  /-- Nothing. -/
  | blank
  /-- Opens a table. -/
  | table (key : Key)
  /-- Opens a further table of a list. -/
  | nextTable (key : Key)
  /-- Gives a key its value. -/
  | pair (key : Key) (value : Setting)

/-- What may stand between a statement and the next line. -/
def lineTail : Reader Unit := do
  blanks
  discard (Reader.optional? comment)
  lineEnd <|> Reader.finish

/-- A line that is not just the end of the text. -/
def readStatement : Reader Statement :=
  blanks *>
    ((lineEnd *> pure .blank)
      <|> (comment *> lineTail *> pure .blank)
      <|> ((.nextTable <$> (Reader.word ['[', '['] *> readKey <* Reader.word [']', ']']))
        <* lineTail)
      <|> ((.table <$> (Reader.char '[' *> readKey <* Reader.char ']')) <* lineTail)
      <|> ((fun (key, value) => .pair key value) <$> (readPair (readValue maxDepth) <* lineTail)))

/-- The lines of a text. A mark of the byte order in front is no part of it. -/
def statements? (text : List Char) : Option (List Statement) :=
  let text :=
    match text with
    | '\ufeff' :: rest => rest
    | _ => text
  (Reader.many readStatement <* blanks).whole? text

/-! ## Documents -/

/-- A document of which some lines have been read. -/
structure State where
  /-- The items of the document. -/
  root : Members := []
  /-- The keys that lead to the table opened last. -/
  current : List String := []

/-- The document after one more line. -/
def State.after? (state : State) : Statement → Option State
  | .blank => some state
  | .table key => do
    some ⟨← Members.within? (Members.open? key.last) key.path state.root, key.path ++ [key.last]⟩
  | .nextTable key => do
    some
      ⟨← Members.within? (Members.openNext? key.last) key.path state.root, key.path ++ [key.last]⟩
  | .pair key value => do
    some { state with
      root := ← Members.within? (Members.addValue? key value) state.current state.root }

/-- The value of a document. -/
def document? (text : List Char) : Option Setting := do
  let state ← (← statements? text).foldlM State.after? {}
  some (.table (settingsOf state.root))

end Toml

end FunctionCatalog
