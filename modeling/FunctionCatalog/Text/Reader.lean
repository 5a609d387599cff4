/-!
# Readers

A reader takes something off the front of a text, or fails and takes nothing. Where two readers are
tried in turn, the second one starts where the first one did.
-/

namespace FunctionCatalog

/-- A reader of values of a type. -/
abbrev Reader := StateT (List Char) Option

namespace Reader

/-- One character of a class. -/
def one (accept : Char → Bool) : Reader Char
  | [] => none
  | c :: rest => if accept c then some (c, rest) else none

/-- A fixed character. -/
def char (c : Char) : Reader Unit := do
  discard (one (· == c))

/-- A fixed text. -/
def word (text : List Char) : Reader Unit :=
  text.forM char

/-- The longest run of characters of a class, which may be empty. -/
def run (accept : Char → Bool) : Reader (List Char) := fun input =>
  some (input.takeWhile accept, input.dropWhile accept)

/-- The end of the text. -/
def finish : Reader Unit
  | [] => some ((), [])
  | _ => none

/-- Nothing, if a reader would fail. -/
def absent {α : Type} (reader : Reader α) : Reader Unit := fun input =>
  match reader input with
  | none => some ((), input)
  | some _ => none

/-- The longest run of characters of a class, which may not be empty. -/
def run1 (accept : Char → Bool) : Reader (List Char) := do
  return (← one accept) :: (← run accept)

/-- As many as possible, and at most as many as a text has characters. -/
def upTo {α : Type} (bound : List Char) (reader : Reader α) : Reader (List α) := fun input =>
  match bound with
  | [] => some ([], input)
  | _ :: bound =>
    match reader input with
    | none => some ([], input)
    | some (first, rest) => (upTo bound reader rest).map fun (more, rest) => (first :: more, rest)

/-- As many as possible. The reader has to take at least one character each time, so there are at
most as many as there are characters. -/
def many {α : Type} (reader : Reader α) : Reader (List α) := fun input =>
  upTo input reader input

/-- At least one, with a separator between two. -/
def separated {α : Type} (separator : Reader Unit) (reader : Reader α) : Reader (List α) := do
  let first ← reader
  let more ← many (separator *> reader)
  return first :: more

/-- One, if there is one. -/
def optional? {α : Type} (reader : Reader α) : Reader (Option α) :=
  (some <$> reader) <|> pure none

/-- The value that a text is as a whole. -/
def whole? {α : Type} (reader : Reader α) (text : List Char) : Option α :=
  (reader <* finish).run' text

end Reader

end FunctionCatalog
