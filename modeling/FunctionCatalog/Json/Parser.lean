import FunctionCatalog.Json.Basic
import FunctionCatalog.Json.Token

/-!
# Reading JSON

The reader takes the tokens one by one and keeps the arrays and objects that are still open, the
innermost first. Each token is looked at once, so nesting of any depth is read, and a text is a
value exactly when the last token closes the outermost one.
-/

namespace FunctionCatalog

namespace Json

/-- An array or object that is still open. What it holds so far is held with the last first. -/
inductive Frame where
  /-- An array. -/
  | array (items : List Json)
  /-- An object, with the key whose value is being read. -/
  | object (members : List (Option String × Json)) (key : Option String)
deriving Repr

/-- What may come next. -/
inductive Expected where
  /-- A value. -/
  | value
  /-- The first item of an array, or its end. -/
  | firstItem
  /-- The first key of an object, or its end. -/
  | firstKey
  /-- A further key of an object. -/
  | key (members : List (Option String × Json))
  /-- The colon after a key. -/
  | colon (members : List (Option String × Json)) (key : Option String)
  /-- What follows a value: a comma or the end of the container, or of the text. -/
  | afterValue (value : Json)
deriving Repr

/-- Where the reader stands. -/
structure ParseState where
  /-- The open containers around what may come next, the innermost first. -/
  frames : List Frame := []
  /-- What may come next. -/
  expected : Expected := .value
deriving Repr

namespace ParseState

/-- The state after the start of a value. -/
def beginValue? (frames : List Frame) : Token → Option ParseState
  | .null => some ⟨frames, .afterValue .null⟩
  | .bool value => some ⟨frames, .afterValue (.bool value)⟩
  | .number literal => some ⟨frames, .afterValue (.number literal)⟩
  | .string text? => some ⟨frames, .afterValue (.string text?)⟩
  | .openArray => some ⟨.array [] :: frames, .firstItem⟩
  | .openObject => some ⟨frames, .firstKey⟩
  | _ => none

/-- The state after one more token. -/
def step? (state : ParseState) (token : Token) : Option ParseState :=
  match state.expected, token, state.frames with
  | .firstItem, .closeArray, .array _ :: frames => some ⟨frames, .afterValue (.array [])⟩
  | .firstItem, token, frames => beginValue? frames token
  | .value, token, frames => beginValue? frames token
  | .firstKey, .closeObject, frames => some ⟨frames, .afterValue (.object [])⟩
  | .firstKey, .string key, frames => some ⟨frames, .colon [] key⟩
  | .key members, .string key, frames => some ⟨frames, .colon members key⟩
  | .colon members key, .colon, frames => some ⟨.object members key :: frames, .value⟩
  | .afterValue value, .comma, .array items :: frames =>
    some ⟨.array (value :: items) :: frames, .value⟩
  | .afterValue value, .closeArray, .array items :: frames =>
    some ⟨frames, .afterValue (.array (value :: items).reverse)⟩
  | .afterValue value, .comma, .object members key :: frames =>
    some ⟨frames, .key ((key, value) :: members)⟩
  | .afterValue value, .closeObject, .object members key :: frames =>
    some ⟨frames, .afterValue (.object ((key, value) :: members).reverse)⟩
  | _, _, _ => none

/-- The value that has been read, if the outermost one is complete. -/
def result? : ParseState → Option Json
  | ⟨[], .afterValue value⟩ => some value
  | _ => none

end ParseState

/-- The value that a text is. -/
def parse? (text : List Char) : Option Json := do
  let tokens ← tokens? text
  let state ← tokens.foldlM ParseState.step? {}
  state.result?

end Json

end FunctionCatalog
