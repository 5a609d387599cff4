import FunctionCatalog.Json.Basic
import FunctionCatalog.Json.Parser
import FunctionCatalog.Record.Basic

/-!
# Output formats

The two ways in which records are written, one record a line: fields between delimiters, and JSON.
-/

namespace FunctionCatalog

/-! ## Records as JSON

A record is an object with the keys `name`, `signature` and `comment_tokens`, written in this order
and without blanks. The reader takes the keys in any order and passes over other keys; a key of
the three that is missing or repeated is an error. It also takes an array of the three values. -/

namespace FunctionRecord

/-- Texts as an array of strings. -/
def encodeTexts (texts : List String) : List Char :=
  '[' :: [','].intercalate (texts.map Json.quote) ++ [']']

/-- The JSON of a record, on one line. -/
def json (record : FunctionRecord) : String :=
  String.ofList
    ('\x7b' :: Json.quote "name" ++ ':' :: Json.quote record.name
      ++ ',' :: Json.quote "signature" ++ ':' :: encodeTexts record.signature
      ++ ',' :: Json.quote "comment_tokens" ++ ':' :: encodeTexts record.commentTokens ++ ['\x7d'])

/-- The fields of a record that have been read so far. -/
structure Fields where
  /-- The name. -/
  name? : Option String := none
  /-- The types. -/
  signature? : Option (List String) := none
  /-- The tokens. -/
  commentTokens? : Option (List String) := none

namespace Fields

/-- Takes in one member of an object. -/
def add? (fields : Fields) : Option String × Json → Option Fields
  | (none, _) => none
  | (some "name", value) =>
    if fields.name?.isSome then none
    else value.text?.map fun name => { fields with name? := some name }
  | (some "signature", value) =>
    if fields.signature?.isSome then none
    else value.texts?.map fun types => { fields with signature? := some types }
  | (some "comment_tokens", value) =>
    if fields.commentTokens?.isSome then none
    else value.texts?.map fun tokens => { fields with commentTokens? := some tokens }
  | (some _, _) => some fields

/-- The record of three fields. -/
def record? (fields : Fields) : Option FunctionRecord := do
  some ⟨← fields.name?, ← fields.signature?, ← fields.commentTokens?⟩

end Fields

/-- The record that a JSON value is. -/
def ofJson? : Json → Option FunctionRecord
  | .object members => (members.foldlM Fields.add? {}).bind (·.record?)
  | .array [name, signature, tokens] => do
    some ⟨← name.text?, ← signature.texts?, ← tokens.texts?⟩
  | _ => none

/-- The record that a text is the JSON of. -/
def ofText? (text : String) : Option FunctionRecord :=
  (Json.parse? text.toList).bind ofJson?

end FunctionRecord

/-! ## Formats -/

/-- How records are written. -/
inductive RecordFormat where
  /-- Fields between delimiters. -/
  | lines
  /-- JSON objects. -/
  | jsonl
deriving DecidableEq, Repr

/-- A record in a format, without the line end. -/
def RecordFormat.encode (format : RecordFormat) (record : FunctionRecord) : String :=
  match format with
  | lines => record.line
  | jsonl => record.json

end FunctionCatalog
