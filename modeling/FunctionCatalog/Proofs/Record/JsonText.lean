import FunctionCatalog.Proofs.Json.Lexemes
import FunctionCatalog.Record.Format

/-!
# Records are read back from JSON

The JSON of a record is put together from strings, brackets and separators, so its tokens are known;
and the reader, which keeps open containers in a list, closes with the value of the outermost one
whatever else is open around it (`Json.Reads`). What is read is the record that was written, for
names, types and tokens of any characters.

## Main results

* `FunctionRecord.ofText?_json` — the JSON of a record is read as that record.
* `FunctionRecord.isPrinted_json` — it has no control characters, so it stands on one line.
-/

namespace FunctionCatalog

namespace Json

/-! ## Values from tokens -/

/-- Tokens that are read as this value, whatever containers are open around it. -/
def Reads (tokens : List Token) (value : Json) : Prop :=
  ∀ frames, tokens.foldlM ParseState.step? ⟨frames, .value⟩ = some ⟨frames, .afterValue value⟩

private theorem reads_string (text : String) : Reads [.string (some text)] (.string (some text)) :=
  fun _ => rfl

/-- The tokens of an array of strings behind its first item. -/
def itemTokens (others : List String) : List Token :=
  (others.flatMap fun text => [.comma, .string (some text)]) ++ [.closeArray]

/-- The tokens of an array of strings. -/
def textTokens : List String → List Token
  | [] => [.openArray, .closeArray]
  | first :: others => .openArray :: .string (some first) :: itemTokens others

/-- An array of strings as a JSON value. -/
def ofTexts (texts : List String) : Json :=
  .array (texts.map fun text => .string (some text))

/-- Behind an item, the others are read up to the end of the array. -/
theorem foldlM_itemTokens (frames : List Frame) (others : List String) (seen : List Json)
    (last : Json) :
    (itemTokens others).foldlM ParseState.step? ⟨.array seen :: frames, .afterValue last⟩ =
      some ⟨frames, .afterValue
        (.array (seen.reverse ++ last :: others.map fun text => .string (some text)))⟩ := by
  induction others generalizing seen last with
  | nil => simp [itemTokens, ParseState.step?]
  | cons text others ih =>
      have hItem : [Token.comma, .string (some text)].foldlM ParseState.step?
          ⟨.array seen :: frames, .afterValue last⟩ =
            some ⟨.array (last :: seen) :: frames, .afterValue (.string (some text))⟩ := rfl
      have hSplit : itemTokens (text :: others) =
          [.comma, .string (some text)] ++ itemTokens others := rfl
      rw [hSplit, List.foldlM_append, hItem]
      simpa using ih (last :: seen) (.string (some text))

private theorem reads_textTokens (texts : List String) :
    Reads (textTokens texts) (ofTexts texts) := by
  intro frames
  cases texts with
  | nil => rfl
  | cons first others => exact foldlM_itemTokens frames others [] (.string (some first))

/-- A member of an object, with the tokens of its value. -/
structure Member where
  key : String
  tokens : List Token
  value : Json

namespace Member

/-- The member as it is read. -/
def pair (member : Member) : Option String × Json :=
  (some member.key, member.value)

/-- The tokens of a member. -/
def spelled (member : Member) : List Token :=
  .string (some member.key) :: .colon :: member.tokens

end Member

/-- The tokens of an object behind its first member. -/
def memberTokens (others : List Member) : List Token :=
  (others.flatMap fun member => .comma :: member.spelled) ++ [.closeObject]

/-- The tokens of an object. -/
private def objectTokens (first : Member) (others : List Member) : List Token :=
  .openObject :: first.spelled ++ memberTokens others

/-- Behind a member, the others are read up to the end of the object. -/
theorem foldlM_memberTokens (frames : List Frame) {others : List Member}
    (hOthers : ∀ member ∈ others, Reads member.tokens member.value)
    (seen : List (Option String × Json)) (key : Option String) (last : Json) :
    (memberTokens others).foldlM ParseState.step? ⟨.object seen key :: frames, .afterValue last⟩ =
      some ⟨frames, .afterValue
        (.object (seen.reverse ++ (key, last) :: others.map Member.pair))⟩ := by
  induction others generalizing seen key last with
  | nil => simp [memberTokens, ParseState.step?]
  | cons member others ih =>
      obtain ⟨hMember, hRest⟩ := List.forall_mem_cons.1 hOthers
      have hRead : (Token.comma :: member.spelled).foldlM ParseState.step?
          ⟨.object seen key :: frames, .afterValue last⟩ =
            some ⟨.object ((key, last) :: seen) (some member.key) :: frames,
              .afterValue member.value⟩ := hMember _
      have hSplit : memberTokens (member :: others) =
          (.comma :: member.spelled) ++ memberTokens others := List.append_assoc ..
      rw [hSplit, List.foldlM_append, hRead]
      simpa [Member.pair] using ih hRest ((key, last) :: seen) (some member.key) member.value

private theorem reads_objectTokens {first : Member} {others : List Member}
    (hFirst : Reads first.tokens first.value)
    (hOthers : ∀ member ∈ others, Reads member.tokens member.value) :
    Reads (objectTokens first others) (.object ((first :: others).map Member.pair)) := by
  intro frames
  have hRead : (Token.openObject :: first.spelled).foldlM ParseState.step? ⟨frames, .value⟩ =
      some ⟨.object [] (some first.key) :: frames, .afterValue first.value⟩ := hFirst _
  rw [objectTokens, List.foldlM_append, hRead]
  exact foldlM_memberTokens frames hOthers [] (some first.key) first.value

/-- A text whose tokens are read as a value is that value. -/
theorem parse?_eq_of_reads {text : List Char} {tokens : List Token} {value : Json}
    (hLexes : Lexes text tokens) (hReads : Reads tokens value) : parse? text = some value := by
  have hFold : tokens.foldlM ParseState.step? {} = some ⟨[], .afterValue value⟩ := hReads []
  simp [parse?, hLexes.tokens?_eq, hFold, ParseState.result?]

end Json

namespace FunctionRecord

open Json

/-! ## The JSON of a record -/

private theorem lexes_encodeTexts (texts : List String) :
    Lexes (encodeTexts texts) (textTokens texts) := by
  have hOpen : Lexes ['['] [.openArray] := lexes_mark (by decide)
  have hClose : Lexes [']'] [.closeArray] := lexes_mark (by decide)
  cases texts with
  | nil => exact hOpen.append hClose
  | cons first others =>
      have hItems : Lexes ([','].intercalate ((first :: others).map quote))
          (.string (some first) :: others.flatMap fun text => [.comma, .string (some text)]) :=
        lexes_intercalate_comma lexes_quote first others
      exact (hOpen.append hItems).append hClose

/-- The member of the name in a record's JSON. -/
private def nameMember (record : FunctionRecord) : Member :=
  ⟨"name", [.string (some record.name)], .string (some record.name)⟩

/-- The members of the lists in a record's JSON. -/
private def listMembers (record : FunctionRecord) : List Member :=
  [⟨"signature", textTokens record.signature, ofTexts record.signature⟩,
    ⟨"comment_tokens", textTokens record.commentTokens, ofTexts record.commentTokens⟩]

private theorem lexes_json (record : FunctionRecord) :
    Lexes record.json.toList (objectTokens record.nameMember record.listMembers) := by
  have hColon : Lexes [':'] [.colon] := lexes_mark (by decide)
  have hComma : Lexes [','] [.comma] := lexes_mark (by decide)
  have hOpen : Lexes ['\x7b'] [.openObject] := lexes_mark (by decide)
  have hClose : Lexes ['\x7d'] [.closeObject] := lexes_mark (by decide)
  have hName := ((hOpen.append (lexes_quote "name")).append hColon).append (lexes_quote record.name)
  have hSignature := ((hComma.append (lexes_quote "signature")).append hColon).append
    (lexes_encodeTexts record.signature)
  have hTokens := ((hComma.append (lexes_quote "comment_tokens")).append hColon).append
    (lexes_encodeTexts record.commentTokens)
  have hAll := ((hName.append hSignature).append hTokens).append hClose
  rw [json, String.toList_ofList]
  simpa [objectTokens, memberTokens, Member.spelled, nameMember, listMembers] using hAll

private theorem texts?_ofTexts (texts : List String) : (ofTexts texts).texts? = some texts := by
  induction texts with
  | nil => rfl
  | cons first others ih =>
      simp only [texts?, ofTexts, items?, Option.bind_some] at ih ⊢
      rw [List.map_cons, List.mapM_cons, ih]
      rfl

/-- The JSON of a record is read as that record. -/
theorem ofText?_json (record : FunctionRecord) : ofText? record.json = some record := by
  have hReads : Reads (objectTokens record.nameMember record.listMembers)
      (.object ((record.nameMember :: record.listMembers).map Member.pair)) :=
    reads_objectTokens (reads_string record.name) (by simp [listMembers, reads_textTokens])
  rw [ofText?, parse?_eq_of_reads record.lexes_json hReads]
  simp [ofJson?, Fields.add?, Fields.record?, text?, texts?_ofTexts, nameMember, listMembers,
    Member.pair]

/-- The JSON of a record tells it from all others. -/
theorem json_injective : Function.Injective json := by
  intro record record' hSame
  have hRead := ofText?_json record
  rw [hSame, ofText?_json, Option.some.injEq] at hRead
  exact hRead.symm

private theorem isPrinted_encodeTexts (texts : List String) : IsPrinted (encodeTexts texts) := by
  have hOpen : IsPrinted ['['] := isPrinted_singleton (by decide)
  have hClose : IsPrinted [']'] := isPrinted_singleton (by decide)
  have hItems : IsPrinted ([','].intercalate (texts.map quote)) :=
    isPrinted_intercalate_comma (List.forall_mem_map.2 fun text _ => isPrinted_quote text)
  exact (hOpen.append hItems).append hClose

/-- The JSON of a record has no control characters. -/
theorem isPrinted_json (record : FunctionRecord) : IsPrinted record.json.toList := by
  have hMark : ∀ c : Char, 0x20 ≤ c.toNat → IsPrinted [c] := fun _ => isPrinted_singleton
  have hName := ((hMark '\x7b' (by decide)).append (isPrinted_quote "name")).append
    ((hMark ':' (by decide)).append (isPrinted_quote record.name))
  have hSignature := ((hMark ',' (by decide)).append (isPrinted_quote "signature")).append
    ((hMark ':' (by decide)).append (isPrinted_encodeTexts record.signature))
  have hTokens := ((hMark ',' (by decide)).append (isPrinted_quote "comment_tokens")).append
    ((hMark ':' (by decide)).append (isPrinted_encodeTexts record.commentTokens))
  have hAll := ((hName.append hSignature).append hTokens).append (hMark '\x7d' (by decide))
  rw [json, String.toList_ofList]
  simpa using hAll

end FunctionRecord

end FunctionCatalog
