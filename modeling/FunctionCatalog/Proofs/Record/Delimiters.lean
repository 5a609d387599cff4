import FunctionCatalog.Proofs.Text.Characters
import FunctionCatalog.Record.Basic
import Mathlib.Data.List.Basic

/-!
# Delimiters in lines

A line is cut at its bars into fields, and a field at its commas into items. Where no field and no
item holds a delimiter of its own, that undoes the line. What is cut out of a line never holds a
delimiter of its own, so a record with a conflict is not what its line is read as: the line is also
that of another record, in which the delimiter stands between two fields or two items.

The empty field stands for the empty list, so a list of one empty item is never read back.

## Main results

* `FunctionRecord.ofFields?_line` — without a conflict, a line is read as its record.
* `FunctionRecord.exists_ne_line_eq` — with one, the line is that of another record too.
* `FunctionRecord.hasDelimiterConflict_decides` — what a conflict says about a line.
-/

namespace FunctionCatalog

/-! ## Cutting texts -/

/-- The pieces of a text between the places of a separator. -/
def piecesAt (separator : Char) (text : String) : List String :=
  (text.toList.splitOn separator).map String.ofList

/-- The text with the given pieces between the places of a separator. -/
def joinedBy (separator : Char) (pieces : List String) : String :=
  (String.singleton separator).intercalate pieces

section Pieces

variable {separator : Char}

private theorem toList_joinedBy (pieces : List String) :
    (joinedBy separator pieces).toList = [separator].intercalate (pieces.map String.toList) := by
  rw [joinedBy, String.toList_intercalate, String.toList_singleton]

theorem joinedBy_singleton (text : String) : joinedBy separator [text] = text :=
  String.intercalate_singleton

private theorem joinedBy_cons_cons (first next : String) (rest : List String) :
    joinedBy separator (first :: next :: rest) =
      first ++ String.singleton separator ++ joinedBy separator (next :: rest) :=
  String.intercalate_cons_cons

/-- Pieces without the separator are found again. -/
theorem piecesAt_joinedBy {pieces : List String} (hNonempty : pieces ≠ [])
    (hPieces : ∀ piece ∈ pieces, separator ∉ piece.toList) :
    piecesAt separator (joinedBy separator pieces) = pieces := by
  rw [piecesAt, toList_joinedBy, List.splitOn_intercalate separator (by simpa using hPieces)
    (by simpa using hNonempty), List.map_map]
  simp [Function.comp_def]

/-- The pieces of a text make up the text. -/
theorem joinedBy_piecesAt (text : String) :
    joinedBy separator (piecesAt separator text) = text := by
  refine String.toList_injective ?_
  rw [toList_joinedBy, piecesAt, List.map_map]
  simp [Function.comp_def, List.intercalate_splitOn]

private theorem not_mem_of_mem_splitOn {text piece : List Char}
    (hPiece : piece ∈ text.splitOn separator) :
    separator ∉ piece := by
  induction text generalizing piece with
  | nil => simp_all
  | cons c rest ih =>
      rw [List.splitOn_cons_eq_if_modifyHead] at hPiece
      split at hPiece
      · rcases List.mem_cons.1 hPiece with rfl | hRest
        · exact List.not_mem_nil
        · exact ih hRest
      · next hOther =>
          obtain ⟨first, others, hSplit⟩ :=
            List.exists_cons_of_ne_nil (List.splitOn_ne_nil separator rest)
          rw [hSplit, List.modifyHead_cons] at hPiece
          rw [hSplit] at ih
          rcases List.mem_cons.1 hPiece with rfl | hRest
          · have hChar : separator ≠ c := fun hSame => hOther (by simp [hSame])
            exact List.not_mem_cons_of_ne_of_not_mem hChar (ih List.mem_cons_self)
          · exact ih (List.mem_cons_of_mem _ hRest)

/-- No piece holds the separator. -/
theorem not_mem_of_mem_piecesAt {text piece : String} (hPiece : piece ∈ piecesAt separator text) :
    separator ∉ piece.toList := by
  obtain ⟨chars, hChars, rfl⟩ := List.mem_map.1 hPiece
  rw [String.toList_ofList]
  exact not_mem_of_mem_splitOn hChars

private theorem mem_of_mem_joinedBy {pieces : List String} {c : Char}
    (hMem : c ∈ (joinedBy separator pieces).toList) :
    c = separator ∨ ∃ piece ∈ pieces, c ∈ piece.toList := by
  rw [toList_joinedBy] at hMem
  simpa using mem_of_mem_intercalate hMem

private theorem mem_joinedBy {pieces : List String} {piece : String} (hPiece : piece ∈ pieces)
    {c : Char} (hMem : c ∈ piece.toList) :
    c ∈ (joinedBy separator pieces).toList := by
  induction pieces with
  | nil => exact absurd hPiece List.not_mem_nil
  | cons first rest ih =>
      cases rest with
      | nil => simpa [joinedBy, List.mem_singleton.1 hPiece] using hMem
      | cons next rest =>
          rw [joinedBy_cons_cons, String.toList_append, String.toList_append, List.mem_append,
            List.mem_append]
          rcases List.mem_cons.1 hPiece with rfl | hRest
          · exact .inl (.inl hMem)
          · exact .inr (ih hRest)

/-- A text with a separator and more behind it is longer. -/
theorem joinedBy_pair_ne (front back : String) : joinedBy separator [front, back] ≠ front := by
  intro hSame
  have hLength := congrArg String.length hSame
  rw [joinedBy_cons_cons, String.length_append, String.length_append, String.length_singleton]
    at hLength
  omega

/-- A text with a separator in it is two texts with the separator between them. -/
theorem exists_of_mem_toList {text : String} (hMem : separator ∈ text.toList) :
    ∃ front back, text = joinedBy separator [front, back] := by
  obtain ⟨front, back, hText⟩ := List.append_of_mem hMem
  refine ⟨.ofList front, .ofList back, String.toList_injective ?_⟩
  simp [hText, toList_joinedBy]

end Pieces

/-! ## Lists in fields -/

/-- The items of a field. The empty field has none. -/
def itemsOf (field : String) : List String :=
  if field = "" then [] else piecesAt ',' field

private theorem joinedBy_itemsOf (field : String) : joinedBy ',' (itemsOf field) = field := by
  unfold itemsOf
  split
  · next hEmpty => rw [hEmpty]; rfl
  · exact joinedBy_piecesAt field

private theorem not_mem_of_mem_itemsOf {field item : String} (hItem : item ∈ itemsOf field) :
    ',' ∉ item.toList := by
  unfold itemsOf at hItem
  split at hItem
  · exact absurd hItem List.not_mem_nil
  · exact not_mem_of_mem_piecesAt hItem

private theorem mem_of_mem_itemsOf {field item : String} (hItem : item ∈ itemsOf field) {c : Char}
    (hMem : c ∈ item.toList) : c ∈ field.toList :=
  joinedBy_itemsOf field ▸ mem_joinedBy hItem hMem

private theorem itemsOf_ne_empty (field : String) : itemsOf field ≠ [""] := by
  intro hItems
  have hField := joinedBy_itemsOf field
  rw [hItems] at hField
  obtain rfl : "" = field := hField
  exact absurd hItems (by decide)

/-- Items without a comma are found again, unless there is only one and that is empty. -/
theorem itemsOf_joinedBy {items : List String} (hItems : ∀ item ∈ items, ',' ∉ item.toList)
    (hEmpty : items ≠ [""]) : itemsOf (joinedBy ',' items) = items := by
  cases items with
  | nil => rfl
  | cons first rest =>
      have hPieces := piecesAt_joinedBy (List.cons_ne_nil first rest) hItems
      unfold itemsOf
      split
      · next hField =>
          rw [hField] at hPieces
          exact absurd hPieces.symm hEmpty
      · exact hPieces

/-! ## Records -/

namespace FunctionRecord

/-- Neither list of a record is the list of one empty item, which is written like the empty list. -/
def ListsItems (record : FunctionRecord) : Prop :=
  record.signature ≠ [""] ∧ record.commentTokens ≠ [""]

/-- The record of three fields. -/
def ofFields (name signature tokens : String) : FunctionRecord where
  name
  signature := itemsOf signature
  commentTokens := itemsOf tokens

/-- The record that a line is cut into, if it has three fields. -/
def ofFields? (line : String) : Option FunctionRecord :=
  match piecesAt '|' line with
  | [name, signature, tokens] => some (ofFields name signature tokens)
  | _ => none

variable {record : FunctionRecord}

theorem line_eq (record : FunctionRecord) :
    record.line = joinedBy '|'
      [record.name, joinedBy ',' record.signature, joinedBy ',' record.commentTokens] := by
  rw [joinedBy_cons_cons, joinedBy_cons_cons, joinedBy_singleton, ← String.append_assoc,
    ← String.append_assoc]
  rfl

/-- The line of three fields has the fields between its bars, whatever is in them. -/
theorem line_ofFields (name signature tokens : String) :
    (ofFields name signature tokens).line = joinedBy '|' [name, signature, tokens] := by
  rw [line_eq]
  simp only [ofFields, joinedBy_itemsOf]

private theorem listsItems_ofFields (name signature tokens : String) :
    (ofFields name signature tokens).ListsItems :=
  ⟨itemsOf_ne_empty signature, itemsOf_ne_empty tokens⟩

private theorem hasDelimiterConflict_eq_false :
    record.hasDelimiterConflict = false ↔ '|' ∉ record.name.toList ∧
      ∀ items ∈ [record.signature, record.commentTokens], ∀ item ∈ items,
        '|' ∉ item.toList ∧ ',' ∉ item.toList := by
  have hItem : ∀ item, isAmbiguousItem item = false ↔ '|' ∉ item.toList ∧ ',' ∉ item.toList := by
    intro item
    simp only [isAmbiguousItem, List.any_eq_false, Bool.or_eq_true, beq_iff_eq, not_or]
    exact ⟨fun h => ⟨fun hBar => (h _ hBar).1 rfl, fun hComma => (h _ hComma).2 rfl⟩,
      fun h c hMem => ⟨fun hBar => h.1 (hBar ▸ hMem), fun hComma => h.2 (hComma ▸ hMem)⟩⟩
  simp only [hasDelimiterConflict, Bool.or_eq_false_iff, List.any_eq_false, beq_iff_eq,
    Bool.not_eq_true, hItem, List.forall_mem_cons, List.not_mem_nil, false_imp_iff, implies_true,
    and_true, and_assoc]
  refine and_congr_left' ⟨fun h hBar => h _ hBar rfl, fun h c hMem hBar => h (hBar ▸ hMem)⟩

/-- The fields of a line without a conflict hold no bar. -/
theorem piecesAt_line (hPlain : record.hasDelimiterConflict = false) :
    piecesAt '|' record.line =
      [record.name, joinedBy ',' record.signature, joinedBy ',' record.commentTokens] := by
  obtain ⟨hName, hItems⟩ := hasDelimiterConflict_eq_false.1 hPlain
  have hField : ∀ items ∈ [record.signature, record.commentTokens],
      '|' ∉ (joinedBy ',' items).toList := by
    intro items hList hBar
    rcases mem_of_mem_joinedBy hBar with hComma | ⟨item, hItem, hBar⟩
    · exact absurd hComma (by decide)
    · exact (hItems items hList item hItem).1 hBar
  rw [line_eq]
  refine piecesAt_joinedBy (List.cons_ne_nil _ _) ?_
  simpa using ⟨hName, hField record.signature (by simp), hField record.commentTokens (by simp)⟩

/-- Without a conflict, a line is read as its record. -/
theorem ofFields?_line (hPlain : record.hasDelimiterConflict = false) (hLists : record.ListsItems) :
    ofFields? record.line = some record := by
  obtain ⟨-, hItems⟩ := hasDelimiterConflict_eq_false.1 hPlain
  have hCommas : ∀ items ∈ [record.signature, record.commentTokens], ∀ item ∈ items,
      ',' ∉ item.toList := fun items hList item hItem => (hItems items hList item hItem).2
  rw [ofFields?, piecesAt_line hPlain]
  dsimp only
  rw [ofFields, itemsOf_joinedBy (hCommas record.signature (by simp)) hLists.1,
    itemsOf_joinedBy (hCommas record.commentTokens (by simp)) hLists.2]

/-- Records without conflicts that have one line are one record. -/
theorem eq_of_line_eq {other : FunctionRecord} (hPlain : record.hasDelimiterConflict = false)
    (hLists : record.ListsItems) (hPlain' : other.hasDelimiterConflict = false)
    (hLists' : other.ListsItems) (hLine : record.line = other.line) : record = other := by
  have hRead := ofFields?_line hPlain hLists
  rw [hLine, ofFields?_line hPlain' hLists'] at hRead
  exact (Option.some.inj hRead).symm

/-- Fields without bars are cut into a record without a conflict. -/
theorem hasDelimiterConflict_ofFields {name signature tokens : String}
    (hBars : ∀ field ∈ [name, signature, tokens], '|' ∉ field.toList) :
    (ofFields name signature tokens).hasDelimiterConflict = false := by
  simp only [List.forall_mem_cons, List.not_mem_nil, false_imp_iff, implies_true, and_true] at hBars
  obtain ⟨hName, hSignature, hTokens⟩ := hBars
  refine hasDelimiterConflict_eq_false.2 ⟨hName, ?_⟩
  simp only [List.forall_mem_cons, List.not_mem_nil, false_imp_iff, implies_true, and_true]
  exact ⟨fun item hItem => ⟨fun hBar => hSignature (mem_of_mem_itemsOf hItem hBar),
      not_mem_of_mem_itemsOf hItem⟩,
    fun item hItem => ⟨fun hBar => hTokens (mem_of_mem_itemsOf hItem hBar),
      not_mem_of_mem_itemsOf hItem⟩⟩

/-- What a line is read as never has a conflict. -/
theorem hasDelimiterConflict_of_ofFields? {line : String} (hRead : ofFields? line = some record) :
    record.hasDelimiterConflict = false := by
  unfold ofFields? at hRead
  split at hRead
  · next name signature tokens hPieces =>
      obtain rfl := Option.some.inj hRead
      exact hasDelimiterConflict_ofFields fun field hField =>
        not_mem_of_mem_piecesAt (hPieces ▸ hField)
  · cases hRead

/-- With a conflict, the line is that of another record too. -/
theorem exists_ne_line_eq (hConflict : record.hasDelimiterConflict = true) :
    ∃ other : FunctionRecord, other ≠ record ∧ other.ListsItems ∧ other.line = record.line := by
  let signature := joinedBy ',' record.signature
  let tokens := joinedBy ',' record.commentTokens
  have hRenamed : ∀ name' signature' tokens', name' ≠ record.name →
      joinedBy '|' [name', signature', tokens'] = joinedBy '|' [record.name, signature, tokens] →
        ∃ other : FunctionRecord, other ≠ record ∧ other.ListsItems ∧ other.line = record.line := by
    intro name' signature' tokens' hName hLine
    refine ⟨ofFields name' signature' tokens', fun hSame => hName ?_, listsItems_ofFields _ _ _, ?_⟩
    · exact congrArg FunctionRecord.name hSame
    · rw [line_ofFields, hLine, ← line_eq]
  by_cases hCut : ofFields record.name signature tokens = record
  · -- the lists are cut at the right commas, so one of the fields has a bar of its own
    have hBar : '|' ∈ record.name.toList ∨ '|' ∈ signature.toList ∨ '|' ∈ tokens.toList := by
      by_contra hNone
      have hPlain : (ofFields record.name signature tokens).hasDelimiterConflict = false :=
        hasDelimiterConflict_ofFields (by simpa [not_or] using hNone)
      rw [hCut, hConflict] at hPlain
      cases hPlain
    rcases hBar with hName | hSignature | hTokens
    · obtain ⟨front, back, hText⟩ := exists_of_mem_toList hName
      refine hRenamed front (joinedBy '|' [back, signature]) tokens ?_ ?_
      · rw [hText]
        exact (joinedBy_pair_ne front back).symm
      · simp only [hText, joinedBy_cons_cons, joinedBy_singleton, String.append_assoc]
    · obtain ⟨front, back, hText⟩ := exists_of_mem_toList hSignature
      refine hRenamed (joinedBy '|' [record.name, front]) back tokens (joinedBy_pair_ne _ _) ?_
      simp only [hText, joinedBy_cons_cons, joinedBy_singleton, String.append_assoc]
    · obtain ⟨front, back, hText⟩ := exists_of_mem_toList hTokens
      refine hRenamed (joinedBy '|' [record.name, signature]) front back (joinedBy_pair_ne _ _) ?_
      simp only [hText, joinedBy_cons_cons, joinedBy_singleton, String.append_assoc]
  · exact ⟨_, hCut, listsItems_ofFields _ _ _, by rw [line_ofFields, ← line_eq]⟩

/-- **Whether a record has a conflict decides whether its line is ambiguous.** -/
theorem hasDelimiterConflict_decides (record : FunctionRecord) :
    -- without a conflict, the line has three fields, which are cut into the record
    (record.hasDelimiterConflict = false → piecesAt '|' record.line =
      [record.name, joinedBy ',' record.signature, joinedBy ',' record.commentTokens]) ∧
    (record.ListsItems →
      (record.hasDelimiterConflict = false ↔ ofFields? record.line = some record)) ∧
    -- so no two such records have one line
    (∀ other : FunctionRecord, record.ListsItems → other.ListsItems →
      record.hasDelimiterConflict = false → other.hasDelimiterConflict = false →
        record.line = other.line → record = other) ∧
    -- with a conflict, the line is that of another record too
    (record.hasDelimiterConflict = true →
      ∃ other : FunctionRecord, other ≠ record ∧ other.ListsItems ∧ other.line = record.line) := by
  refine ⟨piecesAt_line, fun hLists => ?_, ?_, exists_ne_line_eq⟩
  · exact ⟨fun hPlain => ofFields?_line hPlain hLists, hasDelimiterConflict_of_ofFields?⟩
  · exact fun other hLists hLists' hPlain hPlain' => eq_of_line_eq hPlain hLists hPlain' hLists'

/-- A name may hold commas and an item may be empty. Of two lists that are joined alike, the one
with a comma in an item has a conflict. -/
theorem hasDelimiterConflict_decides_pair :
    let plain : FunctionRecord := ⟨"operator,", ["int", "", "pair<int", "int>"], []⟩
    let joined : FunctionRecord := ⟨"operator,", ["int", "", "pair<int,int>"], []⟩
    plain.line = "operator,|int,,pair<int,int>|" ∧ joined.line = plain.line ∧
      ofFields? plain.line = some plain ∧ ofFields? joined.line ≠ some joined ∧
      ∃ other : FunctionRecord, other ≠ joined ∧ other.line = joined.line := by
  intro plain joined
  have hLists : plain.ListsItems := ⟨by decide, by decide⟩
  have hLists' : joined.ListsItems := ⟨by decide, by decide⟩
  obtain ⟨-, hRead, -, -⟩ := hasDelimiterConflict_decides plain
  obtain ⟨-, hRead', -, hOther⟩ := hasDelimiterConflict_decides joined
  obtain ⟨other, hNe, -, hLine⟩ := hOther (by decide)
  refine ⟨by decide, by decide, (hRead hLists).1 (by decide), fun hSome => ?_, other, hNe, hLine⟩
  exact absurd ((hRead' hLists').2 hSome) (by decide)

end FunctionRecord

end FunctionCatalog
