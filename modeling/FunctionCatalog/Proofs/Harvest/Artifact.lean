import FunctionCatalog.Proofs.LinkageGuard.Lines
import FunctionCatalog.Proofs.Harvest.Rerun
import FunctionCatalog.Proofs.Record.JsonText
import FunctionCatalog.Proofs.Text.Encoding
import Mathlib

/-!
# Artifacts are read back

An artifact is cut at its line feeds. Where no line holds one of its own, the lines that were
written come back, and behind the last of them there is nothing. The JSON of a record holds no
control character and tells the record from all others, so an artifact of JSON lines gives back
the set that was written.

## Main results

* `lines_encodeLines` — the lines of an artifact are those that were written.
* `FileTree.get?_writeRecords` — what stands at the location of an artifact.
* `FileTree.jsonl_readBack` — an artifact of JSON lines holds the records of the set, each once.
-/

namespace FunctionCatalog

/-! ## Lines of an artifact -/

namespace LinkageGuard

private theorem lines_flatMap {pieces : List Bytes} (hPieces : ∀ piece ∈ pieces, 0x0A ∉ piece) :
    lines (pieces.flatMap (· ++ [0x0A])) = pieces ++ [[]] := by
  induction pieces with
  | nil => rfl
  | cons piece rest ih =>
      obtain ⟨hPiece, hRest⟩ := List.forall_mem_cons.1 hPieces
      rw [List.flatMap_cons, List.append_assoc, List.singleton_append,
        lines_append_lineFeed hPiece, ih hRest, List.cons_append]

/-- Pieces that are written a line each have the lines of the pieces, and nothing behind the last
one. -/
theorem mem_lines_flatMap {pieces : List Bytes} {line : Bytes} :
    line ∈ lines (pieces.flatMap (· ++ [0x0A])) ↔
      (∃ piece ∈ pieces, line ∈ lines piece) ∨ line = [] := by
  induction pieces with
  | nil => simp [lines]
  | cons piece rest ih =>
      rw [List.flatMap_cons, List.append_assoc, List.singleton_append, lines_append_cons,
        List.mem_append, ih, List.exists_mem_cons_iff, or_assoc]

end LinkageGuard

theorem encodeLines_eq_flatMap (lines : List String) :
    encodeLines lines = (lines.map Utf8.encode).flatMap (· ++ [0x0A]) := by
  rw [encodeLines, List.flatMap_map]

/-- Texts without line feeds are the lines of the artifact that they are written to. -/
theorem lines_encodeLines {lines : List String} (hLines : ∀ line ∈ lines, '\n' ∉ line.toList) :
    LinkageGuard.lines (encodeLines lines) = lines.map Utf8.encode ++ [[]] := by
  rw [encodeLines_eq_flatMap, LinkageGuard.lines_flatMap]
  intro piece hPiece hFeed
  obtain ⟨line, hLine, rfl⟩ := List.mem_map.1 hPiece
  exact hLines line hLine (Utf8.ofNat_mem_of_mem_encode (by decide) hFeed)

/-- Texts that are the same but for order and repetition have the same lines in an artifact,
whatever line feeds they hold. -/
theorem mem_lines_encodeLines_congr {texts others : List String}
    (hTexts : ∀ text, text ∈ texts ↔ text ∈ others) (line : Bytes) :
    line ∈ LinkageGuard.lines (encodeLines texts) ↔
      line ∈ LinkageGuard.lines (encodeLines others) := by
  simp only [encodeLines_eq_flatMap, LinkageGuard.mem_lines_flatMap, List.mem_map, hTexts]

/-! ## Written records -/

/-- Items that are all new come up once each. -/
theorem firstOccurrences_of_nodup {seen : Std.HashSet String} {items : List String}
    (hItems : items.Nodup) (hNew : ∀ item ∈ items, item ∉ seen) :
    firstOccurrences seen items = items := by
  induction items generalizing seen with
  | nil => rfl
  | cons first rest ih =>
      obtain ⟨hFirst, hRest⟩ := List.nodup_cons.1 hItems
      have hUnseen : ¬ seen.contains first = true := fun h =>
        hNew first List.mem_cons_self (Std.HashSet.mem_iff_contains.2 h)
      rw [firstOccurrences, if_neg hUnseen, ih hRest]
      intro item hItem hSeen
      rw [Std.HashSet.mem_insert, beq_iff_eq] at hSeen
      rcases hSeen with rfl | hSeen
      · exact hFirst hItem
      · exact hNew item (List.mem_cons_of_mem _ hItem) hSeen

theorem RecordSet.nodup_toList (set : RecordSet) : set.toList.Nodup :=
  (Std.HashSet.distinct_toList (m := set)).imp fun hOther => beq_eq_false_iff_ne.1 hOther

/-- A format that tells records apart has a line for each of them. -/
theorem RecordFormat.lineSet_of_injective (format : RecordFormat)
    (hFormat : Function.Injective format.encode) {records : List FunctionRecord}
    (hRecords : records.Nodup) : format.lineSet records = records.map format.encode :=
  firstOccurrences_of_nodup (List.Nodup.map hFormat hRecords) fun _ _ => Std.HashSet.not_mem_empty

namespace FileTree

variable {tree opened : FileTree} {output : Path} {location : Location}

/-- The location of an opened output holds the lines of the records that are written there. -/
theorem get?_writeRecords (hOpen : tree.openOutput output = .ok (location, opened))
    (format : RecordFormat) (records : List FunctionRecord) :
    ∃ source : Source, source.bytes = encodeLines (format.lineSet records) ∧
      (opened.writeRecords location format records).2.get? location = some (.file source) := by
  have hRoot : location ≠ [] := by
    unfold openOutput at hOpen
    cases hEmpty : tree.openEmpty output with
    | error cause =>
        rw [hEmpty] at hOpen
        cases hOpen
    | ok result =>
        rw [hEmpty] at hOpen
        cases hOpen
        exact (get?_of_openEmpty hEmpty).1
  refine ⟨_, ?_, get?_put_self _ _ hRoot⟩
  split
  · next hNone => exact hNone.symm
  · rfl

end FileTree

/-! ## JSON lines -/

/-- The record that a line of an artifact is read as. -/
def FunctionRecord.ofLine? (line : Bytes) : Option FunctionRecord :=
  (Utf8.text? line).bind ofText?

private theorem FunctionRecord.ofLine?_encode_json (record : FunctionRecord) :
    ofLine? (Utf8.encode record.json) = some record := by
  rw [ofLine?, Utf8.text?_encode, Option.bind_some, ofText?_json]

/-- Control characters are not among the bytes of a record's JSON. -/
theorem FunctionRecord.not_mem_encode_json (record : FunctionRecord) {b : UInt8}
    (hControl : b < 0x20) : b ∉ Utf8.encode record.json := by
  intro hMem
  have hLt : b.toNat < 0x20 := UInt8.lt_iff_toNat_lt.1 hControl
  have hAscii : b < 0x80 := UInt8.lt_iff_toNat_lt.2 (Nat.lt_trans hLt (by decide))
  have hPrinted := record.isPrinted_json _ (Utf8.ofNat_mem_of_mem_encode hAscii hMem)
  have hSmall : ∀ n < 0x20, (Char.ofNat n).toNat < 0x20 := by decide
  exact Nat.not_lt.2 hPrinted (hSmall _ hLt)

/-- **An artifact of JSON lines loses and invents nothing**, whatever the order in which the set is
gone through. -/
theorem FileTree.jsonl_readBack {tree opened : FileTree} {output : Path} {location : Location}
    (hOpen : tree.openOutput output = .ok (location, opened)) {set : RecordSet}
    {order : List FunctionRecord} (hOrder : order.Perm set.toList) :
    ∃ (after : FileTree) (source : Source) (lines : List Bytes),
      -- the count is that of the set
      opened.writeRecords location .jsonl order = (set.size, after) ∧
      after.get? location = some (.file source) ∧
      -- there are as many lines, each with a line feed behind it and nothing behind the last
      lines.length = set.size ∧
      source.bytes = lines.flatMap (· ++ [0x0A]) ∧
      LinkageGuard.lines source.bytes = lines ++ [[]] ∧
      (∀ line ∈ lines, 0x0A ∉ line ∧ 0x0D ∉ line) ∧
      -- every line is read as a record, and the records read are those of the set, each once
      lines.mapM FunctionRecord.ofLine? = some order ∧
      order.Nodup ∧ ∀ record, record ∈ order ↔ record ∈ set := by
  have hDistinct : order.Nodup := hOrder.nodup_iff.2 (RecordSet.nodup_toList set)
  have hSize : order.length = set.size := by
    rw [hOrder.length_eq, Std.HashSet.length_toList]
  have hSet : RecordFormat.jsonl.lineSet order = order.map FunctionRecord.json :=
    RecordFormat.jsonl.lineSet_of_injective FunctionRecord.json_injective hDistinct
  let lines : List Bytes := order.map fun record => Utf8.encode record.json
  have hLines : ∀ line ∈ lines, 0x0A ∉ line ∧ 0x0D ∉ line := by
    intro line hLine
    obtain ⟨record, -, rfl⟩ := List.mem_map.1 hLine
    exact ⟨record.not_mem_encode_json (by decide), record.not_mem_encode_json (by decide)⟩
  have hRead : lines.mapM FunctionRecord.ofLine? = some order := by
    have hLine : FunctionRecord.ofLine? ∘ (fun record => Utf8.encode record.json) = some :=
      funext FunctionRecord.ofLine?_encode_json
    rw [List.mapM_map, hLine]
    exact List.mapM_pure.trans (congrArg some (List.map_id order))
  obtain ⟨source, hBytes, hFile⟩ := get?_writeRecords hOpen .jsonl order
  have hArtifact : source.bytes = lines.flatMap (· ++ [0x0A]) := by
    rw [hBytes, hSet, encodeLines_eq_flatMap, List.map_map]
    rfl
  refine ⟨_, source, lines, Prod.ext ?_ rfl, hFile, ?_, hArtifact, ?_, hLines, hRead, hDistinct, ?_⟩
  · rw [writeRecords, hSet, List.length_map, hSize]
  · rw [List.length_map, hSize]
  · rw [hArtifact]
    exact LinkageGuard.lines_flatMap fun line hLine => (hLines line hLine).1
  · exact fun record => hOrder.mem_iff.trans Std.HashSet.mem_toList

/-- The artifact of two records with line breaks, quotes, backslashes and delimiters in them, of
which the later one in the set is written first. -/
theorem FileTree.jsonl_readBack_escapes :
    let quoted : FunctionRecord := ⟨"f\n", ["a \"b\" | c, d", "\\"], ["\r\t"]⟩
    let other : FunctionRecord := ⟨"f", [], ["é", "\x01"]⟩
    ∃ (opened after : FileTree) (source : Source) (lines : List Bytes),
      openOutput {} ⟨"o"⟩ = .ok (["o"], opened) ∧
      opened.writeRecords ["o"] .jsonl [other, quoted] = (2, after) ∧
      after.get? ["o"] = some (.file source) ∧
      LinkageGuard.lines source.bytes = lines ++ [[]] ∧
      lines.mapM FunctionRecord.ofLine? = some [other, quoted] := by
  intro quoted other
  let set : RecordSet := .ofList [quoted, other]
  have hOpen : openOutput {} ⟨"o"⟩ = .ok (["o"], ({} : FileTree).put ["o"] (.file .empty)) := by cbv
  have hSize : set.size = 2 := Std.HashSet.size_ofList (by decide)
  have hOrder : [other, quoted].Perm set.toList := by
    refine (List.perm_ext_iff_of_nodup (by decide) (RecordSet.nodup_toList set)).2 fun record => ?_
    rw [Std.HashSet.mem_toList, Std.HashSet.mem_ofList, List.contains_iff_mem]
    exact (List.Perm.swap quoted other []).mem_iff
  obtain ⟨after, source, lines, hWritten, hFile, -, -, hLines, -, hRead, -⟩ :=
    jsonl_readBack hOpen hOrder
  rw [hSize] at hWritten
  exact ⟨_, after, source, lines, hOpen, hWritten, hFile, hLines, hRead⟩

end FunctionCatalog
