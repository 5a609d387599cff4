import FunctionCatalog.Proofs.Harvest.Artifact
import FunctionCatalog.Proofs.Record.Delimiters

/-!
# Distinct lines

A set has no order of its own, so its records are written in whatever order they are gone through,
and of records with one line the first to come up is the one that is written. The lines are the same
ones in every order: those of the records, each once. There are as many lines as records where no
record has a delimiter conflict and no list has the empty item alone.

## Main results

* `RecordFormat.perm_lineSet` — the same records in another order have the same lines.
* `RecordFormat.length_lineSet` — there are as many lines as records have different encodings.
* `FileTree.writeRecords_lines` — what is written of a set, and how many lines that is.
-/

namespace FunctionCatalog

namespace RecordFormat

variable {format : RecordFormat} {records records' : List FunctionRecord}

/-- The same records in another order have the same lines. -/
theorem perm_lineSet (hRecords : records.Perm records') :
    (format.lineSet records).Perm (format.lineSet records') := by
  refine (List.perm_ext_iff_of_nodup (nodup_lineSet _ _) (nodup_lineSet _ _)).2 fun line => ?_
  rw [mem_lineSet, mem_lineSet]
  simp only [hRecords.mem_iff]

/-- There are as many lines as records have different encodings. -/
theorem length_lineSet (format : RecordFormat) (records : List FunctionRecord) :
    (format.lineSet records).length = (records.map format.encode).toFinset.card := by
  have hSet : (format.lineSet records).toFinset = (records.map format.encode).toFinset := by
    ext line
    rw [List.mem_toFinset, mem_lineSet, List.mem_toFinset, List.mem_map]
  rw [← hSet, List.toFinset_card_of_nodup (nodup_lineSet format records)]

private theorem length_lineSet_le (format : RecordFormat) (records : List FunctionRecord) :
    (format.lineSet records).length ≤ records.length := by
  rw [length_lineSet]
  exact (List.toFinset_card_le _).trans_eq (List.length_map _)

/-- Records without conflicts have a line each. -/
theorem lineSet_of_plain (hRecords : records.Nodup)
    (hPlain : ∀ record ∈ records, record.hasDelimiterConflict = false ∧ record.ListsItems) :
    lines.lineSet records = records.map FunctionRecord.line := by
  have hLines : (records.map FunctionRecord.line).Nodup := by
    refine List.Nodup.map_on (fun record hRecord other hOther hLine => ?_) hRecords
    obtain ⟨hRecordPlain, hRecordLists⟩ := hPlain record hRecord
    obtain ⟨hOtherPlain, hOtherLists⟩ := hPlain other hOther
    exact FunctionRecord.eq_of_line_eq hRecordPlain hRecordLists hOtherPlain hOtherLists hLine
  exact firstOccurrences_of_nodup hLines fun _ _ => Std.HashSet.not_mem_empty

end RecordFormat

/-- **The lines that are written of a set are those of its records**, each once and whatever the
order in which the set is gone through. -/
theorem FileTree.writeRecords_lines {tree opened : FileTree} {output : Path} {location : Location}
    (hOpen : tree.openOutput output = .ok (location, opened)) (set : RecordSet) :
    ∀ order : List FunctionRecord, order.Perm set.toList →
      ∃ (lines : List String) (source : Source) (after : FileTree),
        -- each line is written with a line feed behind it, and the lines are counted
        opened.writeRecords location .lines order = (lines.length, after) ∧
        after.get? location = some (.file source) ∧
        source.bytes = lines.flatMap (fun line => Utf8.encode line ++ [0x0A]) ∧
        -- they are the lines of the records, each once and none missing
        lines.Nodup ∧ (∀ line, line ∈ lines ↔ ∃ record ∈ set, record.line = line) ∧
        lines.length = (set.toList.map FunctionRecord.line).toFinset.card ∧
        -- another order gives the same lines in another order, and the same count
        (∀ order' : List FunctionRecord, order'.Perm set.toList →
          ∃ (lines' : List String) (source' : Source) (after' : FileTree),
            opened.writeRecords location .lines order' = (lines.length, after') ∧
            after'.get? location = some (.file source') ∧
            source'.bytes = lines'.flatMap (fun line => Utf8.encode line ++ [0x0A]) ∧
            lines'.Perm lines) ∧
        -- there are no more lines than records, and as many where no two records can have one line
        lines.length ≤ set.size ∧
        ((∀ record ∈ set, record.hasDelimiterConflict = false ∧ record.ListsItems) →
          lines.length = set.size) := by
  intro order hOrder
  have hMem : ∀ record, record ∈ order ↔ record ∈ set := fun record =>
    hOrder.mem_iff.trans Std.HashSet.mem_toList
  have hSize : order.length = set.size := by
    rw [hOrder.length_eq, Std.HashSet.length_toList]
  obtain ⟨source, hBytes, hFile⟩ := get?_writeRecords hOpen .lines order
  refine ⟨RecordFormat.lines.lineSet order, source, _, rfl, hFile, hBytes,
    RecordFormat.nodup_lineSet _ _, fun line => ?_, ?_, fun order' hOrder' => ?_, ?_, ?_⟩
  · simp only [RecordFormat.mem_lineSet, hMem]
    rfl
  · rw [RecordFormat.length_lineSet]
    exact congrArg Finset.card (List.toFinset_eq_of_perm _ _ (hOrder.map _))
  · obtain ⟨source', hBytes', hFile'⟩ := get?_writeRecords hOpen .lines order'
    have hLines : (RecordFormat.lines.lineSet order').Perm (RecordFormat.lines.lineSet order) :=
      RecordFormat.perm_lineSet (hOrder'.trans hOrder.symm)
    exact ⟨_, source', _, Prod.ext hLines.length_eq rfl, hFile', hBytes', hLines⟩
  · exact (RecordFormat.length_lineSet_le _ _).trans_eq hSize
  · intro hPlain
    have hDistinct : order.Nodup := hOrder.nodup_iff.2 (RecordSet.nodup_toList set)
    rw [RecordFormat.lineSet_of_plain hDistinct fun record hRecord =>
      hPlain record ((hMem record).1 hRecord), List.length_map, hSize]

/-- Of three records, two have one line, which is written once. -/
theorem FileTree.writeRecords_lines_collision :
    let joined : FunctionRecord := ⟨"f", ["int", "pair<int,int>"], []⟩
    let cut : FunctionRecord := ⟨"f", ["int", "pair<int", "int>"], []⟩
    let other : FunctionRecord := ⟨"g", ["void"], ["a", "b"]⟩
    ∃ (opened after : FileTree) (source : Source) (lines : List String),
      openOutput {} ⟨"o"⟩ = .ok (["o"], opened) ∧
      opened.writeRecords ["o"] .lines [cut, other, joined] = (2, after) ∧
      after.get? ["o"] = some (.file source) ∧
      source.bytes = lines.flatMap (fun line => Utf8.encode line ++ [0x0A]) ∧
      lines.Perm ["f|int,pair<int,int>|", "g|void|a,b"] := by
  intro joined cut other
  let set : RecordSet := .ofList [joined, cut, other]
  have hOpen : openOutput {} ⟨"o"⟩ = .ok (["o"], ({} : FileTree).put ["o"] (.file .empty)) := by cbv
  have hSet : ∀ record, record ∈ set ↔ record ∈ [cut, other, joined] := by
    intro record
    rw [Std.HashSet.mem_ofList, List.contains_iff_mem]
    simp only [List.mem_cons, List.not_mem_nil, or_false]
    tauto
  have hOrder : [cut, other, joined].Perm set.toList := by
    refine (List.perm_ext_iff_of_nodup (by decide) (RecordSet.nodup_toList set)).2 fun record => ?_
    rw [Std.HashSet.mem_toList, hSet]
  obtain ⟨lines, source, after, hWritten, hFile, hBytes, hDistinct, hLines, -⟩ :=
    writeRecords_lines hOpen set _ hOrder
  have hPerm : lines.Perm ["f|int,pair<int,int>|", "g|void|a,b"] := by
    refine (List.perm_ext_iff_of_nodup hDistinct (by decide)).2 fun line => ?_
    have hCut : cut.line = "f|int,pair<int,int>|" := by decide
    have hOther : other.line = "g|void|a,b" := by decide
    have hJoined : joined.line = "f|int,pair<int,int>|" := by decide
    rw [hLines]
    simp only [hSet, List.mem_cons, List.not_mem_nil, or_false, exists_eq_or_imp, exists_eq_left,
      hCut, hOther, hJoined]
    constructor
    · rintro (rfl | rfl | rfl)
      · exact .inl rfl
      · exact .inr rfl
      · exact .inl rfl
    · rintro (rfl | rfl)
      · exact .inl rfl
      · exact .inr (.inl rfl)
  rw [hPerm.length_eq] at hWritten
  exact ⟨_, after, source, lines, hOpen, hWritten, hFile, hBytes, hPerm⟩

end FunctionCatalog
