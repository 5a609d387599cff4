import FunctionCatalog.Proofs.Harvest.Union
import Mathlib

/-!
# What counting units adds

A unit is counted whether or not it can be listed, and each of its files is counted once: as parsed,
failed or skipped. So over any units, with repetitions and whatever there is to them, the counts
grow by the numbers of units and files, and the records by those of the files that are parsed.
Nothing depends on what was counted before or on the order, and records that are there already are
not added again.

## Main results

* `FileTree.length_listed` — the files listed are those that the names of a directory stand for.
* `length_eq_countP` — every file is parsed, failed or skipped.
* `Tally.size_foldl_addUnit_le` — there are no more records than were found.
* `Tally.foldl_addUnit_conserves` — no unit, file or record is lost or counted twice.
-/

namespace FunctionCatalog

/-! ## Files of a directory -/

/-- Whether a place is a file. -/
def Place.isFile : Place → Bool
  | .file _ _ => true
  | _ => false

namespace FileTree

/-- The number of names in a directory that stand for a file, where a link stands for what it leads
to. What is no directory has none. -/
def fileCount (tree : FileTree) (path : Path) : Nat :=
  match tree.find path with
  | .ok (.directory here) =>
    (tree.names here).countP fun name => (tree.member? here (path.join name) name).any Place.isFile
  | _ => 0

/-- A unit cannot be listed if its path leads nowhere. -/
theorem isUnlistable_eq (tree : FileTree) (unit : WorkUnit) :
    unit.isUnlistable tree = !(tree.find unit.path).isOk := by
  rw [WorkUnit.isUnlistable, WorkUnit.files, members]
  cases tree.find unit.path with
  | error cause => rfl
  | ok place => cases place <;> rfl

/-- The files listed are those that the names of a directory stand for. -/
theorem length_listed (tree : FileTree) (unit : WorkUnit) :
    (unit.listed tree).length = tree.fileCount unit.path := by
  rw [WorkUnit.listed, WorkUnit.files, members, fileCount]
  cases tree.find unit.path with
  | error cause => rfl
  | ok place =>
      cases place with
      | file location source => rfl
      | vacant location => rfl
      | directory here =>
          simp only [bind, Except.bind, List.filterMap_filterMap, List.length_filterMap_eq_countP]
          refine List.countP_congr fun name _ => ?_
          cases tree.member? here (unit.path.join name) name with
          | none => rfl
          | some place => cases place <;> rfl

end FileTree

private theorem length_corpus (tree : FileTree) (units : List WorkUnit) :
    (corpus tree units).length = (units.map fun unit => tree.fileCount unit.path).sum := by
  rw [corpus, List.length_flatMap]
  simp only [FileTree.length_listed]

/-- Every file is parsed, failed or skipped. -/
theorem length_eq_countP (result : Path → Except ExtractionError (List FunctionRecord))
    (files : List Path) :
    files.length = files.countP (fun file => (result file).isOk)
      + files.countP (fun file => isFailed (result file))
      + files.countP (fun file => isSkipped (result file)) := by
  induction files with
  | nil => rfl
  | cons file rest ih =>
      simp only [List.countP_cons, List.length_cons, ih]
      cases result file with
      | ok found => simp [Except.isOk, Except.toBool, isFailed, isSkipped]; omega
      | error error =>
          cases hSkip : error.isSkip <;>
            simp [Except.isOk, Except.toBool, isFailed, isSkipped, hSkip] <;> omega

/-- The number of the records that some files give, with repetitions. -/
def emitted (config : Config) (tree : FileTree) (files : List Path) : Nat :=
  (files.map fun file => (recordsFound (config.extractPath tree file)).length).sum

private theorem recordsEmitted_ofCorpus (config : Config) (tree : FileTree)
    (units : List WorkUnit) :
    (Stats.ofCorpus config tree units).recordsEmitted =
      .ofNat (emitted config tree (corpus tree units)) := by
  simp [Stats.ofCorpus, Stats.ofFiles, Stats.add_def, emitted, List.length_flatMap]

namespace Tally

/-! ## No more records than were found -/

private theorem size_addFile_le (tally : Tally)
    (result : Except ExtractionError (List FunctionRecord)) :
    (tally.addFile result).records.size ≤ tally.records.size + (recordsFound result).length := by
  cases result with
  | ok found => exact Std.HashSet.size_insertMany_list_le
  | error error =>
      rw [addFile]
      split <;> exact Nat.le_add_right ..

private theorem size_foldl_addFile_le (config : Config) (tree : FileTree) (files : List Path)
    (tally : Tally) :
    (files.foldl (fun tally file => tally.addFile (config.extractPath tree file))
      tally).records.size ≤ tally.records.size + emitted config tree files := by
  induction files generalizing tally with
  | nil => exact Nat.le_refl _
  | cons file rest ih =>
      have hFile := size_addFile_le tally (config.extractPath tree file)
      have hRest := ih (tally.addFile (config.extractPath tree file))
      simp only [List.foldl_cons, emitted, List.map_cons, List.sum_cons] at hRest ⊢
      omega

private theorem size_addUnit_le (config : Config) (tree : FileTree) (tally : Tally)
    (unit : WorkUnit) :
    (tally.addUnit config tree unit).records.size ≤
      tally.records.size + emitted config tree (unit.listed tree) := by
  rw [addUnit, WorkUnit.listed]
  cases unit.files tree with
  | error error => exact Nat.le_add_right ..
  | ok files => exact size_foldl_addFile_le config tree files _

/-- There are no more records than were found. -/
theorem size_foldl_addUnit_le (config : Config) (tree : FileTree) (units : List WorkUnit)
    (before : Tally) :
    (units.foldl (addUnit config tree) before).records.size ≤
      before.records.size + emitted config tree (corpus tree units) := by
  induction units generalizing before with
  | nil => exact Nat.le_refl _
  | cons unit rest ih =>
      have hUnit := size_addUnit_le config tree before unit
      have hRest := ih (before.addUnit config tree unit)
      simp only [List.foldl_cons, corpus, List.flatMap_cons, emitted, List.map_append,
        List.sum_append] at hUnit hRest ⊢
      omega

/-! ## Conservation -/

/-- **Nothing is lost or counted twice**, whatever was counted before and in whatever order. -/
theorem foldl_addUnit_conserves (config : Config) (tree : FileTree) (before : Tally)
    (units : List WorkUnit) :
    let after := units.foldl (addUnit config tree) before
    let files := corpus tree units
    -- every unit is counted, and those whose paths lead nowhere are counted as failed
    after.stats.units = before.stats.units + .ofNat units.length ∧
    after.stats.unitsFailed = before.stats.unitsFailed
      + .ofNat (units.countP fun unit => !(tree.find unit.path).isOk) ∧
    -- every file of the other ones is counted once, by what becomes of it
    after.stats.filesParsed = before.stats.filesParsed
      + .ofNat (files.countP fun file => (config.extractPath tree file).isOk) ∧
    after.stats.filesFailed = before.stats.filesFailed
      + .ofNat (files.countP fun file => isFailed (config.extractPath tree file)) ∧
    after.stats.filesSkipped = before.stats.filesSkipped
      + .ofNat (files.countP fun file => isSkipped (config.extractPath tree file)) ∧
    after.stats.filesParsed + after.stats.filesFailed + after.stats.filesSkipped =
      before.stats.filesParsed + before.stats.filesFailed + before.stats.filesSkipped
        + .ofNat (units.map fun unit => tree.fileCount unit.path).sum ∧
    -- every record of a parsed file is counted, and added to the records that were there
    after.stats.recordsEmitted = before.stats.recordsEmitted + .ofNat (emitted config tree files) ∧
    (∀ record, record ∈ after.records ↔ record ∈ before.records ∨
      ∃ unit ∈ units, ∃ listed, unit.files tree = .ok listed ∧
        ∃ file ∈ listed, ∃ found, config.extractPath tree file = .ok found ∧ record ∈ found) ∧
    -- a unit that cannot be listed and a file that fails leave the records as they are
    (∀ (tally : Tally) (unit : WorkUnit) (cause : FileError), tree.find unit.path = .error cause →
      (tally.addUnit config tree unit).records = tally.records) ∧
    (∀ (tally : Tally) (file : Path) (error : ExtractionError),
      config.extractPath tree file = .error error →
        (tally.addFile (config.extractPath tree file)).records = tally.records) ∧
    -- another order comes to the same, and units that were counted add no further record
    (∀ others : List WorkUnit, others.Perm units →
      (others.foldl (addUnit config tree) before).records.Equiv after.records ∧
        (others.foldl (addUnit config tree) before).stats = after.stats) ∧
    (∀ again : List WorkUnit, (∀ unit ∈ again, unit ∈ units) →
      (again.foldl (addUnit config tree) after).records.Equiv after.records) ∧
    -- there are no more records than were found, which the count says as long as it has 64 bits
    after.records.size ≤ before.records.size + emitted config tree files ∧
    (emitted config tree files < UInt64.size →
      (units.foldl (addUnit config tree) {}).records.size ≤
        (units.foldl (addUnit config tree) {}).stats.recordsEmitted.toNat) := by
  intro after files
  obtain ⟨hRecords, hStats⟩ := foldl_addUnit_adds config tree units before
  have hParsed : after.stats.filesParsed = before.stats.filesParsed
      + .ofNat (files.countP fun file => (config.extractPath tree file).isOk) := by
    simp [after, files, hStats, Stats.add_def, Stats.ofCorpus, Stats.ofFiles]
  have hFailed : after.stats.filesFailed = before.stats.filesFailed
      + .ofNat (files.countP fun file => isFailed (config.extractPath tree file)) := by
    simp [after, files, hStats, Stats.add_def, Stats.ofCorpus, Stats.ofFiles]
  have hSkipped : after.stats.filesSkipped = before.stats.filesSkipped
      + .ofNat (files.countP fun file => isSkipped (config.extractPath tree file)) := by
    simp [after, files, hStats, Stats.add_def, Stats.ofCorpus, Stats.ofFiles]
  refine ⟨?_, ?_, hParsed, hFailed, hSkipped, ?_, ?_, fun record => ?_,
    fun tally unit cause hCause => ?_, fun tally file error hError => ?_,
    fun others hPerm => ?_, fun again hAgain => ?_,
    size_foldl_addUnit_le config tree units before, fun hFits => ?_⟩
  · simp [after, hStats, Stats.add_def, Stats.ofCorpus, Stats.ofFiles]
  · simp [after, hStats, Stats.add_def, Stats.ofCorpus, Stats.ofFiles, FileTree.isUnlistable_eq]
  · rw [hParsed, hFailed, hSkipped, ← length_corpus,
      length_eq_countP (config.extractPath tree) (corpus tree units)]
    simp only [UInt64.ofNat_add]
    ac_rfl
  · rw [show after.stats = _ from hStats, ← recordsEmitted_ofCorpus]
    rfl
  · rw [hRecords]
    simp only [mem_corpus_iff, mem_recordsFound_iff]
    grind
  · have hFiles : unit.files tree = .error cause := by
      rw [WorkUnit.files, FileTree.members, hCause]
      rfl
    rw [addUnit, hFiles]
  · rw [hError, addFile]
    split <;> rfl
  · obtain ⟨hOtherRecords, hOtherStats⟩ := foldl_addUnit_adds config tree others before
    have hFiles : (corpus tree others).Perm files := hPerm.flatMap_right _
    refine ⟨Std.HashSet.Equiv.of_forall_mem_iff fun record => ?_, ?_⟩
    · rw [hOtherRecords, hRecords]
      simp only [hFiles.mem_iff, files]
    · rw [hOtherStats, hStats, Stats.ofCorpus_perm hPerm]
  · obtain ⟨hAgainRecords, -⟩ := foldl_addUnit_adds config tree again after
    refine Std.HashSet.Equiv.of_forall_mem_iff fun record => ?_
    rw [hAgainRecords, hRecords]
    refine or_iff_left_of_imp fun hFound => .inr ?_
    obtain ⟨file, hFile, hRecord⟩ := hFound
    obtain ⟨unit, hUnit, hListed⟩ := List.mem_flatMap.1 hFile
    exact ⟨file, List.mem_flatMap.2 ⟨unit, hAgain unit hUnit, hListed⟩, hRecord⟩
  · have hSize := size_foldl_addUnit_le config tree units {}
    have hEmitted : (units.foldl (addUnit config tree) {}).stats.recordsEmitted =
        .ofNat (emitted config tree files) := by
      rw [(foldl_addUnit_adds config tree units {}).2, Stats.zero_add, recordsEmitted_ofCorpus]
    rw [hEmitted, UInt64.toNat_ofNat', Nat.mod_eq_of_lt hFits]
    simpa using hSize

end Tally

end FunctionCatalog
