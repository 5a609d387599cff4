import FunctionCatalog.Proofs.Extraction.ErrorIsolation
import FunctionCatalog.Proofs.Harvest.Schedule

/-!
# Harvests with and without recovery

Whether files with syntax errors are kept in part is decided file by file, and a file that strict
reading fails on is one that gave records with recovery, or that fails either way. So over a whole
corpus strict reading can only take records away and move files from the parsed to the failed ones.

## Main results

* `Config.corpus_strict` — the files of a corpus, counted with and without recovery.
* `Config.recovery_isolates_errors` — what syntax errors do to a tree, a file and a harvest.
-/

namespace FunctionCatalog

namespace Config

variable (config : Config) (tree : FileTree)

/-- The files that recovery keeps something of and strict reading fails on. -/
def isMoved (file : Path) : Bool :=
  (config.recovering.extractPath tree file).isOk && !(config.strict.extractPath tree file).isOk

private theorem isOk_recovering (file : Path) :
    (config.recovering.extractPath tree file).isOk =
      ((config.strict.extractPath tree file).isOk || config.isMoved tree file) := by
  rcases config.extractPath_strict tree file with hSame | ⟨hStrict, found, -, hFound⟩
  · simp [isMoved, hSame]
  · rw [isMoved, hStrict, hFound]
    rfl

private theorem isFailed_strict (file : Path) :
    isFailed (config.strict.extractPath tree file) =
      (isFailed (config.recovering.extractPath tree file) || config.isMoved tree file) := by
  rcases config.extractPath_strict tree file with hSame | ⟨hStrict, found, -, hFound⟩
  · simp [isMoved, hSame]
  · rw [isMoved, hStrict, hFound]
    rfl

private theorem isSkipped_strict (file : Path) :
    isSkipped (config.strict.extractPath tree file) =
      isSkipped (config.recovering.extractPath tree file) := by
  rcases config.extractPath_strict tree file with hSame | ⟨hStrict, found, -, hFound⟩
  · rw [hSame]
  · rw [hStrict, hFound]
    rfl

private theorem mem_recordsFound_recovering {file : Path} {record : FunctionRecord}
    (hRecord : record ∈ recordsFound (config.strict.extractPath tree file)) :
    record ∈ recordsFound (config.recovering.extractPath tree file) := by
  rcases config.extractPath_strict tree file with hSame | ⟨hStrict, found, -, hFound⟩
  · rwa [hSame] at hRecord
  · rw [hStrict] at hRecord
    exact absurd hRecord List.not_mem_nil

/-- Items with one property or the other are counted one by one, if none has both. -/
theorem countP_eq_add {α : Type} {p q r : α → Bool} (hEither : ∀ item, p item = (q item || r item))
    (hNotBoth : ∀ item, r item = true → q item = false) (items : List α) :
    items.countP p = items.countP q + items.countP r := by
  induction items with
  | nil => rfl
  | cons item rest ih =>
      have hItem := hEither item
      cases hSecond : r item with
      | true =>
          have hFirst := hNotBoth item hSecond
          rw [hFirst, hSecond] at hItem
          simp [hItem, hFirst, hSecond, ih]
          omega
      | false =>
          rw [hSecond, Bool.or_false] at hItem
          cases hFirst : q item <;> simp [hItem, hFirst, hSecond, ih]
          omega

private theorem countP_isOk_add_countP_isFailed_le {α : Type}
    (result : α → Except ExtractionError (List FunctionRecord)) (files : List α) :
    files.countP (fun file => (result file).isOk)
      + files.countP (fun file => isFailed (result file)) ≤ files.length := by
  rw [← countP_eq_add (fun _ => rfl) ?_ files]
  · exact List.countP_le_length
  · intro file hFailed
    cases hResult : result file with
    | ok found => simp [hResult, isFailed] at hFailed
    | error error => rfl

/-- Strict reading moves files from the parsed to the failed ones, and does nothing else. -/
theorem corpus_strict (files : List Path) :
    files.countP (fun file => (config.recovering.extractPath tree file).isOk) =
        files.countP (fun file => (config.strict.extractPath tree file).isOk)
          + files.countP (config.isMoved tree) ∧
      files.countP (fun file => isFailed (config.strict.extractPath tree file)) =
        files.countP (fun file => isFailed (config.recovering.extractPath tree file))
          + files.countP (config.isMoved tree) ∧
      files.countP (fun file => isSkipped (config.strict.extractPath tree file)) =
        files.countP (fun file => isSkipped (config.recovering.extractPath tree file)) := by
  refine ⟨countP_eq_add (config.isOk_recovering tree) ?_ files,
    countP_eq_add (config.isFailed_strict tree) ?_ files, ?_⟩
  · intro file hMoved
    simp only [isMoved, Bool.and_eq_true, Bool.not_eq_true'] at hMoved
    exact hMoved.2
  · intro file hMoved
    simp only [isMoved, Bool.and_eq_true] at hMoved
    cases hResult : config.recovering.extractPath tree file with
    | ok found => rfl
    | error error => simp [hResult, Except.isOk, Except.toBool] at hMoved
  · simp only [config.isSkipped_strict tree]

/-- Harvests with and without recovery. The counts are words, so they are those of the files up to
the size of a word. -/
theorem harvest_strict (root : Path) {pool : Pool} (hFits : pool.workers.length < UInt64.size) :
    (∃ error, harvest config.recovering tree root pool = .error error ∧
      harvest config.strict tree root pool = .error error) ∨
    ∃ (units : List WorkUnit) (all kept : RecordSet) (summary : Summary)
        (parsed failed moved : Nat),
      tree.units root = .ok units ∧ parsed + moved + failed ≤ (corpus tree units).length ∧
      harvest config.recovering tree root pool =
        .ok (all, { summary with
          filesParsed := (parsed + moved) % UInt64.size
          filesFailed := failed % UInt64.size
          records := all.size }) ∧
      harvest config.strict tree root pool =
        .ok (kept, { summary with
          filesParsed := parsed % UInt64.size
          filesFailed := (failed + moved) % UInt64.size
          records := kept.size }) ∧
      ∀ record ∈ kept, record ∈ all := by
  cases hUnits : tree.units root with
  | error error =>
      refine .inl ⟨error, ?_, ?_⟩ <;>
        · rw [harvest, hUnits]
          rfl
  | ok units =>
      obtain ⟨whole, hWhole, hWholeAll, hRecovering⟩ :=
        exists_harvest_eq config.recovering hUnits hFits
      obtain ⟨part, hPart, hPartAll, hStrict⟩ := exists_harvest_eq config.strict hUnits hFits
      obtain ⟨hParsed, hFailed, hSkipped⟩ := config.corpus_strict tree (corpus tree units)
      rw [Summary.ofCollection_eq hWhole hWholeAll, hParsed] at hRecovering
      rw [Summary.ofCollection_eq hPart hPartAll, hFailed, hSkipped] at hStrict
      have hBound := countP_isOk_add_countP_isFailed_le (config.recovering.extractPath tree)
        (corpus tree units)
      rw [hParsed] at hBound
      let summary : Summary :=
        { units := units.length
          workers := pool.size.toNat
          unitsFailed := units.countP (·.isUnlistable tree) % UInt64.size
          filesParsed := 0
          filesFailed := 0
          filesSkipped := (corpus tree units).countP
            (fun file => isSkipped (config.recovering.extractPath tree file)) % UInt64.size
          records := 0
          missingReports := 0 }
      refine .inr ⟨units, _, _, summary, _, _, _, rfl, hBound, hRecovering, hStrict, ?_⟩
      intro record hRecord
      obtain ⟨file, hFile, hFound⟩ := (hPart.mem_records record).1 hRecord
      exact (hWhole.mem_records record).2
        ⟨file, hFile, config.mem_recordsFound_recovering tree hFound⟩

/-- **Syntax errors are isolated**: what has an error adds nothing to a tree, a file with errors
gives what the rest of it gives, and strict reading only removes records and fails files. -/
theorem recovery_isolates_errors :
    -- a tree is as good as without its erroneous items, for the names known at its end as well
    (∀ (source : Bytes) (root : Node) (naming : Naming),
      root.withoutErrors.namedChildren.flatMap Node.topLevel =
          (root.namedChildren.flatMap Node.topLevel).filter (fun node => !node.hasError) ∧
        (root.withoutErrors.walkItems source naming).outline =
          (root.walkItems source naming).outline) ∧
    -- a file with errors gives what is left of it, and one without errors gives the same either way
    (∀ (path : Path) (source : Source) (lang : Language) (root : Node),
      config.languageFor? path = some lang → source.tree? = some root →
        let kept := config.recordsOfTree lang (maskLinkageGuards source.bytes) root.withoutErrors
        (root.hasError = true →
          ((∃ records, config.recovering.extractFile path source = .ok records) ↔ kept ≠ []) ∧
          (∀ records, config.recovering.extractFile path source = .ok records →
            records.map FunctionRecord.prototype = kept.map FunctionRecord.prototype) ∧
          (kept = [] → config.recovering.extractFile path source = .error (.malformed path)) ∧
          config.strict.extractFile path source = .error (.malformed path)) ∧
        (root.hasError = false →
          config.strict.extractFile path source = config.recovering.extractFile path source)) ∧
    -- file by file, strict reading is at most a failure more
    (∀ (tree : FileTree) (file : Path),
      config.strict.extractPath tree file = config.recovering.extractPath tree file ∨
        config.strict.extractPath tree file = .error (.malformed file) ∧
          ∃ found, found ≠ [] ∧ config.recovering.extractPath tree file = .ok found) ∧
    -- so over a corpus it removes records, and moves files from the parsed to the failed ones
    (∀ (tree : FileTree) (root : Path) (pool : Pool), pool.workers.length < UInt64.size →
      (∃ error, harvest config.recovering tree root pool = .error error ∧
        harvest config.strict tree root pool = .error error) ∨
      ∃ (units : List WorkUnit) (all kept : RecordSet) (summary : Summary)
          (parsed failed moved : Nat),
        tree.units root = .ok units ∧ parsed + moved + failed ≤ (corpus tree units).length ∧
        harvest config.recovering tree root pool =
          .ok (all, { summary with
            filesParsed := (parsed + moved) % UInt64.size
            filesFailed := failed % UInt64.size
            records := all.size }) ∧
        harvest config.strict tree root pool =
          .ok (kept, { summary with
            filesParsed := parsed % UInt64.size
            filesFailed := (failed + moved) % UInt64.size
            records := kept.size }) ∧
        ∀ record ∈ kept, record ∈ all) := by
  refine ⟨fun source root naming => ⟨Node.topLevel_prunedAmong root.children,
      root.outline_withoutErrors naming⟩, ?_, config.extractPath_strict,
    fun tree root pool hFits => config.harvest_strict tree root hFits⟩
  intro path source lang root hLang hTree kept
  constructor
  · intro hError
    obtain ⟨hSucceeds, hRecords, hFails⟩ := extractFile_isolated hLang hTree hError
    refine ⟨hSucceeds, hRecords, hFails, ?_⟩
    rw [extractFile_strict hLang hTree, if_pos hError]
  · intro hClean
    rw [extractFile_strict hLang hTree, extractFile_recovering hLang hTree, hClean]
    rfl

end Config

end FunctionCatalog
