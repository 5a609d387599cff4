import FunctionCatalog.Harvest.Summary
import Mathlib.Data.List.Induction
import Mathlib.Data.List.Perm.Basic

/-!
# What units add up to

The records and counts of some units, said without a worker, a report or an order: the files of all
units that can be listed, what each of them gives, and how many of them there are of each sort. A
tally `Summarizes` units if that is what it holds. Counting units one after the other comes to this,
and the union of reports keeps it, whichever set is the larger one; so any way to deal units out to
workers comes to the same.

## Main results

* `Tally.foldl_addUnit_adds` — what counting units adds to a tally.
* `Collection.summarizes_foldl_receive` — the union of reports holds what the reports hold.
* `Tally.Summarizes.perm` — the order of units makes no difference.
* `perm_flatMap_filter` — items that are dealt out by a key are all there.
-/

namespace FunctionCatalog

/-! ## Files and what they give -/

/-- The files of a unit. One that cannot be listed has none. -/
def WorkUnit.listed (tree : FileTree) (unit : WorkUnit) : List Path :=
  match unit.files tree with
  | .ok files => files
  | .error _ => []

/-- Whether a unit cannot be listed. -/
def WorkUnit.isUnlistable (tree : FileTree) (unit : WorkUnit) : Bool :=
  !(unit.files tree).isOk

/-- The files of some units. -/
def corpus (tree : FileTree) (units : List WorkUnit) : List Path :=
  units.flatMap (·.listed tree)

/-- The records that extraction gives. Where it fails, there are none. -/
def recordsFound : Except ExtractionError (List FunctionRecord) → List FunctionRecord
  | .ok found => found
  | .error _ => []

/-- Whether extraction passes a file over. -/
def isSkipped : Except ExtractionError (List FunctionRecord) → Bool
  | .ok _ => false
  | .error error => error.isSkip

/-- Whether extraction fails on a file. -/
def isFailed : Except ExtractionError (List FunctionRecord) → Bool
  | .ok _ => false
  | .error error => !error.isSkip

section Corpus

variable (config : Config) (tree : FileTree)

/-- The counts of some files. -/
def Stats.ofFiles (files : List Path) : Stats where
  filesParsed := .ofNat (files.countP fun file => (config.extractPath tree file).isOk)
  filesFailed := .ofNat (files.countP fun file => isFailed (config.extractPath tree file))
  filesSkipped := .ofNat (files.countP fun file => isSkipped (config.extractPath tree file))
  recordsEmitted := .ofNat
    (files.flatMap fun file => recordsFound (config.extractPath tree file)).length

/-- The counts of some units. -/
def Stats.ofCorpus (units : List WorkUnit) : Stats :=
  { units := .ofNat units.length
    unitsFailed := .ofNat (units.countP (·.isUnlistable tree)) }
    + Stats.ofFiles config tree (corpus tree units)

/-- What a tally of some units holds. -/
structure Tally.Summarizes (tally : Tally) (units : List WorkUnit) : Prop where
  /-- The records are those of the files. -/
  mem_records : ∀ record, record ∈ tally.records ↔
    ∃ file ∈ corpus tree units, record ∈ recordsFound (config.extractPath tree file)
  /-- The counts are those of the units and files. -/
  stats_eq : tally.stats = Stats.ofCorpus config tree units

end Corpus

theorem mem_corpus_iff {tree : FileTree} {units : List WorkUnit} {file : Path} :
    file ∈ corpus tree units ↔
      ∃ unit ∈ units, ∃ files, unit.files tree = .ok files ∧ file ∈ files := by
  simp only [corpus, List.mem_flatMap]
  refine exists_congr fun unit => and_congr_right fun _ => ?_
  cases hFiles : unit.files tree <;> simp [WorkUnit.listed, hFiles]

theorem mem_recordsFound_iff {result : Except ExtractionError (List FunctionRecord)}
    {record : FunctionRecord} :
    record ∈ recordsFound result ↔ ∃ found, result = .ok found ∧ record ∈ found := by
  cases result <;> simp [recordsFound]

namespace Config

variable {config : Config} {path : Path} {lang : Language} {source : Source} {root : Node}

/-- A file without syntax errors gives the records of its tree. -/
theorem extractFile_eq_ok (hLang : config.languageFor? path = some lang)
    (hTree : source.tree? = some root) (hError : root.hasError = false) :
    config.extractFile path source =
      .ok (config.recordsOfTree lang (maskLinkageGuards source.bytes) root) := by
  simp [extractFile, hLang, hTree, hError]

theorem extractPath_eq_ok {tree : FileTree} (hLang : config.languageFor? path = some lang)
    (hRead : tree.read path = .ok source) (hTree : source.tree? = some root)
    (hError : root.hasError = false) :
    config.extractPath tree path =
      .ok (config.recordsOfTree lang (maskLinkageGuards source.bytes) root) := by
  simp [extractPath, hLang, hRead, extractFile_eq_ok hLang hTree hError]

end Config

/-! ## Sums of counts -/

namespace Stats

variable (a b c : Stats)

theorem add_def : a + b =
    { units := a.units + b.units
      unitsFailed := a.unitsFailed + b.unitsFailed
      filesParsed := a.filesParsed + b.filesParsed
      filesFailed := a.filesFailed + b.filesFailed
      filesSkipped := a.filesSkipped + b.filesSkipped
      recordsEmitted := a.recordsEmitted + b.recordsEmitted } := rfl

theorem add_assoc : a + b + c = a + (b + c) := by
  simp [add_def, UInt64.add_assoc]

theorem add_comm : a + b = b + a := by
  simp [add_def, UInt64.add_comm]

instance : Std.Associative (fun a b : Stats => a + b) := ⟨add_assoc⟩

instance : Std.Commutative (fun a b : Stats => a + b) := ⟨add_comm⟩

@[simp] theorem zero_add : {} + a = a := by
  simp [add_def]

@[simp] theorem add_zero : a + {} = a := by
  simp [add_def]

variable {config : Config} {tree : FileTree}

@[simp] theorem ofFiles_nil : ofFiles config tree [] = {} := rfl

@[simp] theorem ofCorpus_nil : ofCorpus config tree [] = {} := rfl

private theorem ofFiles_append (front back : List Path) :
    ofFiles config tree (front ++ back) = ofFiles config tree front + ofFiles config tree back := by
  simp [ofFiles, add_def, List.countP_append]

private theorem ofFiles_perm {files others : List Path} (h : files.Perm others) :
    ofFiles config tree files = ofFiles config tree others := by
  have hRecords := (h.flatMap_right fun file =>
    recordsFound (config.extractPath tree file)).length_eq
  simp only [ofFiles, h.countP_eq, hRecords]

private theorem ofCorpus_append (front back : List WorkUnit) :
    ofCorpus config tree (front ++ back) =
      ofCorpus config tree front + ofCorpus config tree back := by
  have hUnits : ({
      units := .ofNat (front ++ back).length
      unitsFailed := .ofNat ((front ++ back).countP (·.isUnlistable tree)) } : Stats) =
      { units := .ofNat front.length, unitsFailed := .ofNat (front.countP (·.isUnlistable tree)) }
        + { units := .ofNat back.length
            unitsFailed := .ofNat (back.countP (·.isUnlistable tree)) } := by
    simp [add_def, List.countP_append]
  rw [ofCorpus, ofCorpus, ofCorpus, hUnits, corpus, List.flatMap_append, ofFiles_append]
  simp only [corpus]
  ac_rfl

theorem ofCorpus_perm {units others : List WorkUnit} (h : units.Perm others) :
    ofCorpus config tree units = ofCorpus config tree others := by
  rw [ofCorpus, ofCorpus, h.length_eq, h.countP_eq, corpus, corpus,
    ofFiles_perm (h.flatMap_right _)]

end Stats

/-! ## Tallies of units -/

namespace Tally

variable {config : Config} {tree : FileTree} {tally : Tally} {units : List WorkUnit}

private theorem mem_addFile (result : Except ExtractionError (List FunctionRecord))
    (record : FunctionRecord) :
    record ∈ (tally.addFile result).records ↔
      record ∈ tally.records ∨ record ∈ recordsFound result := by
  cases result with
  | ok found => simp [addFile, recordsFound]
  | error error =>
      simp only [addFile, recordsFound]
      split <;> simp

private theorem stats_addFile (file : Path) :
    (tally.addFile (config.extractPath tree file)).stats =
      tally.stats + Stats.ofFiles config tree [file] := by
  rw [Stats.ofFiles]
  cases hResult : config.extractPath tree file with
  | ok found =>
      simp [addFile, hResult, isFailed, isSkipped, recordsFound, Except.isOk, Except.toBool]
  | error error =>
      cases hSkip : error.isSkip <;>
        simp [addFile, hResult, hSkip, isFailed, isSkipped, recordsFound, Except.isOk,
          Except.toBool]

/-- Counting files one after the other. -/
theorem foldl_addFile (config : Config) (tree : FileTree) (files : List Path) (tally : Tally) :
    (∀ record, record ∈ (files.foldl (fun tally file =>
        tally.addFile (config.extractPath tree file)) tally).records ↔
      record ∈ tally.records ∨
        ∃ file ∈ files, record ∈ recordsFound (config.extractPath tree file)) ∧
    (files.foldl (fun tally file =>
        tally.addFile (config.extractPath tree file)) tally).stats =
      tally.stats + Stats.ofFiles config tree files := by
  induction files generalizing tally with
  | nil => simp
  | cons file rest ih =>
      obtain ⟨hRecords, hStats⟩ := ih (tally.addFile (config.extractPath tree file))
      constructor
      · intro record
        rw [List.foldl_cons, hRecords, mem_addFile, or_assoc, List.exists_mem_cons_iff]
      · rw [List.foldl_cons, hStats, stats_addFile, Stats.add_assoc, ← Stats.ofFiles_append]
        rfl

theorem summarizes_nil : Summarizes config tree {} [] where
  mem_records := by simp [corpus]
  stats_eq := rfl

private theorem ofCorpus_of_unlistable {unit : WorkUnit} (h : unit.isUnlistable tree = true)
    (hListed : unit.listed tree = []) :
    Stats.ofCorpus config tree [unit] = { units := 1, unitsFailed := 1 } := by
  simp [Stats.ofCorpus, corpus, h, hListed]

private theorem ofCorpus_of_listable {unit : WorkUnit} (h : unit.isUnlistable tree = false) :
    Stats.ofCorpus config tree [unit] =
      { units := 1 } + Stats.ofFiles config tree (unit.listed tree) := by
  simp [Stats.ofCorpus, corpus, h]

/-- Counting a unit adds the records of its files, and its counts. -/
theorem addUnit_adds (config : Config) (tree : FileTree) (tally : Tally) (unit : WorkUnit) :
    (∀ record, record ∈ (tally.addUnit config tree unit).records ↔
      record ∈ tally.records ∨
        ∃ file ∈ unit.listed tree, record ∈ recordsFound (config.extractPath tree file)) ∧
    (tally.addUnit config tree unit).stats =
      tally.stats + Stats.ofCorpus config tree [unit] := by
  cases hFiles : unit.files tree with
  | error error =>
      have hListed : unit.listed tree = [] := by rw [WorkUnit.listed, hFiles]
      have hUnlistable : unit.isUnlistable tree = true := by rw [WorkUnit.isUnlistable, hFiles]; rfl
      rw [Tally.addUnit, hFiles, ofCorpus_of_unlistable hUnlistable hListed, hListed]
      simp
  | ok files =>
      have hListed : unit.listed tree = files := by rw [WorkUnit.listed, hFiles]
      have hListable : unit.isUnlistable tree = false := by rw [WorkUnit.isUnlistable, hFiles]; rfl
      rw [Tally.addUnit, hFiles, ofCorpus_of_listable hListable, hListed, ← Stats.add_assoc]
      exact foldl_addFile config tree files { tally with stats := tally.stats + { units := 1 } }

/-- What counting units adds to a tally. -/
theorem foldl_addUnit_adds (config : Config) (tree : FileTree) (units : List WorkUnit)
    (before : Tally) :
    (∀ record, record ∈ (units.foldl (addUnit config tree) before).records ↔
      record ∈ before.records ∨
        ∃ file ∈ corpus tree units, record ∈ recordsFound (config.extractPath tree file)) ∧
    (units.foldl (addUnit config tree) before).stats =
      before.stats + Stats.ofCorpus config tree units := by
  induction units generalizing before with
  | nil => simp [corpus]
  | cons unit rest ih =>
      obtain ⟨hRecords, hStats⟩ := addUnit_adds config tree before unit
      obtain ⟨hRestRecords, hRestStats⟩ := ih (before.addUnit config tree unit)
      constructor
      · intro record
        have hCorpus : corpus tree (unit :: rest) = unit.listed tree ++ corpus tree rest :=
          List.flatMap_cons
        rw [List.foldl_cons, hRestRecords, hRecords, hCorpus]
        simp only [List.mem_append, or_and_right, exists_or, or_assoc]
      · rw [List.foldl_cons, hRestStats, hStats, Stats.add_assoc, ← Stats.ofCorpus_append]
        rfl

/-- A tally of some units. -/
theorem summarizes_foldl_addUnit (units : List WorkUnit) :
    Summarizes config tree (units.foldl (addUnit config tree) {}) units := by
  obtain ⟨hRecords, hStats⟩ := foldl_addUnit_adds config tree units {}
  exact ⟨fun record => (hRecords record).trans (or_iff_right Std.HashSet.not_mem_empty),
    hStats.trans (Stats.zero_add _)⟩

/-- The order of units makes no difference. -/
theorem Summarizes.perm (h : Summarizes config tree tally units) {others : List WorkUnit}
    (hPerm : units.Perm others) : Summarizes config tree tally others where
  mem_records := by
    intro record
    have hCorpus : (corpus tree units).Perm (corpus tree others) := hPerm.flatMap_right _
    rw [h.mem_records]
    exact exists_congr fun file => and_congr_left fun _ => hCorpus.mem_iff
  stats_eq := h.stats_eq.trans (Stats.ofCorpus_perm hPerm)

/-- Two tallies of the same units have the same set of records. -/
theorem Summarizes.records_equiv {other : Tally} (h : Summarizes config tree tally units)
    (hOther : Summarizes config tree other units) : tally.records.Equiv other.records :=
  Std.HashSet.Equiv.of_forall_mem_iff fun record => by
    rw [h.mem_records, hOther.mem_records]

end Tally

/-! ## The union of reports -/

/-- The union holds what one of the two sets holds, whichever is the larger one. -/
theorem RecordSet.mem_merge (a b : RecordSet) (record : FunctionRecord) :
    record ∈ RecordSet.merge a b ↔ record ∈ a ∨ record ∈ b := by
  unfold RecordSet.merge
  split
  · simp [or_comm]
  · simp

namespace Collection

variable {config : Config} {tree : FileTree}

/-- Taking in a report adds its units. -/
theorem summarizes_receive {collection : Collection} {report : Report}
    {units others : List WorkUnit} (h : collection.tally.Summarizes config tree units)
    (hReport : report.tally.Summarizes config tree others) :
    (collection.receive report).tally.Summarizes config tree (units ++ others) where
  mem_records := by
    intro record
    have hCorpus : corpus tree (units ++ others) = corpus tree units ++ corpus tree others :=
      List.flatMap_append
    simp only [receive, RecordSet.mem_merge, h.mem_records, hReport.mem_records, hCorpus,
      List.mem_append, or_and_right, exists_or]
  stats_eq := by
    rw [Stats.ofCorpus_append, ← h.stats_eq, ← hReport.stats_eq]
    rfl

/-- The union of reports on some shares is the tally of all of them. -/
theorem summarizes_foldl_receive {reports : List Report} {shares : List (List WorkUnit)}
    (h : List.Forall₂ (fun report share => report.tally.Summarizes config tree share)
      reports shares)
    {collection : Collection} {units : List WorkUnit}
    (hBefore : collection.tally.Summarizes config tree units) :
    (reports.foldl receive collection).tally.Summarizes config tree (units ++ shares.flatten) := by
  induction h generalizing collection units with
  | nil => simpa using hBefore
  | cons hReport _ ih =>
      rw [List.foldl_cons, List.flatten_cons, ← List.append_assoc]
      exact ih (summarizes_receive hBefore hReport)

end Collection

/-! ## Dealing out -/

/-- Items that are dealt out by a key are all there. -/
theorem perm_flatMap_filter {α β : Type} [DecidableEq β] (key : α → β) {keys : List β}
    (hKeys : keys.Nodup) {items : List α} (hItems : ∀ item ∈ items, key item ∈ keys) :
    (keys.flatMap fun k => items.filter (key · = k)).Perm items := by
  induction keys generalizing items with
  | nil =>
      rw [List.eq_nil_iff_forall_not_mem.2 fun item hItem => List.not_mem_nil (hItems item hItem)]
      exact .nil
  | cons k rest ih =>
      obtain ⟨hNew, hRest⟩ := List.nodup_cons.1 hKeys
      -- the items with another key are dealt out among the other keys
      have hOthers : (rest.flatMap fun k' => items.filter (key · = k')).Perm
          (items.filter fun item => !decide (key item = k)) := by
        have hItemsRest : ∀ item ∈ items.filter fun item => !decide (key item = k),
            key item ∈ rest := by
          intro item hItem
          simp only [List.mem_filter, Bool.not_eq_true', decide_eq_false_iff_not] at hItem
          exact (List.mem_cons.1 (hItems item hItem.1)).resolve_left hItem.2
        refine List.Perm.trans (List.Perm.of_eq ?_) (ih hRest hItemsRest)
        refine List.flatMap_congr fun k' hk' => ?_
        rw [List.filter_filter]
        refine List.filter_congr fun item _ => ?_
        have hNe : k' ≠ k := fun hEq => hNew (hEq ▸ hk')
        by_cases hItem : key item = k' <;> simp [hItem, hNe]
      rw [List.flatMap_cons]
      exact (hOthers.append_left _).trans (List.filter_append_perm _ items)

end FunctionCatalog
