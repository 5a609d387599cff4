import FunctionCatalog.Extraction.File
import FunctionCatalog.Harvest.Queue

/-!
# Tallies and reports

What has come out of some units: the set of their records, and how many units and files there were
and what became of them. A unit that cannot be listed and a file that gives no records are counted,
and that is all.

Every worker hands in one report. Reports are united in the order in which they come in, until as
many are there as were expected or no more are to come.
-/

namespace FunctionCatalog

/-! ## Tallies -/

/-- How many units and files there were. The numbers are words of 64 bits, so sums of them wrap
around. -/
@[ext]
structure Stats where
  /-- The units. -/
  units : UInt64 := 0
  /-- The units that could not be listed. -/
  unitsFailed : UInt64 := 0
  /-- The files that gave records, if only an empty list of them. -/
  filesParsed : UInt64 := 0
  /-- The files that could not be read or have syntax errors. -/
  filesFailed : UInt64 := 0
  /-- The files that no grammar is configured for. -/
  filesSkipped : UInt64 := 0
  /-- The records, with repetitions. -/
  recordsEmitted : UInt64 := 0
deriving DecidableEq, Repr

/-- The sum of two counts, number by number. -/
def Stats.add (a b : Stats) : Stats where
  units := a.units + b.units
  unitsFailed := a.unitsFailed + b.unitsFailed
  filesParsed := a.filesParsed + b.filesParsed
  filesFailed := a.filesFailed + b.filesFailed
  filesSkipped := a.filesSkipped + b.filesSkipped
  recordsEmitted := a.recordsEmitted + b.recordsEmitted

instance : Add Stats := ⟨Stats.add⟩

/-- What has come out of some units. -/
structure Tally where
  /-- The records. -/
  records : RecordSet := ∅
  /-- The counts. -/
  stats : Stats := {}

namespace Tally

/-- Counts a file. -/
def addFile (tally : Tally) :
    Except ExtractionError (List FunctionRecord) → Tally
  | .ok found =>
    { records := tally.records.insertMany found
      stats := tally.stats + { filesParsed := 1, recordsEmitted := .ofNat found.length } }
  | .error error =>
    if error.isSkip then { tally with stats := tally.stats + { filesSkipped := 1 } }
    else { tally with stats := tally.stats + { filesFailed := 1 } }

/-- Counts a unit, with its files. -/
def addUnit (config : Config) (tree : FileTree) (tally : Tally) (unit : WorkUnit) : Tally :=
  match unit.files tree with
  | .error _ => { tally with stats := tally.stats + { units := 1, unitsFailed := 1 } }
  | .ok files =>
    files.foldl (fun tally file => tally.addFile (config.extractPath tree file))
      { tally with stats := tally.stats + { units := 1 } }

/-- The tally of some units. -/
def ofUnits (config : Config) (tree : FileTree) (units : List WorkUnit) : Tally :=
  units.foldl (addUnit config tree) {}

end Tally

/-! ## Collecting -/

/-- What a worker hands in. -/
structure Report where
  /-- The worker. -/
  worker : WorkerId
  /-- What came out of its units. -/
  tally : Tally

/-- The union of two sets, where the smaller one is added to the larger one. -/
def RecordSet.merge (a b : RecordSet) : RecordSet :=
  if a.size < b.size then b.insertMany a.toList else a.insertMany b.toList

/-- What has been collected. -/
structure Collection where
  /-- What the reports have together. -/
  tally : Tally := {}
  /-- The number of reports. -/
  received : Nat := 0

namespace Collection

/-- Takes in a report. -/
def receive (collection : Collection) (report : Report) : Collection where
  tally := {
    records := RecordSet.merge collection.tally.records report.tally.records
    stats := collection.tally.stats + report.tally.stats }
  received := collection.received + 1

/-- The number of expected reports that have not come in. -/
def missing (collection : Collection) (expected : Nat) : Nat :=
  expected - collection.received

/-- Collects the expected number of reports, or as many as there are. -/
def ofReports (expected : Nat) (reports : List Report) : Collection :=
  (reports.take expected).foldl receive {}

end Collection

end FunctionCatalog
