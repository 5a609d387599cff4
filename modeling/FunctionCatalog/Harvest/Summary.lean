import FunctionCatalog.Harvest.Collection

/-!
# A harvest

The records of all units of a root, and how many units and files there were. The units are dealt out
to the workers of a pool in turn. Which worker gets which unit makes no difference to what comes
out.
-/

namespace FunctionCatalog

/-- How much there was to a harvest. -/
structure Summary where
  /-- The units. -/
  units : Nat
  /-- The workers. -/
  workers : Nat
  /-- The units that could not be listed. -/
  unitsFailed : Nat
  /-- The files that gave records. -/
  filesParsed : Nat
  /-- The files that could not be read or have syntax errors. -/
  filesFailed : Nat
  /-- The files that no grammar is configured for. -/
  filesSkipped : Nat
  /-- The distinct records, or once they are written, the distinct lines. -/
  records : Nat
  /-- The workers whose report did not come in. -/
  missingReports : Nat
deriving DecidableEq, Repr

/-- The summary of what a pool has collected from some units. -/
def Summary.ofCollection (pool : Pool) (units : List WorkUnit) (collection : Collection) :
    Summary where
  units := units.length
  workers := pool.size.toNat
  unitsFailed := collection.tally.stats.unitsFailed.toNat
  filesParsed := collection.tally.stats.filesParsed.toNat
  filesFailed := collection.tally.stats.filesFailed.toNat
  filesSkipped := collection.tally.stats.filesSkipped.toNat
  records := collection.tally.records.size
  missingReports := collection.missing pool.size.toNat

/-- The share of the `turn`-th of `number` receivers, when items are dealt out in turn. -/
def share {α : Type} (number turn : Nat) (items : List α) : List α :=
  (items.zipIdx.filter fun (_, place) => place % number = turn).map Prod.fst

/-- The report of each worker of a pool on its share of some units. -/
def Pool.reports (pool : Pool) (config : Config) (tree : FileTree) (units : List WorkUnit) :
    List Report :=
  let number := pool.workers.length
  pool.workers.zipIdx.map fun (worker, turn) =>
    ⟨worker, .ofUnits config tree (share number turn units)⟩

/-- The records of all units of a root, with a summary. -/
def harvest (config : Config) (tree : FileTree) (root : Path) (pool : Pool) :
    Except HarvestError (RecordSet × Summary) := do
  let units ← tree.units root
  let collection := Collection.ofReports pool.size.toNat (pool.reports config tree units)
  .ok (collection.tally.records, .ofCollection pool units collection)

end FunctionCatalog
