import FunctionCatalog.FileTree.Access
import FunctionCatalog.Harvest.Pool

/-!
# Units of work and their queue

The work is cut up by directories: every directory right inside the root is a unit, and the files
right inside that directory are its files. Links count as what they lead to.

All units are in the queue before the first one is taken, and none is added later. So a receiver
that finds nothing knows that there will be nothing, and every unit is taken exactly once. The
receivers are numbered in the order in which they join.
-/

namespace FunctionCatalog

/-! ## Work units -/

/-- A directory whose files are read together. -/
structure WorkUnit where
  /-- The name of the directory in the root. -/
  name : String
  /-- The path of the directory. -/
  path : Path
deriving DecidableEq, Repr

namespace WorkUnit

/-- The unit of a name below a root. -/
def inRoot (root : Path) (name : String) : WorkUnit where
  name := name
  path := root.join name

/-- The paths of the files of a unit. -/
def files (tree : FileTree) (unit : WorkUnit) : Except FileError (List Path) := do
  .ok ((← tree.members unit.path).filterMap fun
    | (name, .file _ _) => some (unit.path.join name)
    | _ => none)

end WorkUnit

/-- The units of a root. -/
def FileTree.units (tree : FileTree) (root : Path) : Except HarvestError (List WorkUnit) :=
  match tree.isDirectory root, tree.members root with
  | true, .ok members =>
    .ok (members.filterMap fun
      | (name, .directory _) => some (.inRoot root name)
      | _ => none)
  | _, _ => .error (.noRoot root)

/-! ## The queue -/

/-- A queue that any number of receivers take units from. -/
structure UnitQueue where
  /-- The units that are left, in order. -/
  waiting : List WorkUnit
  /-- The number of receivers. -/
  receivers : Nat := 1
deriving DecidableEq, Repr

namespace UnitQueue

/-- The queue of the given units, with one receiver. -/
def ofList (units : List WorkUnit) : UnitQueue where
  waiting := units

/-- The number of units that are left. -/
def size (queue : UnitQueue) : Nat :=
  queue.waiting.length

/-- Whether no unit is left. -/
def isEmpty (queue : UnitQueue) : Bool :=
  queue.waiting.isEmpty

/-- A further receiver joins. -/
def join (queue : UnitQueue) : Nat × UnitQueue :=
  (queue.receivers, { queue with receivers := queue.receivers + 1 })

/-- The next unit, if there is one, and what is left. -/
def claim (queue : UnitQueue) : Option WorkUnit × UnitQueue :=
  match queue.waiting with
  | [] => (none, queue)
  | unit :: rest => (some unit, { queue with waiting := rest })

end UnitQueue

end FunctionCatalog
