import FunctionCatalog.Harvest.Collection
import FunctionCatalog.Harvest.Queue

/-!
# Workers at work

All that can happen while a pool works off a queue, one step at a time and in any order. A worker
takes a unit, tallies it, and comes back for the next one. Once it finds the queue empty it hands in
its report, and it is gone. Reports wait in a channel with room for one from each worker until they
are collected.

What is read does not change while the workers are at it, so tallying a unit is a function `tally`
of what the worker had before. A run keeps what has happened in it as a list of events.
-/

namespace FunctionCatalog

/-- What a worker is doing. -/
inductive WorkerState where
  /-- About to take a unit. -/
  | ready (tally : Tally)
  /-- At work on a unit. -/
  | busy (unit : WorkUnit) (tally : Tally)
  /-- The queue was empty, and the report is to be handed in. -/
  | drained (tally : Tally)
  /-- The report has been handed in. -/
  | gone

/-- The workers, the queue between them, and what they have handed in. -/
structure WorkSystem where
  /-- The queue. -/
  queue : UnitQueue
  /-- The workers. -/
  workers : List (WorkerId × WorkerState)
  /-- The reports that are in the channel, in order. -/
  inFlight : List Report := []
  /-- The reports that have been collected. -/
  collection : Collection := {}

/-- A step that can be asked for. -/
inductive WorkAction where
  /-- A worker goes to the queue. -/
  | claim (worker : WorkerId)
  /-- A worker is done with its unit. -/
  | finish (worker : WorkerId)
  /-- A worker hands in its report. -/
  | publish (worker : WorkerId)
  /-- The next report is collected. -/
  | collect
deriving DecidableEq, Repr

/-- What has happened in a step. -/
inductive WorkEvent where
  /-- A worker has gone to the queue, and this is what it got. -/
  | claimed (worker : WorkerId) (unit? : Option WorkUnit)
  /-- A worker has tallied a unit. -/
  | finished (worker : WorkerId) (unit : WorkUnit)
  /-- A report has been handed in. -/
  | published (report : Report)
  /-- A report has been collected. -/
  | collected (report : Report)

namespace WorkSystem

/-- The state at the start, when every worker of the pool is there. They are held in a list whose
length is a word, so a pool of more workers than that is never started. -/
def start? (pool : Pool) (units : List WorkUnit) : Option WorkSystem :=
  if pool.workers.length < UInt64.size then
    some {
      queue := .ofList units
      workers := pool.workers.map fun worker => (worker, .ready {}) }
  else none

/-- What a worker is doing. -/
def stateOf? (system : WorkSystem) (worker : WorkerId) : Option WorkerState :=
  system.workers.lookup worker

/-- Notes what a worker is doing from now on. -/
def setState (system : WorkSystem) (worker : WorkerId) (state : WorkerState) : WorkSystem :=
  { system with
    workers := system.workers.map fun (id, old) => (id, if id = worker then state else old) }

/-- What happens in a step and the state after it, if the step can be taken. There is one report for
each of `expected` workers to be collected, and as much room in the channel. -/
def after? (tally : Tally → WorkUnit → Tally) (expected : Nat) (system : WorkSystem) :
    WorkAction → Option (WorkEvent × WorkSystem)
  | .claim worker =>
    match system.stateOf? worker with
    | some (.ready before) =>
      match system.queue.claim with
      | (some unit, rest) =>
        some (.claimed worker (some unit),
          { system.setState worker (.busy unit before) with queue := rest })
      | (none, _) => some (.claimed worker none, system.setState worker (.drained before))
    | _ => none
  | .finish worker =>
    match system.stateOf? worker with
    | some (.busy unit before) =>
      some (.finished worker unit, system.setState worker (.ready (tally before unit)))
    | _ => none
  | .publish worker =>
    match system.stateOf? worker with
    | some (.drained final) =>
      if system.inFlight.length < expected then
        some (.published ⟨worker, final⟩,
          { system.setState worker .gone with inFlight := system.inFlight ++ [⟨worker, final⟩] })
      else none
    | _ => none
  | .collect =>
    match system.inFlight with
    | [] => none
    | report :: rest =>
      if system.collection.received < expected then
        some (.collected report,
          { system with inFlight := rest, collection := system.collection.receive report })
      else none

/-- Whether collecting is over: all expected reports have come in, or the channel is empty and no
worker is left to hand in another one. -/
def IsFinal (expected : Nat) (system : WorkSystem) : Prop :=
  expected ≤ system.collection.received ∨
    system.inFlight = [] ∧ ∀ entry ∈ system.workers, entry.2 = .gone

/-- The runs of a pool on some units: what has happened so far, the earliest first, and the state
that it has led to. -/
inductive Run (tally : Tally → WorkUnit → Tally) (pool : Pool) (units : List WorkUnit) :
    List WorkEvent → WorkSystem → Prop where
  /-- Nothing has happened yet. -/
  | start {system : WorkSystem} : start? pool units = some system → Run tally pool units [] system
  /-- One more step has been taken. -/
  | step {events : List WorkEvent} {system next : WorkSystem} {event : WorkEvent}
      (action : WorkAction) :
      Run tally pool units events system →
        system.after? tally pool.size.toNat action = some (event, next) →
          Run tally pool units (events ++ [event]) next

end WorkSystem

end FunctionCatalog
