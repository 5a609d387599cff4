import FunctionCatalog.Harvest.System
import Mathlib.Data.List.Nodup

/-!
# Steps of workers at work

`WorkSystem.after?` looks a worker up by its id and notes its new state at every entry with that id.
As long as no id stands twice, a step changes one entry of the list of workers and leaves those in
front of it and behind it alone. `Step` says so once for each of the five things that can happen,
and everything that is proved of runs is proved by cases on it.

## Main results

* `step_of_after?` — every step that can be taken is one of the five.
* `Run.induction` — what holds at the start and is kept by each of the five holds in every run.
* `claim_enabled`, `finish_enabled`, `publish_enabled`, `collect_enabled` — when a step can be
  taken.
-/

namespace FunctionCatalog

namespace Pool

/-- The workers of a pool have different ids. -/
theorem nodup_workers (pool : Pool) : pool.workers.Nodup := by
  refine List.nodup_flatMap.2 ⟨fun outer _ => ?_, ?_⟩
  · refine List.Nodup.map (fun a b hEq => ?_) List.nodup_range
    exact (WorkerId.mk.inj hEq).2
  · refine List.Pairwise.imp (fun {a b} hNe => ?_) List.nodup_range
    intro worker hA hB
    obtain ⟨_, _, rfl⟩ := List.mem_map.1 hA
    obtain ⟨_, _, hEq⟩ := List.mem_map.1 hB
    exact hNe (WorkerId.mk.inj hEq).1.symm

end Pool

namespace WorkSystem

variable {tally : Tally → WorkUnit → Tally} {pool : Pool} {units : List WorkUnit}
  {expected : Nat} {system next : WorkSystem} {event : WorkEvent}

/-! ## Entries of workers -/

/-- The ids of the workers. -/
def ids (system : WorkSystem) : List WorkerId :=
  system.workers.map Prod.fst

@[simp] theorem ids_setState (worker : WorkerId) (state : WorkerState) :
    (system.setState worker state).ids = system.ids := by
  simp [ids, setState, Function.comp_def]

/-- The entry of a worker is its only one. -/
theorem not_mem_of_split (hIds : system.ids.Nodup) {front back : List (WorkerId × WorkerState)}
    {worker : WorkerId} {state : WorkerState}
    (hSplit : system.workers = front ++ (worker, state) :: back) :
    worker ∉ front.map Prod.fst ∧ worker ∉ back.map Prod.fst := by
  rw [ids, hSplit, List.map_append, List.map_cons, List.nodup_append, List.nodup_cons] at hIds
  obtain ⟨-, ⟨hBack, -⟩, hDisjoint⟩ := hIds
  exact ⟨fun hMem => hDisjoint worker hMem worker (List.mem_cons_self ..) rfl, hBack⟩

private theorem map_setState_of_not_mem {entries : List (WorkerId × WorkerState)}
    {worker : WorkerId} (state : WorkerState) (h : worker ∉ entries.map Prod.fst) :
    (entries.map fun (id, old) => (id, if id = worker then state else old)) = entries := by
  refine (List.map_congr_left fun entry hEntry => ?_).trans (List.map_id _)
  have hNe : entry.1 ≠ worker := fun hEq => h (List.mem_map.2 ⟨entry, hEntry, hEq⟩)
  simp [hNe]

/-- Noting a worker's new state changes its own entry only. -/
theorem setState_eq (hIds : system.ids.Nodup) {front back : List (WorkerId × WorkerState)}
    {worker : WorkerId} {old : WorkerState}
    (hSplit : system.workers = front ++ (worker, old) :: back) (state : WorkerState) :
    system.setState worker state =
      { system with workers := front ++ (worker, state) :: back } := by
  obtain ⟨hFront, hBack⟩ := not_mem_of_split hIds hSplit
  simp only [setState, hSplit, List.map_append, List.map_cons, if_pos,
    map_setState_of_not_mem state hFront, map_setState_of_not_mem state hBack]

private theorem exists_split_of_lookup {entries : List (WorkerId × WorkerState)}
    {worker : WorkerId} {state : WorkerState} (h : entries.lookup worker = some state) :
    ∃ front back, entries = front ++ (worker, state) :: back := by
  induction entries with
  | nil => cases h
  | cons entry rest ih =>
      obtain ⟨id, old⟩ := entry
      rw [List.lookup_cons] at h
      split at h
      · next hId =>
        rw [beq_iff_eq] at hId
        cases h
        exact ⟨[], rest, by rw [hId]; rfl⟩
      · obtain ⟨front, back, hRest⟩ := ih h
        exact ⟨(id, old) :: front, back, by rw [hRest]; rfl⟩

theorem mem_of_split {front back : List (WorkerId × WorkerState)}
    {entry : WorkerId × WorkerState} (hSplit : system.workers = front ++ entry :: back) :
    entry ∈ system.workers :=
  hSplit ▸ List.mem_append_right _ (List.mem_cons_self ..)

/-- A worker that is known has an entry. -/
theorem exists_split {worker : WorkerId} {state : WorkerState}
    (h : system.stateOf? worker = some state) :
    ∃ front back, system.workers = front ++ (worker, state) :: back :=
  exists_split_of_lookup h

private theorem lookup_of_mem {entries : List (WorkerId × WorkerState)} {worker : WorkerId}
    {state : WorkerState} (hIds : (entries.map Prod.fst).Nodup)
    (h : (worker, state) ∈ entries) : entries.lookup worker = some state := by
  induction entries with
  | nil => cases h
  | cons entry rest ih =>
      obtain ⟨id, old⟩ := entry
      rw [List.map_cons, List.nodup_cons] at hIds
      rcases List.mem_cons.1 h with hHead | hTail
      · cases hHead
        simp
      · have hNe : worker ≠ id := fun hEq =>
          hIds.1 (hEq ▸ List.mem_map.2 ⟨_, hTail, rfl⟩)
        rw [List.lookup_cons, beq_eq_false_iff_ne.2 hNe]
        exact ih hIds.2 hTail

/-- An entry says what its worker is doing. -/
theorem stateOf?_of_mem (hIds : system.ids.Nodup) {worker : WorkerId} {state : WorkerState}
    (h : (worker, state) ∈ system.workers) : system.stateOf? worker = some state :=
  lookup_of_mem hIds h

/-! ## What a step is -/

/-- The five things that can happen. -/
inductive Step (tally : Tally → WorkUnit → Tally) (expected : Nat) (system : WorkSystem) :
    WorkEvent → WorkSystem → Prop where
  /-- A worker takes the first unit of the queue. -/
  | claim {front back : List (WorkerId × WorkerState)} {worker : WorkerId} {before : Tally}
      {unit : WorkUnit} {rest : List WorkUnit} :
      system.workers = front ++ (worker, .ready before) :: back →
        system.queue.waiting = unit :: rest →
          Step tally expected system (.claimed worker (some unit))
            { system with
              queue := { system.queue with waiting := rest }
              workers := front ++ (worker, .busy unit before) :: back }
  /-- A worker finds the queue empty. -/
  | drain {front back : List (WorkerId × WorkerState)} {worker : WorkerId} {before : Tally} :
      system.workers = front ++ (worker, .ready before) :: back →
        system.queue.waiting = [] →
          Step tally expected system (.claimed worker none)
            { system with workers := front ++ (worker, .drained before) :: back }
  /-- A worker is done with its unit. -/
  | finish {front back : List (WorkerId × WorkerState)} {worker : WorkerId} {before : Tally}
      {unit : WorkUnit} :
      system.workers = front ++ (worker, .busy unit before) :: back →
        Step tally expected system (.finished worker unit)
          { system with workers := front ++ (worker, .ready (tally before unit)) :: back }
  /-- A worker hands in its report, for which there is room. -/
  | publish {front back : List (WorkerId × WorkerState)} {worker : WorkerId} {final : Tally} :
      system.workers = front ++ (worker, .drained final) :: back →
        system.inFlight.length < expected →
          Step tally expected system (.published ⟨worker, final⟩)
            { system with
              workers := front ++ (worker, .gone) :: back
              inFlight := system.inFlight ++ [⟨worker, final⟩] }
  /-- The first report in the channel is collected. -/
  | collect {report : Report} {rest : List Report} :
      system.inFlight = report :: rest → system.collection.received < expected →
        Step tally expected system (.collected report)
          { system with
            inFlight := rest
            collection := system.collection.receive report }

/-- Every step that can be taken is one of the five. -/
theorem step_of_after? (hIds : system.ids.Nodup) {action : WorkAction}
    (h : system.after? tally expected action = some (event, next)) :
    Step tally expected system event next := by
  cases action with
  | claim worker =>
      simp only [after?] at h
      split at h
      · next before hState =>
        obtain ⟨front, back, hSplit⟩ := exists_split hState
        cases hWaiting : system.queue.waiting with
        | nil =>
            simp only [UnitQueue.claim, hWaiting, Option.some.injEq, Prod.mk.injEq] at h
            obtain ⟨rfl, rfl⟩ := h
            rw [setState_eq hIds hSplit]
            exact Step.drain hSplit hWaiting
        | cons unit rest =>
            simp only [UnitQueue.claim, hWaiting, Option.some.injEq, Prod.mk.injEq] at h
            obtain ⟨rfl, rfl⟩ := h
            rw [setState_eq hIds hSplit]
            exact Step.claim hSplit hWaiting
      · cases h
  | finish worker =>
      simp only [after?] at h
      split at h
      · next unit before hState =>
        obtain ⟨front, back, hSplit⟩ := exists_split hState
        cases h
        rw [setState_eq hIds hSplit]
        exact Step.finish hSplit
      · cases h
  | publish worker =>
      simp only [after?] at h
      split at h
      · next final hState =>
        obtain ⟨front, back, hSplit⟩ := exists_split hState
        split at h
        · next hRoom =>
          cases h
          rw [setState_eq hIds hSplit]
          exact Step.publish hSplit hRoom
        · cases h
      · cases h
  | collect =>
      simp only [after?] at h
      split at h
      · cases h
      · next report rest hInFlight =>
        split at h
        · next hReceived =>
          cases h
          exact Step.collect hInFlight hReceived
        · cases h

/-- No step changes the ids of the workers. -/
theorem Step.ids_eq (h : Step tally expected system event next) : next.ids = system.ids := by
  cases h with
  | claim hSplit | drain hSplit | finish hSplit | publish hSplit => simp [ids, hSplit]
  | collect => rfl

/-! ## When a step can be taken -/

section Enabled

variable (tally : Tally → WorkUnit → Tally) (expected : Nat)

theorem claim_enabled (hIds : system.ids.Nodup) {worker : WorkerId} {before : Tally}
    (h : (worker, .ready before) ∈ system.workers) :
    (system.after? tally expected (.claim worker)).isSome := by
  simp only [after?, stateOf?_of_mem hIds h]
  split <;> rfl

theorem finish_enabled (hIds : system.ids.Nodup) {worker : WorkerId} {unit : WorkUnit}
    {before : Tally} (h : (worker, .busy unit before) ∈ system.workers) :
    (system.after? tally expected (.finish worker)).isSome := by
  simp only [after?, stateOf?_of_mem hIds h, Option.isSome_some]

theorem publish_enabled (hIds : system.ids.Nodup) {worker : WorkerId} {final : Tally}
    (h : (worker, .drained final) ∈ system.workers) (hRoom : system.inFlight.length < expected) :
    (system.after? tally expected (.publish worker)).isSome := by
  simp only [after?, stateOf?_of_mem hIds h, if_pos hRoom, Option.isSome_some]

theorem collect_enabled (hInFlight : system.inFlight ≠ [])
    (hReceived : system.collection.received < expected) :
    (system.after? tally expected .collect).isSome := by
  obtain ⟨report, rest, hEq⟩ := List.exists_cons_of_ne_nil hInFlight
  simp only [after?, hEq, if_pos hReceived, Option.isSome_some]

end Enabled

/-! ## Runs -/

private theorem eq_of_start? (h : start? pool units = some system) :
    pool.workers.length < UInt64.size ∧ system =
      { queue := .ofList units
        workers := pool.workers.map fun worker => (worker, .ready {}) } := by
  unfold start? at h
  split at h
  · next hFits => exact ⟨hFits, (Option.some.inj h).symm⟩
  · cases h

/-- Whatever happens, the workers are those of the pool. -/
theorem Run.ids_eq {events : List WorkEvent} (hRun : Run tally pool units events system) :
    system.ids = pool.workers := by
  induction hRun with
  | start h =>
      obtain ⟨-, rfl⟩ := eq_of_start? h
      simp [ids, Function.comp_def]
  | step action _ h ih =>
      have hIds := ih ▸ pool.nodup_workers
      rw [(step_of_after? hIds h).ids_eq, ih]

theorem Run.nodup_ids {events : List WorkEvent} (hRun : Run tally pool units events system) :
    system.ids.Nodup :=
  hRun.ids_eq ▸ pool.nodup_workers

/-- The pool of a run has no more workers than a word counts. -/
theorem Run.length_workers_lt {events : List WorkEvent}
    (hRun : Run tally pool units events system) : pool.workers.length < UInt64.size := by
  induction hRun with
  | start h => exact (eq_of_start? h).1
  | step _ _ _ ih => exact ih

/-- What holds at the start and is kept by every step holds in every run. -/
@[elab_as_elim]
theorem Run.induction
    {motive : ∀ system events, Run tally pool units events system → Prop}
    {events : List WorkEvent} (hRun : Run tally pool units events system)
    (start : ∀ h, motive
      { queue := .ofList units
        workers := pool.workers.map fun worker => (worker, .ready {}) } [] h)
    (step : ∀ {events system event next} (hPrefix : Run tally pool units events system)
      (_ : Step tally pool.size.toNat system event next) (h : _),
        motive system events hPrefix → motive next (events ++ [event]) h) :
    motive system events hRun := by
  induction hRun with
  | start h =>
      obtain ⟨-, rfl⟩ := eq_of_start? h
      exact start _
  | step action hPrefix h ih =>
      exact step hPrefix (step_of_after? hPrefix.nodup_ids h) _ ih

end WorkSystem

end FunctionCatalog
