import FunctionCatalog.Proofs.Harvest.Reports
import FunctionCatalog.Proofs.Harvest.Step
import Mathlib

/-!
# Where units and reports are during a run

Every invariant of a run is stated against the events so far, and proved by one case for each thing
that can happen (`Run.induction`). Units are in the queue, with a worker or finished; reports are
handed in by workers that are gone, in the order in which they are collected; and what a worker has
tallied is the fold over the units that it has finished.

## Main results

* `Run.perm_units` — no unit is lost, doubled or put back.
* `Run.perm_gone` — the workers that are gone are those whose reports have been handed in.
* `Run.published_eq` — reports come out of the channel in the order in which they went in.
* `Run.tally_eq`, `Run.report_eq` — tallies and reports are folds over the units finished.
* `Run.length_add_weight` — every step brings a run closer to its end by one.
-/

namespace FunctionCatalog

namespace WorkerState

/-- The unit that a worker is at work on. -/
@[simp] def unit? : WorkerState → Option WorkUnit
  | busy unit _ => some unit
  | _ => none

/-- What a worker has tallied and not yet handed in. -/
@[simp] def tally? : WorkerState → Option Tally
  | ready tally | busy _ tally | drained tally => some tally
  | gone => none

/-- Whether a worker has handed in its report. -/
@[simp] def isGone : WorkerState → Bool
  | gone => true
  | _ => false

/-- Whether a worker has found the queue empty. -/
@[simp] def isDone : WorkerState → Bool
  | drained _ | gone => true
  | _ => false

/-- How many steps a worker takes from here on, and the collection of its report for it, when it
gets no further unit. -/
@[simp] def weight : WorkerState → Nat
  | busy .. => 4
  | ready _ => 3
  | drained _ => 2
  | gone => 0

theorem eq_gone_of_isGone {state : WorkerState} (h : state.isGone = true) : state = gone := by
  cases state <;> first | rfl | cases h

end WorkerState

namespace WorkEvent

/-- The unit that was finished, and by whom. -/
@[simp] def finished? : WorkEvent → Option (WorkerId × WorkUnit)
  | finished worker unit => some (worker, unit)
  | _ => none

/-- The report that was handed in. -/
@[simp] def published? : WorkEvent → Option Report
  | published report => some report
  | _ => none

/-- The report that was collected. -/
@[simp] def collected? : WorkEvent → Option Report
  | collected report => some report
  | _ => none

/-- Whether a worker has found the queue empty. -/
@[simp] def isEmptyClaim : WorkEvent → Bool
  | claimed _ none => true
  | _ => false

/-- Whether a worker has taken a unit. -/
@[simp] def isUnitClaim : WorkEvent → Bool
  | claimed _ (some _) => true
  | _ => false

end WorkEvent

namespace WorkSystem

variable {tally : Tally → WorkUnit → Tally} {pool : Pool} {units : List WorkUnit}
  {events : List WorkEvent} {event : WorkEvent} {system : WorkSystem}

/-! ## Views of states and of events -/

/-- The units that workers are at work on. -/
def inProgress (system : WorkSystem) : List WorkUnit :=
  system.workers.filterMap (·.2.unit?)

/-- The workers that have handed in their reports. -/
def gone (system : WorkSystem) : List WorkerId :=
  (system.workers.filter (·.2.isGone)).map Prod.fst

/-- The units that have been finished, each with the worker that did it. -/
def finishedUnits (events : List WorkEvent) : List (WorkerId × WorkUnit) :=
  events.filterMap WorkEvent.finished?

/-- The units that a worker has finished. -/
def unitsOf (worker : WorkerId) (events : List WorkEvent) : List WorkUnit :=
  ((finishedUnits events).filter (·.1 = worker)).map Prod.snd

/-- The reports that have been handed in. -/
def published (events : List WorkEvent) : List Report :=
  events.filterMap WorkEvent.published?

/-- The reports that have been collected. -/
def collected (events : List WorkEvent) : List Report :=
  events.filterMap WorkEvent.collected?

/-- How many steps are left when every unit that waits is taken by some worker. -/
def weight (system : WorkSystem) : Nat :=
  2 * system.queue.waiting.length + (system.workers.map (·.2.weight)).sum + system.inFlight.length

@[simp] theorem finishedUnits_concat :
    finishedUnits (events ++ [event]) = finishedUnits events ++ event.finished?.toList := by
  rw [finishedUnits, List.filterMap_append]
  cases event <;> rfl

@[simp] theorem published_concat :
    published (events ++ [event]) = published events ++ event.published?.toList := by
  rw [published, List.filterMap_append]
  cases event <;> rfl

@[simp] theorem collected_concat :
    collected (events ++ [event]) = collected events ++ event.collected?.toList := by
  rw [collected, List.filterMap_append]
  cases event <;> rfl

@[simp] theorem unitsOf_concat (worker : WorkerId) :
    unitsOf worker (events ++ [event]) =
      unitsOf worker events ++ (event.finished?.toList.filter (·.1 = worker)).map Prod.snd := by
  simp [unitsOf]

/-! ## Units -/

/-- Every unit is in the queue, with a worker, or finished. -/
theorem Run.perm_units (hRun : Run tally pool units events system) :
    units.Perm
      (system.queue.waiting ++ system.inProgress ++ (finishedUnits events).map Prod.snd) := by
  induction hRun using Run.induction with
  | start _ => simp [inProgress, finishedUnits, UnitQueue.ofList]
  | step _ hStep _ ih =>
      refine ih.trans (List.perm_iff_count.2 fun unit => ?_)
      cases hStep with
      | claim hSplit hWaiting =>
          simp [inProgress, hSplit, hWaiting, List.count_cons]
          omega
      | drain hSplit hWaiting => simp [inProgress, hSplit]
      | finish hSplit =>
          simp [inProgress, hSplit, List.count_cons]
          omega
      | publish hSplit hRoom => simp [inProgress, hSplit]
      | collect => simp [inProgress]

/-- A worker that finishes a unit is one of the pool. -/
theorem Run.finished_mem (hRun : Run tally pool units events system) :
    ∀ entry ∈ finishedUnits events, entry.1 ∈ pool.workers := by
  induction hRun using Run.induction with
  | start _ => simp [finishedUnits]
  | step hPrefix hStep _ ih =>
      cases hStep with
      | @finish front back worker before unit hSplit =>
          have hWorker : worker ∈ pool.workers := by
            rw [← hPrefix.ids_eq, ids, hSplit]
            simp
          simpa [or_imp, forall_and, hWorker] using ih
      | _ => simpa using ih

/-! ## Reports -/

/-- The channel holds what has been handed in and not been collected, in order. -/
theorem Run.published_eq (hRun : Run tally pool units events system) :
    published events = collected events ++ system.inFlight := by
  induction hRun using Run.induction with
  | start _ => rfl
  | step _ hStep _ ih =>
      cases hStep with
      | claim | drain | finish => simpa using ih
      | publish => simp [ih]
      | collect hInFlight => simp [ih, hInFlight]

/-- What has been collected is the union of the reports collected. -/
theorem Run.collection_eq (hRun : Run tally pool units events system) :
    system.collection = (collected events).foldl Collection.receive {} := by
  induction hRun using Run.induction with
  | start _ => rfl
  | step _ hStep _ ih =>
      cases hStep with
      | collect => simp [ih]
      | _ => simpa using ih

/-- The count of the reports collected is right. -/
theorem Run.received_eq (hRun : Run tally pool units events system) :
    system.collection.received = (collected events).length := by
  rw [hRun.collection_eq, (Collection.unites_foldl_receive _).received_eq]

/-- The workers that are gone are those whose reports have been handed in. -/
theorem Run.perm_gone (hRun : Run tally pool units events system) :
    ((published events).map Report.worker).Perm system.gone := by
  induction hRun using Run.induction with
  | start _ => simp [published, gone, List.filter_map, Function.comp_def]
  | step _ hStep _ ih =>
      cases hStep with
      | claim hSplit | drain hSplit | finish hSplit => simpa [gone, hSplit] using ih
      | publish hSplit hRoom =>
          simp only [gone, hSplit, List.filter_append, List.map_append] at ih
          simpa [gone] using (List.perm_append_singleton _ _).trans
            ((List.Perm.cons _ ih).trans List.perm_middle.symm)
      | collect => simpa [gone] using ih

private theorem Run.nodup_gone (hRun : Run tally pool units events system) : system.gone.Nodup :=
  hRun.nodup_ids.sublist (List.filter_sublist.map _)

/-- No worker has handed in two reports. -/
theorem Run.nodup_published (hRun : Run tally pool units events system) :
    ((published events).map Report.worker).Nodup :=
  hRun.perm_gone.nodup_iff.2 hRun.nodup_gone

/-- A worker has one state only. -/
theorem Run.state_unique (hRun : Run tally pool units events system) {worker : WorkerId}
    {state other : WorkerState} (h : (worker, state) ∈ system.workers)
    (hOther : (worker, other) ∈ system.workers) : state = other := by
  have hState := stateOf?_of_mem hRun.nodup_ids h
  rw [stateOf?_of_mem hRun.nodup_ids hOther] at hState
  exact (Option.some.inj hState).symm

/-! ## Tallies -/

/-- An entry after a step is the one that the step is about, or an entry of another worker that was
there before. -/
theorem mem_workers_of_split (hIds : system.ids.Nodup) {front back : List (WorkerId × WorkerState)}
    {worker other : WorkerId} {old state new : WorkerState}
    (hSplit : system.workers = front ++ (worker, old) :: back)
    (h : (other, state) ∈ front ++ (worker, new) :: back) :
    other = worker ∧ state = new ∨ other ≠ worker ∧ (other, state) ∈ system.workers := by
  obtain ⟨hNotFront, hNotBack⟩ := not_mem_of_split hIds hSplit
  rw [hSplit]
  rcases List.mem_append.1 h with hFront | hRest
  · refine .inr ⟨?_, List.mem_append_left _ hFront⟩
    exact fun hEq => hNotFront (List.mem_map.2 ⟨_, hFront, hEq⟩)
  · rcases List.mem_cons.1 hRest with hHead | hBack
    · cases hHead
      exact .inl ⟨rfl, rfl⟩
    · refine .inr ⟨?_, List.mem_append_right _ (List.mem_cons_of_mem _ hBack)⟩
      exact fun hEq => hNotBack (List.mem_map.2 ⟨_, hBack, hEq⟩)

/-- What a worker has tallied is the fold over the units that it has finished. -/
theorem Run.tally_eq (hRun : Run tally pool units events system) :
    ∀ worker state before, (worker, state) ∈ system.workers → state.tally? = some before →
      before = (unitsOf worker events).foldl tally {} := by
  induction hRun using Run.induction with
  | start _ =>
      intro worker state before hMem hTally
      obtain ⟨_, -, hEq⟩ := List.mem_map.1 hMem
      cases hEq
      cases hTally
      rfl
  | step hPrefix hStep _ ih =>
      intro other state before hMem hTally
      have hIds := hPrefix.nodup_ids
      cases hStep with
      | claim hSplit | drain hSplit =>
          rw [unitsOf_concat]
          rcases mem_workers_of_split hIds hSplit hMem with ⟨rfl, rfl⟩ | ⟨-, hOld⟩
          · cases hTally
            simpa using ih _ _ _ (mem_of_split hSplit) rfl
          · simpa using ih _ _ _ hOld hTally
      | finish hSplit =>
          rw [unitsOf_concat]
          rcases mem_workers_of_split hIds hSplit hMem with ⟨rfl, rfl⟩ | ⟨hNe, hOld⟩
          · cases hTally
            have hBefore := ih _ _ _ (mem_of_split hSplit) rfl
            simp [← hBefore]
          · simpa [Ne.symm hNe] using ih _ _ _ hOld hTally
      | publish hSplit hRoom =>
          rw [unitsOf_concat]
          rcases mem_workers_of_split hIds hSplit hMem with ⟨rfl, rfl⟩ | ⟨-, hOld⟩
          · cases hTally
          · simpa using ih _ _ _ hOld hTally
      | collect => simpa using ih _ _ _ hMem hTally

/-- A report that has been handed in is the fold over the units that its worker has finished. -/
theorem Run.report_eq (hRun : Run tally pool units events system) :
    ∀ report ∈ published events,
      report.tally = (unitsOf report.worker events).foldl tally {} := by
  induction hRun using Run.induction with
  | start _ => simp [published]
  | @step events _ _ _ hPrefix hStep _ ih =>
      intro report hMem
      cases hStep with
      | claim | drain | collect => simpa using ih report (by simpa using hMem)
      | @finish front back worker before unit hSplit =>
          have hReport : report ∈ published events := by simpa using hMem
          -- the worker is at work, and one that has handed in its report is not
          have hNe : worker ≠ report.worker := by
            intro hEq
            have hGone := hPrefix.perm_gone.mem_iff.1 (List.mem_map_of_mem hReport)
            obtain ⟨⟨id, state⟩, hEntry, hId⟩ := List.mem_map.1 hGone
            rw [List.mem_filter] at hEntry
            obtain rfl : id = worker := hId.trans hEq.symm
            rw [hPrefix.state_unique hEntry.1 (mem_of_split hSplit)] at hEntry
            exact Bool.noConfusion hEntry.2
          simpa [hNe] using ih report hReport
      | @publish front back worker final hSplit hRoom =>
          rw [published_concat, List.mem_append] at hMem
          rcases hMem with hOld | hNew
          · simpa using ih report hOld
          · simp only [WorkEvent.published?, Option.toList_some, List.mem_singleton] at hNew
            subst hNew
            simpa using hPrefix.tally_eq worker _ final (mem_of_split hSplit) rfl

/-! ## The end of the queue -/

/-- A worker that takes no more units has found the queue empty. -/
theorem Run.claimed_none_of_isDone (hRun : Run tally pool units events system) :
    ∀ worker state, (worker, state) ∈ system.workers → state.isDone = true →
      .claimed worker none ∈ events := by
  induction hRun using Run.induction with
  | start _ =>
      intro worker state hMem hDone
      obtain ⟨_, -, hEq⟩ := List.mem_map.1 hMem
      cases hEq
      cases hDone
  | step hPrefix hStep _ ih =>
      intro other state hMem hDone
      rw [List.mem_append]
      cases hStep with
      | claim hSplit | finish hSplit =>
          rcases mem_workers_of_split hPrefix.nodup_ids hSplit hMem with ⟨-, rfl⟩ | ⟨-, hOld⟩
          · cases hDone
          · exact .inl (ih other state hOld hDone)
      | drain hSplit =>
          rcases mem_workers_of_split hPrefix.nodup_ids hSplit hMem with ⟨rfl, -⟩ | ⟨-, hOld⟩
          · exact .inr (List.mem_singleton.2 rfl)
          · exact .inl (ih other state hOld hDone)
      | publish hSplit =>
          rcases mem_workers_of_split hPrefix.nodup_ids hSplit hMem with ⟨rfl, -⟩ | ⟨-, hOld⟩
          · exact .inl (ih _ _ (mem_of_split hSplit) rfl)
          · exact .inl (ih other state hOld hDone)
      | collect => exact .inl (ih other state hMem hDone)

/-- Once a worker has found the queue empty, it stays so. -/
theorem Run.waiting_eq_nil (hRun : Run tally pool units events system) :
    ∀ event ∈ events, event.isEmptyClaim = true → system.queue.waiting = [] := by
  induction hRun using Run.induction with
  | start _ => simp
  | step _ hStep _ ih =>
      intro event hMem hEmpty
      rw [List.mem_append, List.mem_singleton] at hMem
      cases hStep with
      | claim _ hWaiting =>
          rcases hMem with hOld | rfl
          · rw [ih event hOld hEmpty] at hWaiting
            cases hWaiting
          · cases hEmpty
      | drain _ hWaiting => exact hWaiting
      | finish | publish | collect =>
          rcases hMem with hOld | rfl
          · exact ih event hOld hEmpty
          · cases hEmpty

/-- Once a worker has found the queue empty, none takes a unit any more. -/
theorem Run.pairwise_claims (hRun : Run tally pool units events system) :
    events.Pairwise fun earlier later =>
      earlier.isEmptyClaim = true → later.isUnitClaim = false := by
  induction hRun using Run.induction with
  | start _ => exact List.Pairwise.nil
  | step hPrefix hStep _ ih =>
      refine List.pairwise_append.2 ⟨ih, List.pairwise_singleton .., ?_⟩
      intro earlier hMem later hLater hEmpty
      rw [List.mem_singleton] at hLater
      subst hLater
      cases hStep with
      | claim _ hWaiting =>
          rw [hPrefix.waiting_eq_nil earlier hMem hEmpty] at hWaiting
          cases hWaiting
      | _ => rfl

/-- A report is handed in only after its worker has found the queue empty. -/
theorem Run.claimed_none_before (hRun : Run tally pool units events system) :
    ∀ before report after, events = before ++ .published report :: after →
      .claimed report.worker none ∈ before := by
  induction hRun using Run.induction with
  | start _ =>
      intro before report after hEq
      exact absurd hEq.symm (by simp)
  | step hPrefix hStep _ ih =>
      intro before report after hEq
      rcases List.eq_nil_or_concat after with rfl | ⟨front, last, rfl⟩
      · obtain ⟨rfl, hLast⟩ := List.append_inj' hEq rfl
        obtain rfl := (List.cons.inj hLast).1
        cases hStep with
        | publish hSplit => exact hPrefix.claimed_none_of_isDone _ _ (mem_of_split hSplit) rfl
      · rw [List.concat_eq_append, ← List.cons_append, ← List.append_assoc] at hEq
        exact ih before report front (List.append_inj_left' hEq rfl)

/-! ## Progress -/

/-- Every step brings a run closer to its end by one. -/
theorem Run.length_add_weight (hRun : Run tally pool units events system) :
    events.length + system.weight = 2 * units.length + 3 * pool.workers.length := by
  induction hRun using Run.induction with
  | start _ => simp [weight, UnitQueue.ofList, Function.comp_def, Nat.mul_comm]
  | step _ hStep _ ih =>
      cases hStep with
      | claim hSplit hWaiting =>
          simp [weight, hSplit, hWaiting] at ih ⊢
          omega
      | drain hSplit | finish hSplit | publish hSplit =>
          simp [weight, hSplit] at ih ⊢
          omega
      | collect hInFlight =>
          simp [weight, hInFlight] at ih ⊢
          omega

end WorkSystem

end FunctionCatalog
