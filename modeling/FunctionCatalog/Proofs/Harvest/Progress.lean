import FunctionCatalog.Proofs.Harvest.Lifecycle

/-!
# Exactly once, and to the end

The count that the collector waits for and the room in the channel are one word, computed as a
product, while the workers come out of two nested loops and the reports out of the workers. That
these agree is what keeps a run from getting stuck: a worker that is done finds room for its report,
and collecting is over only when every worker has handed in its report.

## Main results

* `Run.room`, `Run.room_of_not_gone` — the channel is never too small.
* `Run.exists_enabled` — a run that is not over goes on.
* `Run.gone_of_isFinal` — a run that is over has left nothing behind.
* `Run.exists_final` — every run can be brought to its end.
* `Run.accounted` — all of it, for every state that a run leads to.
-/

namespace FunctionCatalog

namespace WorkSystem

variable {tally : Tally → WorkUnit → Tally} {pool : Pool} {units : List WorkUnit}
  {events : List WorkEvent} {system : WorkSystem}

/-! ## Room in the channel -/

/-- The word that the collector waits for is the number of workers. -/
theorem Run.size_eq (hRun : Run tally pool units events system) :
    pool.size.toNat = system.workers.length := by
  rw [pool.toNat_size hRun.length_workers_lt, ← hRun.ids_eq, ids, List.length_map]

/-- A worker that is gone has its report in the channel or in the collection. -/
theorem Run.length_gone (hRun : Run tally pool units events system) :
    system.gone.length = system.collection.received + system.inFlight.length := by
  have hGone := hRun.perm_gone.length_eq
  rw [List.length_map, hRun.published_eq, List.length_append, ← hRun.received_eq] at hGone
  exact hGone.symm

/-- There are no more reports than the channel has room for. -/
theorem Run.room (hRun : Run tally pool units events system) :
    system.inFlight.length + system.collection.received ≤ pool.size.toNat := by
  have hLe : system.gone.length ≤ system.workers.length := by
    rw [gone, List.length_map]
    exact List.length_filter_le ..
  rw [hRun.length_gone] at hLe
  rw [hRun.size_eq]
  omega

/-- As long as a worker has not handed in its report, there is room for it. -/
theorem Run.room_of_not_gone (hRun : Run tally pool units events system)
    {entry : WorkerId × WorkerState} (hMem : entry ∈ system.workers)
    (hState : entry.2.isGone = false) :
    system.inFlight.length + system.collection.received < pool.size.toNat := by
  have hLt : system.gone.length < system.workers.length := by
    rw [gone, List.length_map, List.length_filter_lt_length_iff_exists]
    exact ⟨entry, hMem, Bool.not_eq_true _ ▸ hState⟩
  rw [hRun.length_gone] at hLt
  rw [hRun.size_eq]
  omega

/-- A worker that has found the queue empty can hand in its report. -/
theorem Run.publish_isSome (hRun : Run tally pool units events system) {worker : WorkerId}
    {final : Tally} (hMem : (worker, .drained final) ∈ system.workers) :
    (system.after? tally pool.size.toNat (.publish worker)).isSome := by
  have hRoom := hRun.room_of_not_gone hMem rfl
  exact publish_enabled _ _ hRun.nodup_ids hMem (by omega)

/-! ## Going on and coming to an end -/

/-- A run that is not over goes on. -/
theorem Run.exists_enabled (hRun : Run tally pool units events system)
    (hFinal : ¬ system.IsFinal pool.size.toNat) :
    ∃ action, (system.after? tally pool.size.toNat action).isSome := by
  rw [IsFinal, not_or, Nat.not_le, not_and] at hFinal
  obtain ⟨hReceived, hOpen⟩ := hFinal
  by_cases hInFlight : system.inFlight = []
  · obtain ⟨⟨worker, state⟩, hMem, hState⟩ : ∃ entry ∈ system.workers, entry.2 ≠ .gone := by
      simpa using hOpen hInFlight
    cases state with
    | ready before => exact ⟨.claim worker, claim_enabled _ _ hRun.nodup_ids hMem⟩
    | busy unit before => exact ⟨.finish worker, finish_enabled _ _ hRun.nodup_ids hMem⟩
    | drained final => exact ⟨.publish worker, hRun.publish_isSome hMem⟩
    | gone => exact absurd rfl hState
  · exact ⟨.collect, collect_enabled _ _ hInFlight hReceived⟩

/-- A run that is over has left nothing behind: no report that is not handed in or not collected,
and no unit. -/
theorem Run.gone_of_isFinal (hRun : Run tally pool units events system)
    (hFinal : system.IsFinal pool.size.toNat) :
    (∀ entry ∈ system.workers, entry.2 = .gone) ∧ system.inFlight = [] ∧
      system.queue.waiting = [] := by
  have hGone : (∀ entry ∈ system.workers, entry.2 = .gone) ∧ system.inFlight = [] := by
    rcases hFinal with hReceived | ⟨hInFlight, hAll⟩
    · refine ⟨fun entry hMem => WorkerState.eq_gone_of_isGone ?_, ?_⟩
      · rw [← Bool.not_eq_false]
        intro hState
        have hRoom := hRun.room_of_not_gone hMem hState
        omega
      · have hRoom := hRun.room
        exact List.eq_nil_of_length_eq_zero (by omega)
    · exact ⟨hAll, hInFlight⟩
  refine ⟨hGone.1, hGone.2, ?_⟩
  -- a pool has a worker, which is gone because it found the queue empty
  have hPos : 0 < system.workers.length := by
    rw [← hRun.size_eq, pool.toNat_size hRun.length_workers_lt]
    exact pool.length_workers_pos
  obtain ⟨⟨worker, state⟩, hMem⟩ := List.exists_mem_of_length_pos hPos
  have hDone : state.isDone = true := by
    rw [show state = .gone from hGone.1 _ hMem]
    rfl
  exact hRun.waiting_eq_nil _ (hRun.claimed_none_of_isDone worker state hMem hDone) rfl

/-- A run that is over has collected a report from every worker. -/
theorem Run.received_of_isFinal (hRun : Run tally pool units events system)
    (hFinal : system.IsFinal pool.size.toNat) :
    system.collection.received = pool.size.toNat := by
  obtain ⟨hGone, hInFlight, -⟩ := hRun.gone_of_isFinal hFinal
  have hLength := hRun.length_gone
  have hAll : system.gone.length = system.workers.length := by
    rw [gone, List.length_map, List.length_filter_eq_length_iff]
    intro entry hMem
    rw [hGone entry hMem]
    rfl
  rw [hInFlight, hAll, ← hRun.size_eq] at hLength
  simpa using hLength.symm

/-- Every run can be brought to its end. -/
theorem Run.exists_final (hRun : Run tally pool units events system) :
    ∃ later final, Run tally pool units (events ++ later) final ∧
      final.IsFinal pool.size.toNat := by
  -- every step makes what is left smaller
  generalize hLeft : system.weight = left
  induction left using Nat.strongRecOn generalizing events system with
  | ind left ih =>
      by_cases hFinal : system.IsFinal pool.size.toNat
      · exact ⟨[], system, by simpa using hRun, hFinal⟩
      · obtain ⟨action, hSome⟩ := hRun.exists_enabled hFinal
        obtain ⟨⟨event, next⟩, hNext⟩ := Option.isSome_iff_exists.1 hSome
        have hStep := hRun.step action hNext
        have hBefore := hRun.length_add_weight
        have hAfter := hStep.length_add_weight
        rw [List.length_append, List.length_singleton] at hAfter
        obtain ⟨later, final, hLater, hEnd⟩ := ih next.weight (by omega) hStep rfl
        exact ⟨event :: later, final, by simpa using hLater, hEnd⟩

/-! ## Every state of every run -/

/-- What is true of every state that a run of a pool on some units leads to. -/
structure Accounted (tally : Tally → WorkUnit → Tally) (pool : Pool) (units : List WorkUnit)
    (events : List WorkEvent) (system : WorkSystem) : Prop where
  /-- Every unit is in the queue, with a worker, or finished, and in one of these places only. -/
  perm_units : units.Perm
    (system.queue.waiting ++ system.inProgress ++ (finishedUnits events).map Prod.snd)
  /-- A worker of the pool has finished each of the units that are finished. -/
  finished_mem : ∀ entry ∈ finishedUnits events, entry.1 ∈ pool.workers
  /-- The workers are those of the pool. -/
  workers_eq : system.workers.map Prod.fst = pool.workers
  /-- They have different ids. -/
  nodup_workers : pool.workers.Nodup
  /-- There are as many as the word says that the collector waits for, and the word is the product
  of the two numbers of the pool. -/
  length_workers : pool.workers.length = pool.size.toNat ∧
    pool.size.toNat = pool.processes.toNat * pool.threads.toNat
  /-- No worker has handed in two reports. -/
  nodup_published : ((published events).map Report.worker).Nodup
  /-- A worker that has handed in its report had found the queue empty before. -/
  claimed_none_before : ∀ before report after, events = before ++ .published report :: after →
    .claimed report.worker none ∈ before
  /-- Once a worker has found the queue empty, none takes a unit any more. -/
  pairwise_claims : events.Pairwise fun earlier later =>
    earlier.isEmptyClaim = true → later.isUnitClaim = false
  /-- The reports that are in the channel or collected are no more than those expected. -/
  room : system.inFlight.length + system.collection.received ≤ pool.size.toNat
  /-- A worker that is to hand in its report finds room for it. -/
  publish_isSome : ∀ worker final, (worker, .drained final) ∈ system.workers →
    (system.after? tally pool.size.toNat (.publish worker)).isSome
  /-- There is a step to take, unless collecting is over. -/
  exists_enabled : ¬ system.IsFinal pool.size.toNat →
    ∃ action, (system.after? tally pool.size.toNat action).isSome
  /-- When collecting is over, every worker has handed in its report, and it has been collected. -/
  gone_of_isFinal : system.IsFinal pool.size.toNat →
    (∀ entry ∈ system.workers, entry.2 = .gone) ∧ system.inFlight = []

/-- **Exactly once, and no deadlock.** Whatever the order of the steps, no unit and no report is
lost or doubled, the channel has room for every report, and the run goes on until all are
collected. -/
theorem Run.accounted (hRun : Run tally pool units events system) :
    Accounted tally pool units events system where
  perm_units := hRun.perm_units
  finished_mem := hRun.finished_mem
  workers_eq := hRun.ids_eq
  nodup_workers := pool.nodup_workers
  length_workers := by
    have hSize := pool.toNat_size hRun.length_workers_lt
    exact ⟨hSize.symm, hSize.trans pool.length_workers⟩
  nodup_published := hRun.nodup_published
  claimed_none_before := hRun.claimed_none_before
  pairwise_claims := hRun.pairwise_claims
  room := hRun.room
  publish_isSome := fun _ _ hMem => hRun.publish_isSome hMem
  exists_enabled := hRun.exists_enabled
  gone_of_isFinal := fun hFinal =>
    have hGone := hRun.gone_of_isFinal hFinal
    ⟨hGone.1, hGone.2.1⟩

/-- Two workers and one unit, where the second worker has handed in its report while the first one
is still at work. -/
theorem Run.accounted_one_busy :
    ∃ (pool : Pool) (units : List WorkUnit) (events : List WorkEvent) (system : WorkSystem),
      pool.workers.length = 2 ∧ units.length = 1 ∧ system.inFlight.length = 1 ∧
        Run (fun tally _ => tally) pool units events system ∧
        Accounted (fun tally _ => tally) pool units events system := by
  have hStart : Run (fun tally _ => tally) ⟨1, 2, by decide, by decide⟩ [⟨"a", ⟨"a"⟩⟩] [] _ :=
    .start rfl
  have hFirst := hStart.step (.claim ⟨0, 0⟩) rfl
  have hSecond := hFirst.step (.claim ⟨0, 1⟩) rfl
  have hThird := hSecond.step (.publish ⟨0, 1⟩) rfl
  exact ⟨_, _, _, _, rfl, rfl, rfl, hThird, Run.accounted hThird⟩

end WorkSystem

end FunctionCatalog
