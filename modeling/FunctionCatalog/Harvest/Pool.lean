import FunctionCatalog.FileTree.Basic

/-!
# Pools of workers

A pool has a number of outer contexts with a number of workers in each. Only the product counts for
the work; a worker is named by its place in the grid.

The numbers are words of 64 bits, and so is the product. Where that word is too small for all the
workers, it holds the remainder; `toNat_size` says when it is not.
-/

namespace FunctionCatalog

/-! ## Errors of a harvest

What stops a harvest before any file is read. What goes wrong with a single unit or file is counted
and stops nothing. -/

/-- Why there is no harvest. -/
inductive HarvestError where
  /-- The root is no directory. -/
  | noRoot (root : Path)
  /-- The output cannot be written. -/
  | noOutput (output : Path) (cause : FileError)
  /-- One of the two numbers that shape a pool is zero. -/
  | noWorkers (processes threads : UInt64)
deriving DecidableEq, Repr

namespace HarvestError

/-- The text of an error. -/
def message : HarvestError → String
  | noRoot root => "Cannot read input root " ++ root.quoted ++ ": not a directory"
  | noOutput output cause =>
    "Cannot write output file " ++ output.quoted ++ ": " ++ cause.message
  | noWorkers processes threads =>
    "Invalid worker configuration: need at least one process and one thread " ++
      s!"(got {processes} x {threads})"

/-- The error of the file system behind an error. -/
def cause? : HarvestError → Option FileError
  | noOutput _ cause => some cause
  | _ => none

end HarvestError

/-! ## Pools -/

/-- The shape of a pool. -/
structure Pool where
  /-- The number of outer contexts. -/
  processes : UInt64
  /-- The number of workers in each of them. -/
  threads : UInt64
  processes_pos : 0 < processes
  threads_pos : 0 < threads
deriving DecidableEq, Repr

/-- The place of a worker in its pool. -/
structure WorkerId where
  /-- The outer context. -/
  outer : Nat
  /-- The place in the context. -/
  inner : Nat
deriving DecidableEq, Repr

namespace Pool

/-- The pool of a shape, which has to have a worker. -/
def ofCounts (processes threads : UInt64) : Except HarvestError Pool :=
  if h : 0 < processes ∧ 0 < threads then .ok ⟨processes, threads, h.1, h.2⟩
  else .error (.noWorkers processes threads)

/-- The number of workers, as a word. -/
def size (pool : Pool) : UInt64 :=
  pool.processes * pool.threads

/-- The workers of a pool. -/
def workers (pool : Pool) : List WorkerId :=
  (List.range pool.processes.toNat).flatMap fun outer =>
    (List.range pool.threads.toNat).map fun inner => ⟨outer, inner⟩

theorem length_workers (pool : Pool) :
    pool.workers.length = pool.processes.toNat * pool.threads.toNat := by
  simp [workers, List.length_flatMap, List.map_const']

/-- There is at least one worker. -/
theorem length_workers_pos (pool : Pool) : 0 < pool.workers.length := by
  rw [length_workers]
  exact Nat.mul_pos (UInt64.lt_iff_toNat_lt.1 pool.processes_pos)
    (UInt64.lt_iff_toNat_lt.1 pool.threads_pos)

/-- The word holds the number of workers, if that number has 64 bits. -/
theorem toNat_size (pool : Pool) (h : pool.workers.length < UInt64.size) :
    pool.size.toNat = pool.workers.length := by
  rw [length_workers] at h ⊢
  rw [size, UInt64.toNat_mul]
  exact Nat.mod_eq_of_lt h

end Pool

end FunctionCatalog
