import FunctionCatalog.Proofs.Harvest.Union
import Mathlib

/-!
# Reports in any order

When a report is taken in, the smaller of the two sets of records is added to the larger one, so
which set is added to which depends on what has come in before. What a collection holds does not: it
is the union of the sets and the sums of the counts, and taking in one more report keeps that. So
reports may come in in any order, and a report that does not come in is missed with its own records
and counts and nothing else.

## Main results

* `Unites.receive` — taking in a report adds its records and counts.
* `unites_ofReports` — a collection holds what the reports hold that were taken in.
* `Unites.alike` — collections of the same reports in different orders are alike.
* `ofReports_unites_and_sums` — records, counts and numbers of a collection, in any order.
-/

namespace FunctionCatalog

/-! ## The numbers of a count -/

namespace Stats

/-- The numbers that a count is made of. -/
def numbers : List (Stats → UInt64) :=
  [units, unitsFailed, filesParsed, filesFailed, filesSkipped, recordsEmitted]

private theorem forall_mem_numbers {P : (Stats → UInt64) → Prop} :
    (∀ number ∈ numbers, P number) ↔
      P units ∧ P unitsFailed ∧ P filesParsed ∧ P filesFailed ∧ P filesSkipped ∧
        P recordsEmitted := by
  simp [numbers]

/-- Counts are added number by number. -/
theorem number_add (a b : Stats) : ∀ number ∈ numbers, number (a + b) = number a + number b :=
  forall_mem_numbers.2 ⟨rfl, rfl, rfl, rfl, rfl, rfl⟩

/-- A count is known by its numbers. -/
theorem ext_numbers {a b : Stats} (h : ∀ number ∈ numbers, number a = number b) : a = b := by
  obtain ⟨hUnits, hUnitsFailed, hParsed, hFailed, hSkipped, hEmitted⟩ := forall_mem_numbers.1 h
  exact Stats.ext hUnits hUnitsFailed hParsed hFailed hSkipped hEmitted

end Stats

/-- The sum of words is what is left of the sum of the numbers that they are. -/
theorem toNat_sum (words : List UInt64) :
    words.sum.toNat = (words.map UInt64.toNat).sum % UInt64.size := by
  induction words with
  | nil => rfl
  | cons word rest ih =>
      rw [List.sum_cons, UInt64.toNat_add, ih, List.map_cons, List.sum_cons]
      exact Nat.add_mod_mod ..

/-! ## What a collection holds -/

namespace Collection

/-- A collection holds what some reports hold together. -/
structure Unites (collection : Collection) (reports : List Report) : Prop where
  /-- Its records are those of the reports. -/
  mem_records : ∀ record, record ∈ collection.tally.records ↔
    ∃ report ∈ reports, record ∈ report.tally.records
  /-- Its counts are the sums of theirs. -/
  number_eq : ∀ number ∈ Stats.numbers, number collection.tally.stats =
    (reports.map fun report => number report.tally.stats).sum
  /-- It has counted them. -/
  received_eq : collection.received = reports.length

variable {collection other : Collection} {reports others : List Report}

private theorem unites_nil : ({} : Collection).Unites [] where
  mem_records := by simp
  number_eq := Stats.forall_mem_numbers.2 ⟨rfl, rfl, rfl, rfl, rfl, rfl⟩
  received_eq := rfl

/-- Taking in a report adds its records and counts, whichever set is the larger one. -/
theorem Unites.receive (h : collection.Unites reports) (report : Report) :
    (collection.receive report).Unites (reports ++ [report]) where
  mem_records := by
    intro record
    rw [Collection.receive, RecordSet.mem_merge, h.mem_records]
    simp [or_and_right, exists_or]
  number_eq := by
    intro number hNumber
    rw [Collection.receive, Stats.number_add _ _ number hNumber, h.number_eq number hNumber]
    simp
  received_eq := by
    rw [Collection.receive, h.received_eq, List.length_append, List.length_singleton]

/-- Reports that are taken in one after the other are united. -/
theorem unites_foldl_receive (reports : List Report) :
    (reports.foldl Collection.receive {}).Unites reports := by
  induction reports using List.reverseRecOn with
  | nil => exact unites_nil
  | append_singleton front report ih =>
      rw [List.foldl_append]
      exact ih.receive report

/-- A collection holds what the reports hold that were taken in. -/
theorem unites_ofReports (expected : Nat) (reports : List Report) :
    (ofReports expected reports).Unites (reports.take expected) :=
  unites_foldl_receive _

theorem Unites.perm (h : collection.Unites reports) (hPerm : reports.Perm others) :
    collection.Unites others where
  mem_records := by
    intro record
    rw [h.mem_records]
    exact exists_congr fun report => and_congr_left fun _ => hPerm.mem_iff
  number_eq := fun number hNumber =>
    (h.number_eq number hNumber).trans (hPerm.map _).sum_eq
  received_eq := h.received_eq.trans hPerm.length_eq

/-- Collections of the same reports are alike. -/
theorem Unites.alike (h : collection.Unites reports) (hOther : other.Unites reports) :
    collection.tally.records.Equiv other.tally.records ∧
      collection.tally.stats = other.tally.stats ∧ collection.received = other.received := by
  refine ⟨Std.HashSet.Equiv.of_forall_mem_iff fun record => ?_,
    Stats.ext_numbers fun number hNumber => ?_, h.received_eq.trans hOther.received_eq.symm⟩
  · rw [h.mem_records, hOther.mem_records]
  · rw [h.number_eq number hNumber, hOther.number_eq number hNumber]

/-! ## Unions without a choice -/

private theorem mem_foldl_union {union : RecordSet} {reports : List Report}
    {record : FunctionRecord} :
    record ∈ reports.foldl (fun union report => union ∪ report.tally.records) union ↔
      record ∈ union ∨ ∃ report ∈ reports, record ∈ report.tally.records := by
  induction reports generalizing union with
  | nil => simp
  | cons report rest ih =>
      have hHead : record ∈ union ∪ report.tally.records ↔
          record ∈ union ∨ record ∈ report.tally.records := by
        simp only [Std.HashSet.mem_iff_contains, Std.HashSet.mem_union_iff]
      rw [List.foldl_cons, ih, hHead, or_assoc, List.exists_mem_cons_iff]

/-! ## Collecting -/

/-- **Reports are united and summed up**, whatever the order in which they come in. -/
theorem ofReports_unites_and_sums (expected : Nat) (reports : List Report) :
    let taken := reports.take expected
    let whole := ofReports expected reports
    -- the records are those of the reports taken in, as if all sets were united one by one
    (∀ record, record ∈ whole.tally.records ↔ ∃ report ∈ taken, record ∈ report.tally.records) ∧
    whole.tally.records.Equiv
      (taken.foldl (fun union report => union ∪ report.tally.records) ∅) ∧
    -- every number is the sum of those of the reports, as a word
    (∀ number ∈ Stats.numbers,
      number whole.tally.stats = (taken.map fun report => number report.tally.stats).sum ∧
      (number whole.tally.stats).toNat =
        (taken.map fun report => (number report.tally.stats).toNat).sum % UInt64.size) ∧
    -- no more reports are taken in than expected, and the others are missing
    whole.received = min expected reports.length ∧
    whole.received ≤ expected ∧ whole.received + whole.missing expected = expected ∧
    (reports.length ≤ expected →
      -- another order gives the same
      (∀ others : List Report, others.Perm reports →
        let again := ofReports expected others
        again.tally.records.Equiv whole.tally.records ∧ again.tally.stats = whole.tally.stats ∧
          again.received = whole.received ∧ again.missing expected = whole.missing expected) ∧
      -- reports that do not come in are missed with their own records and counts only
      (∀ arrived lost : List Report, (arrived ++ lost).Perm reports →
        let part := ofReports expected arrived
        (∀ record, record ∈ whole.tally.records ↔
          record ∈ part.tally.records ∨ ∃ report ∈ lost, record ∈ report.tally.records) ∧
        (∀ number ∈ Stats.numbers, number whole.tally.stats =
          number part.tally.stats + (lost.map fun report => number report.tally.stats).sum) ∧
        whole.received = part.received + lost.length ∧
        part.missing expected = whole.missing expected + lost.length)) := by
  intro taken whole
  have hWhole : whole.Unites taken := unites_ofReports expected reports
  have hReceived : whole.received = min expected reports.length := by
    rw [hWhole.received_eq, List.length_take]
  refine ⟨hWhole.mem_records, ?_, fun number hNumber => ⟨hWhole.number_eq number hNumber, ?_⟩,
    hReceived, ?_, ?_, fun hExpected => ?_⟩
  · refine Std.HashSet.Equiv.of_forall_mem_iff fun record => ?_
    rw [hWhole.mem_records, mem_foldl_union]
    simp
  · rw [hWhole.number_eq number hNumber, toNat_sum, List.map_map]
    rfl
  · omega
  · rw [missing]
    omega
  · have hAll : whole.Unites reports := by
      have hTaken : taken = reports := List.take_of_length_le hExpected
      rwa [hTaken] at hWhole
    have hShort : ∀ others : List Report, others.length ≤ expected →
        (ofReports expected others).Unites others := by
      intro others hOthers
      have hUnites := unites_ofReports expected others
      rwa [List.take_of_length_le hOthers] at hUnites
    constructor
    · intro others hPerm again
      have hAgain : again.Unites others := hShort others (hPerm.length_eq.trans_le hExpected)
      obtain ⟨hRecords, hStats, hCount⟩ := (hAgain.perm hPerm).alike hAll
      exact ⟨hRecords, hStats, hCount, by rw [missing, missing, hCount]⟩
    · intro arrived lost hPerm part
      have hLength : arrived.length + lost.length = reports.length := by
        rw [← hPerm.length_eq, List.length_append]
      have hPart : part.Unites arrived := hShort arrived (by omega)
      have hBoth : whole.Unites (arrived ++ lost) := hAll.perm hPerm.symm
      refine ⟨fun record => ?_, fun number hNumber => ?_, ?_, ?_⟩
      · rw [hBoth.mem_records, hPart.mem_records]
        simp only [List.mem_append, or_and_right, exists_or]
      · rw [hBoth.number_eq number hNumber, hPart.number_eq number hNumber, List.map_append,
          List.sum_append]
      · rw [hBoth.received_eq, hPart.received_eq, List.length_append]
      · rw [missing, missing, hBoth.received_eq, hPart.received_eq, List.length_append]
        omega

end Collection

end FunctionCatalog
