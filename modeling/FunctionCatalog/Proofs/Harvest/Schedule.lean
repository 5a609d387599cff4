import FunctionCatalog.Proofs.Extraction.FunctionRecord
import FunctionCatalog.Proofs.FileTree.Overwrite
import FunctionCatalog.Proofs.Harvest.Progress
import FunctionCatalog.Proofs.Harvest.Union
import FunctionCatalog.Proofs.Path.FileName

/-!
# A harvest does not depend on the schedule

However the workers of a pool take turns, a run that is over has collected what the units add up to.
So has the harvest that deals the units out in turn. What is left of the pool in a summary is the
number of its workers.

## Main results

* `Run.summarizes` — a run that is over has tallied every unit once.
* `summarizes_reports` — so have the reports on shares that are dealt out in turn.
* `Run.outcome` — the records, the counts, and that neither depends on the schedule or the pool.
-/

namespace FunctionCatalog

variable {config : Config} {tree : FileTree} {units : List WorkUnit}

/-! ## Shares in turn -/

/-- Items that are dealt out in turn are all there. -/
theorem perm_flatMap_share {α : Type} {number : Nat} (hNumber : 0 < number) (items : List α) :
    ((List.range number).flatMap fun turn => share number turn items).Perm items := by
  have hTurn : ∀ entry ∈ items.zipIdx, entry.2 % number ∈ List.range number := fun entry _ =>
    List.mem_range.2 (Nat.mod_lt entry.2 hNumber)
  have hPerm := perm_flatMap_filter (fun entry : α × Nat => entry.2 % number)
    List.nodup_range hTurn
  have hItems := hPerm.map Prod.fst
  rwa [List.map_flatMap, List.zipIdx_map_fst] at hItems

/-- The reports on shares that are dealt out in turn hold what the units add up to. -/
theorem summarizes_reports (pool : Pool) :
    ((pool.reports config tree units).foldl Collection.receive {}).tally.Summarizes
      config tree units := by
  have hShares : List.Forall₂ (fun report share => report.tally.Summarizes config tree share)
      (pool.reports config tree units)
      ((List.range pool.workers.length).map fun turn =>
        share pool.workers.length turn units) := by
    rw [List.range_eq_range', ← List.zipIdx_map_snd 0 pool.workers, Pool.reports, List.map_map,
      List.forall₂_map_left_iff, List.forall₂_map_right_iff, List.forall₂_same]
    exact fun entry _ => Tally.summarizes_foldl_addUnit _
  have hAll := Collection.summarizes_foldl_receive hShares
    (show ({} : Collection).tally.Summarizes config tree [] from Tally.summarizes_nil)
  rw [List.nil_append, ← List.flatMap_def] at hAll
  exact hAll.perm (perm_flatMap_share pool.length_workers_pos units)

/-! ## Runs that are over -/

namespace WorkSystem

variable {pool : Pool} {events : List WorkEvent} {system : WorkSystem}

/-- When a run is over, every worker's report has been collected. -/
theorem Run.perm_collected {tally : Tally → WorkUnit → Tally}
    (hRun : Run tally pool units events system) (hFinal : system.IsFinal pool.size.toNat) :
    ((collected events).map Report.worker).Perm pool.workers := by
  obtain ⟨hGone, hInFlight, -⟩ := hRun.gone_of_isFinal hFinal
  have hPerm := hRun.perm_gone
  rw [hRun.published_eq, hInFlight, List.append_nil] at hPerm
  have hAll : system.gone = pool.workers := by
    rw [← hRun.ids_eq, gone, ids, List.filter_eq_self.2]
    intro entry hMem
    rw [hGone entry hMem]
    rfl
  rwa [hAll] at hPerm

/-- When a run is over, every unit has been finished by one of the workers. -/
theorem Run.perm_unitsOf {tally : Tally → WorkUnit → Tally}
    (hRun : Run tally pool units events system) (hFinal : system.IsFinal pool.size.toNat) :
    (pool.workers.flatMap fun worker => unitsOf worker events).Perm units := by
  obtain ⟨hGone, -, hWaiting⟩ := hRun.gone_of_isFinal hFinal
  have hIdle : system.inProgress = [] := by
    rw [inProgress, List.filterMap_eq_nil_iff]
    intro entry hMem
    rw [hGone entry hMem]
    rfl
  have hUnits := hRun.perm_units
  rw [hWaiting, hIdle, List.nil_append, List.nil_append] at hUnits
  have hDealt := (perm_flatMap_filter Prod.fst pool.nodup_workers hRun.finished_mem).map Prod.snd
  rw [List.map_flatMap] at hDealt
  exact hDealt.trans hUnits.symm

/-- A run that is over has tallied every unit once. -/
theorem Run.summarizes (hRun : Run (Tally.addUnit config tree) pool units events system)
    (hFinal : system.IsFinal pool.size.toNat) :
    system.collection.tally.Summarizes config tree units := by
  have hReports : List.Forall₂ (fun report share => report.tally.Summarizes config tree share)
      (collected events)
      ((collected events).map fun report => unitsOf report.worker events) := by
    rw [List.forall₂_map_right_iff, List.forall₂_same]
    intro report hMem
    have hPublished : report ∈ published events := by
      rw [hRun.published_eq]
      exact List.mem_append_left _ hMem
    rw [hRun.report_eq report hPublished]
    exact Tally.summarizes_foldl_addUnit _
  have hAll := Collection.summarizes_foldl_receive hReports
    (show ({} : Collection).tally.Summarizes config tree [] from Tally.summarizes_nil)
  rw [← hRun.collection_eq, List.nil_append] at hAll
  refine hAll.perm (List.Perm.trans ?_ (hRun.perm_unitsOf hFinal))
  have hWorkers := (hRun.perm_collected hFinal).flatMap_right fun worker => unitsOf worker events
  rwa [List.flatMap_map, List.flatMap_def] at hWorkers

end WorkSystem

/-- The harvest holds what the units add up to, and has all reports. -/
theorem exists_harvest_eq (config : Config) {root : Path}
    (hUnits : tree.units root = .ok units) {pool : Pool}
    (hFits : pool.workers.length < UInt64.size) :
    ∃ collection : Collection, collection.tally.Summarizes config tree units ∧
      collection.received = pool.size.toNat ∧
      harvest config tree root pool =
        .ok (collection.tally.records, .ofCollection pool units collection) := by
  have hLength : (pool.reports config tree units).length = pool.size.toNat := by
    rw [pool.toNat_size hFits, Pool.reports, List.length_map, List.length_zipIdx]
  refine ⟨.ofReports pool.size.toNat (pool.reports config tree units), ?_, ?_, ?_⟩
  · rw [Collection.ofReports, ← hLength, List.take_length]
    exact summarizes_reports pool
  · rw [(Collection.unites_ofReports _ _).received_eq, ← hLength, List.take_length]
  · rw [harvest, hUnits]
    rfl

/-- The summary of a tally of some units, when all reports have come in. -/
theorem Summary.ofCollection_eq {pool : Pool} {collection : Collection}
    (h : collection.tally.Summarizes config tree units)
    (hReceived : collection.received = pool.size.toNat) :
    Summary.ofCollection pool units collection =
      { units := units.length
        workers := pool.size.toNat
        unitsFailed := units.countP (·.isUnlistable tree) % UInt64.size
        filesParsed := (corpus tree units).countP
          (fun file => (config.extractPath tree file).isOk) % UInt64.size
        filesFailed := (corpus tree units).countP
          (fun file => isFailed (config.extractPath tree file)) % UInt64.size
        filesSkipped := (corpus tree units).countP
          (fun file => isSkipped (config.extractPath tree file)) % UInt64.size
        records := collection.tally.records.size
        missingReports := 0 } := by
  simp [ofCollection, h.stats_eq, Stats.ofCorpus, Stats.ofFiles, Stats.add_def,
    Collection.missing, hReceived]

namespace WorkSystem

/-- **A harvest does not depend on the schedule.** -/
theorem Run.outcome {pool : Pool} {root : Path} {events : List WorkEvent} {system : WorkSystem}
    (hUnits : tree.units root = .ok units)
    (hRun : Run (Tally.addUnit config tree) pool units events system)
    (hFinal : system.IsFinal pool.size.toNat) :
    -- the records are those of the files of the units that can be listed
    (∀ record, record ∈ system.collection.tally.records ↔
      ∃ unit ∈ units, ∃ files, unit.files tree = .ok files ∧
        ∃ file ∈ files, ∃ found, config.extractPath tree file = .ok found ∧ record ∈ found) ∧
    -- the counts are those of the units and of their files, as words
    system.collection.tally.stats.units = .ofNat units.length ∧
    Summary.ofCollection pool units system.collection =
      { units := units.length
        workers := pool.size.toNat
        unitsFailed := units.countP (·.isUnlistable tree) % UInt64.size
        filesParsed := (corpus tree units).countP
          (fun file => (config.extractPath tree file).isOk) % UInt64.size
        filesFailed := (corpus tree units).countP
          (fun file => isFailed (config.extractPath tree file)) % UInt64.size
        filesSkipped := (corpus tree units).countP
          (fun file => isSkipped (config.extractPath tree file)) % UInt64.size
        records := system.collection.tally.records.size
        missingReports := 0 } ∧
    -- any other pool and schedule come to the same, but for the number of workers
    (∀ (other : Pool) (otherEvents : List WorkEvent) (otherSystem : WorkSystem),
      Run (Tally.addUnit config tree) other units otherEvents otherSystem →
      otherSystem.IsFinal other.size.toNat →
        otherSystem.collection.tally.records.Equiv system.collection.tally.records ∧
        Summary.ofCollection other units otherSystem.collection =
          { Summary.ofCollection pool units system.collection with
            workers := other.size.toNat }) ∧
    -- and so does the harvest itself
    ∃ records, harvest config tree root pool =
        .ok (records, Summary.ofCollection pool units system.collection) ∧
      records.Equiv system.collection.tally.records := by
  have hTally := hRun.summarizes hFinal
  have hSummary := Summary.ofCollection_eq hTally (hRun.received_of_isFinal hFinal)
  refine ⟨fun record => ?_, ?_, hSummary, ?_, ?_⟩
  · rw [hTally.mem_records]
    simp only [mem_corpus_iff, mem_recordsFound_iff]
    grind
  · simp [hTally.stats_eq, Stats.ofCorpus, Stats.ofFiles, Stats.add_def]
  · intro other otherEvents otherSystem hOther hOtherFinal
    have hOtherTally := hOther.summarizes hOtherFinal
    have hEquiv := hOtherTally.records_equiv hTally
    refine ⟨hEquiv, ?_⟩
    rw [hSummary, Summary.ofCollection_eq hOtherTally (hOther.received_of_isFinal hOtherFinal),
      hEquiv.size_eq]
  · obtain ⟨collection, hDealt, hReceived, hHarvest⟩ :=
      exists_harvest_eq config hUnits hRun.length_workers_lt
    have hEquiv := hDealt.records_equiv hTally
    refine ⟨collection.tally.records, ?_, hEquiv⟩
    rw [hHarvest, hSummary, Summary.ofCollection_eq hDealt hReceived, hEquiv.size_eq]

/-- Two workers on a root with two directories, each of which holds a file that declares a function.
Each worker takes one of the directories, and the second is through before the first has tallied
its own. -/
theorem Run.outcome_second_first :
    let function := Node.spanning (.functionDeclarator .naming) 2 5 (some .declarator)
      [.spanning (.name .identifier) 2 3 (some .declarator) [],
        .spanning (.other "parameter_list") 3 5 (some .parameters) []]
    let root := Node.spanning (.other "translation_unit") 0 6 none
      [.spanning .declaration 0 6 none [.spanning (.name .type) 0 1 (some .type) [], function]]
    let first : Source := { bytes := [0x74, 0x20, 0x66, 0x28, 0x29, 0x3B], tree? := some root }
    let second : Source := { bytes := [0x74, 0x20, 0x67, 0x28, 0x29, 0x3B], tree? := some root }
    let tree : FileTree :=
      { entries := [(["r"], .directory), (["r", "u"], .directory), (["r", "u", "a.c"], .file first),
          (["r", "v"], .directory), (["r", "v", "b.c"], .file second)]
        nodup := by decide }
    let pool : Pool := ⟨1, 2, by decide, by decide⟩
    let u : WorkUnit := ⟨"u", ⟨"r/u"⟩⟩
    let v : WorkUnit := ⟨"v", ⟨"r/v"⟩⟩
    let found : List FunctionRecord := [⟨"f", ["t"], []⟩, ⟨"g", ["t"], []⟩]
    tree.units ⟨"r"⟩ = .ok [u, v] ∧
      ∃ (events : List WorkEvent) (system : WorkSystem),
        Run (Tally.addUnit {} tree) pool [u, v] events system ∧
        system.IsFinal pool.size.toNat ∧
        -- each worker has tallied one of the units, and the second has reported first
        unitsOf ⟨0, 0⟩ events = [u] ∧ unitsOf ⟨0, 1⟩ events = [v] ∧
        (collected events).map Report.worker = [⟨0, 1⟩, ⟨0, 0⟩] ∧
        -- both records are there
        (∀ record, record ∈ system.collection.tally.records ↔ record ∈ found) ∧
        Summary.ofCollection pool [u, v] system.collection =
          { units := 2, workers := 2, unitsFailed := 0, filesParsed := 2, filesFailed := 0
            filesSkipped := 0, records := 2, missingReports := 0 } ∧
        ∃ records, harvest {} tree ⟨"r"⟩ pool =
            .ok (records, Summary.ofCollection pool [u, v] system.collection) ∧
          records.Equiv system.collection.tally.records := by
  intro function root first second tree pool u v found
  have hUnits : tree.units ⟨"r"⟩ = .ok [u, v] := by cbv
  have hFilesU : u.files tree = .ok [⟨"r/u/a.c"⟩] := by cbv
  have hFilesV : v.files tree = .ok [⟨"r/v/b.c"⟩] := by cbv
  have hFirst : ({} : Config).extractPath tree ⟨"r/u/a.c"⟩ = .ok [⟨"f", ["t"], []⟩] := by
    have hLang : Config.languageFor? {} ⟨"r/u/a.c"⟩ = some .c := by
      rw [Config.languageFor?, Path.extension?, Path.fileName?, Path.parts_eq]
      decide
    have hRead : tree.read ⟨"r/u/a.c"⟩ = .ok first :=
      FileTree.read_of_leads (by decide) (Path.parts_eq _) (by cbv) <|
        .enter (by decide) rfl <| .enter (by decide) rfl <| .file (by decide) rfl
    have hMasked : maskLinkageGuards first.bytes = first.bytes := by cbv
    rw [Config.extractPath_eq_ok hLang hRead rfl rfl, hMasked]
    exact congrArg Except.ok (by decide)
  have hSecond : ({} : Config).extractPath tree ⟨"r/v/b.c"⟩ = .ok [⟨"g", ["t"], []⟩] := by
    have hLang : Config.languageFor? {} ⟨"r/v/b.c"⟩ = some .c := by
      rw [Config.languageFor?, Path.extension?, Path.fileName?, Path.parts_eq]
      decide
    have hRead : tree.read ⟨"r/v/b.c"⟩ = .ok second :=
      FileTree.read_of_leads (by decide) (Path.parts_eq _) (by cbv) <|
        .enter (by decide) rfl <| .enter (by decide) rfl <| .file (by decide) rfl
    have hMasked : maskLinkageGuards second.bytes = second.bytes := by cbv
    rw [Config.extractPath_eq_ok hLang hRead rfl rfl, hMasked]
    exact congrArg Except.ok (by decide)
  have hStart : Run (Tally.addUnit {} tree) pool [u, v] [] _ := .start rfl
  have hClaimed := (hStart.step (.claim ⟨0, 0⟩) rfl).step (.claim ⟨0, 1⟩) rfl
  have hSecondDone := (hClaimed.step (.finish ⟨0, 1⟩) rfl).step (.claim ⟨0, 1⟩) rfl
  have hCollected := (hSecondDone.step (.publish ⟨0, 1⟩) rfl).step .collect rfl
  have hFirstDone := (hCollected.step (.finish ⟨0, 0⟩) rfl).step (.claim ⟨0, 0⟩) rfl
  have hLast := (hFirstDone.step (.publish ⟨0, 0⟩) rfl).step .collect rfl
  have hFinal : (2 : Nat) ≤ 2 := Nat.le_refl 2
  obtain ⟨hRecords, -, hSummary, -, hHarvest⟩ := Run.outcome hUnits hLast (.inl hFinal)
  have hMem : ∀ record, record ∈ _ ↔ record ∈ found := fun record => by
    rw [hRecords record]
    simp [hFilesU, hFilesV, hFirst, hSecond, found]
  have hSet : Std.HashSet.Equiv _ (.ofList found) :=
    .of_forall_mem_iff fun record => (hMem record).trans (by simp)
  refine ⟨hUnits, _, _, hLast, .inl hFinal, rfl, rfl, rfl, hMem, ?_, hHarvest⟩
  have hCorpus : corpus tree [u, v] = [⟨"r/u/a.c"⟩, ⟨"r/v/b.c"⟩] := by
    simp [corpus, WorkUnit.listed, hFilesU, hFilesV]
  rw [hSummary, hSet.size_eq, Std.HashSet.size_ofList (by decide), hCorpus]
  have hPool : pool.size.toNat = 2 := rfl
  simp [hPool, hFilesU, hFilesV, hFirst, hSecond, found, UInt64.size, WorkUnit.isUnlistable,
    isFailed, isSkipped, Except.isOk, Except.toBool]

end WorkSystem

end FunctionCatalog
