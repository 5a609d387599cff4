import FunctionCatalog.Program
import FunctionCatalog.Proofs.Extraction.FunctionRecord
import FunctionCatalog.Proofs.FileTree.Surroundings
import FunctionCatalog.Proofs.Harvest.Artifact
import FunctionCatalog.Proofs.Harvest.Schedule
import FunctionCatalog.Proofs.Path.FileName

/-!
# Looking at a file and harvesting it

There are two ways to the records of a file. One prints them in the order of the source; the other
goes over the walk of a root, the workers of a pool and the union of their reports, and writes the
distinct lines. For a root that has nothing but the file they come to the same: the output is opened
outside of it, so the walk finds what is there, and the grammar is chosen by the name of the file,
which the path below the root has in common with the path that was given.

## Main results

* `SingleFile.openEmpty` — a root of one file is one still when the output has been opened.
* `Config.extractPath_alike` — the same contents by the same file name give the same records.
* `SingleFile.extract_eq_inspect` — what is written for a root of one file is what is printed for
  the file.
-/

namespace FunctionCatalog

/-- A root whose only unit has one name in it, which stands for a file. -/
structure SingleFile (tree : FileTree) (root : Path) (unit : WorkUnit) (name : String)
    (unitAt fileAt : Location) (source : Source) : Prop where
  /-- There is one unit. -/
  units_eq : tree.units root = .ok [unit]
  /-- Where it is. -/
  find_unit : tree.find unit.path = .ok (.directory unitAt)
  /-- There is one name in it. -/
  names_eq : tree.names unitAt = [name]
  /-- The name stands for a file, be it the file itself or a link to it. -/
  member_eq : tree.member? unitAt (unit.path.join name) name = some (.file fileAt source)
  /-- The path of the name leads there. -/
  find_file : tree.find (unit.path.join name) = .ok (.file fileAt source)

namespace SingleFile

variable {config : Config} {tree opened : FileTree} {root output : Path} {unit : WorkUnit}
  {name : String} {unitAt fileAt location : Location} {source : Source}

/-- A root of one file is one still when an output has been opened outside of it. -/
theorem openEmpty (h : SingleFile tree root unit name unitAt fileAt source)
    (hOpen : tree.openEmpty output = .ok (location, opened)) (hUnit : location.dropLast ≠ unitAt)
    (hFile : location ≠ fileAt) : SingleFile opened root unit name unitAt fileAt source := by
  have hOther : FileTree.writtenAt? (.file fileAt source) ≠ some location :=
    fun hSame => hFile (Option.some.inj hSame).symm
  have hDirectory : FileTree.writtenAt? (.directory unitAt) ≠ some location := nofun
  have hNames : opened.names unitAt = tree.names unitAt := by
    rw [(FileTree.openEmpty_eq_ok_iff.1 hOpen).2, FileTree.names_put, FileTree.nameIn?,
      if_neg hUnit]
    simp
  exact
    { units_eq := (FileTree.units_openEmpty hOpen root).trans h.units_eq
      find_unit := (FileTree.find_openEmpty_iff hOpen hDirectory).2 h.find_unit
      names_eq := hNames.trans h.names_eq
      member_eq := (FileTree.member?_openEmpty_iff hOpen hOther).2 h.member_eq
      find_file := (FileTree.find_openEmpty_iff hOpen hOther).2 h.find_file }

private theorem files_eq (h : SingleFile tree root unit name unitAt fileAt source) :
    unit.files tree = .ok [unit.path.join name] := by
  simp only [WorkUnit.files, FileTree.members, h.find_unit, bind, Except.bind, h.names_eq,
    List.filterMap_cons, List.filterMap_nil, h.member_eq, Option.map_some]

private theorem corpus_eq (h : SingleFile tree root unit name unitAt fileAt source) :
    corpus tree [unit] = [unit.path.join name] := by
  rw [corpus, List.flatMap_singleton, WorkUnit.listed, h.files_eq]

theorem isUnlistable_eq (h : SingleFile tree root unit name unitAt fileAt source) :
    unit.isUnlistable tree = false := by
  rw [WorkUnit.isUnlistable, h.files_eq]
  rfl

private theorem read_eq (h : SingleFile tree root unit name unitAt fileAt source) :
    tree.read (unit.path.join name) = .ok source := by
  rw [FileTree.read, h.find_file]
  rfl

end SingleFile

/-- The same contents by the same file name give the same records, or none for the same reason. -/
theorem Config.extractPath_alike (config : Config) {tree other : FileTree} {path target : Path}
    {source : Source} (hPath : tree.read path = .ok source)
    (hTarget : other.read target = .ok source)
    (hName : path.fileName? = target.fileName?) :
    (∃ records, config.extractPath tree path = .ok records ∧
        config.extractPath other target = .ok records) ∨
      ∃ error cause, config.extractPath tree path = .error error ∧
        config.extractPath other target = .error cause ∧
        error.isSkip = (config.languageFor? target).isNone := by
  have hLang := config.languageFor?_eq hName
  unfold extractPath
  rw [hPath, hTarget, hLang]
  cases hTargetLang : config.languageFor? target with
  | none => exact .inr ⟨_, _, rfl, rfl, rfl⟩
  | some lang =>
      simp only [extractFile, hLang, hTargetLang]
      cases source.tree? with
      | none => exact .inr ⟨_, _, rfl, rfl, rfl⟩
      | some root =>
          dsimp only
          split
          · exact .inr ⟨_, _, rfl, rfl, rfl⟩
          · split
            · exact .inr ⟨_, _, rfl, rfl, rfl⟩
            · exact .inl ⟨_, rfl, rfl⟩

/-! ## Printing -/

section Inspect

variable (config : Config) (tree : FileTree) (target : Path) (format : RecordFormat)

private theorem output_inspect : (inspect config tree target format).output =
    (recordsFound (config.extractPath tree target)).map format.encode := by
  rw [inspect]
  cases config.extractPath tree target <;> rfl

private theorem exitCode_inspect : (inspect config tree target format).exitCode =
    if (config.extractPath tree target).isOk then 0 else 1 := by
  rw [inspect]
  cases config.extractPath tree target <;> rfl

end Inspect

/-! ## Both ways -/

/-- What a run leaves and reports for a root of one file, by what extraction gives for the file. -/
theorem SingleFile.exists_run_eq (config : Config) {tree opened : FileTree} {options : RunOptions}
    {unit : WorkUnit} {name : String} {unitAt fileAt location : Location} {source : Source}
    (h : SingleFile opened options.root unit name unitAt fileAt source)
    (hOpen : tree.openEmpty options.output = .ok (location, opened))
    (hFits : options.pool.workers.length < UInt64.size) :
    let result := config.extractPath opened (unit.path.join name)
    ∃ (lines : List String) (artifact : Source) (summary : Summary) (after : FileTree),
      run config tree options = (.ok summary, after) ∧
      after.get? location = some (.file artifact) ∧ artifact.bytes = encodeLines lines ∧
      lines.Nodup ∧
      (∀ line, line ∈ lines ↔ ∃ record ∈ recordsFound result, options.format.encode record = line) ∧
      summary =
        { units := 1
          workers := options.pool.workers.length
          unitsFailed := 0
          filesParsed := if result.isOk then 1 else 0
          filesFailed := if isFailed result then 1 else 0
          filesSkipped := if isSkipped result then 1 else 0
          records := lines.length
          missingReports := 0 } := by
  intro result
  obtain ⟨collection, hSum, hReceived, hHarvest⟩ := exists_harvest_eq config h.units_eq hFits
  let records := collection.tally.records.toList
  have hOutput : tree.openOutput options.output = .ok (location, opened) := by
    rw [FileTree.openOutput, hOpen]
    rfl
  obtain ⟨artifact, hBytes, hFile⟩ := FileTree.get?_writeRecords hOutput options.format records
  refine ⟨options.format.lineSet records, artifact, _, _, run_of_harvest_ok hOpen hHarvest, hFile,
    hBytes, RecordFormat.nodup_lineSet _ _, fun line => ?_, ?_⟩
  · rw [RecordFormat.mem_lineSet]
    simp only [records, Std.HashSet.mem_toList, hSum.mem_records, h.corpus_eq, List.mem_singleton,
      exists_eq_left, result]
  · have hOne : ∀ b : Bool,
        (if b = true then 1 else 0) % UInt64.size = if b = true then 1 else 0 := by
      decide
    rw [Summary.ofCollection_eq hSum hReceived, h.corpus_eq, options.pool.toNat_size hFits]
    simp only [List.length_singleton, List.countP_singleton, h.isUnlistable_eq, hOne, result]
    rfl

/-- **What is written for a root of one file is what is printed for the file.** The output is opened
outside of the root, the file may be given by any path that ends in its name, in any tree that has
the same contents there, and the pool may have any number of workers that can be started. -/
theorem SingleFile.extract_eq_inspect (config : Config) {tree elsewhere opened : FileTree}
    {options : RunOptions} {unit : WorkUnit} {name : String} {unitAt fileAt location : Location}
    {source : Source} {target : Path}
    (h : SingleFile tree options.root unit name unitAt fileAt source)
    (hOpen : tree.openEmpty options.output = .ok (location, opened))
    (hUnit : location.dropLast ≠ unitAt) (hFile : location ≠ fileAt)
    (hFits : options.pool.workers.length < UInt64.size)
    (hTarget : elsewhere.read target = .ok source) (hName : target.fileName? = some name) :
    let inspected := inspect config elsewhere target options.format
    ∃ (lines : List String) (artifact : Source) (summary : Summary) (after : FileTree),
      -- the command succeeds, and reports a run that has written an artifact
      extract config tree options =
        { output := summary.lines options.output, tree := after, written? := some options.output } ∧
      run config tree options = (.ok summary, after) ∧
      after.get? location = some (.file artifact) ∧ artifact.bytes = encodeLines lines ∧
      -- the lines that are written are those that are printed, each once
      lines.Nodup ∧ (∀ line, line ∈ lines ↔ line ∈ inspected.output) ∧
      -- so they are when what is written and printed is cut at line feeds
      (∀ line, line ∈ LinkageGuard.lines artifact.bytes ↔
        line ∈ LinkageGuard.lines (encodeLines inspected.output)) ∧
      -- every worker of the pool has reported on the one unit
      summary.units = 1 ∧ summary.unitsFailed = 0 ∧ summary.records = lines.length ∧
      summary.workers = options.pool.workers.length ∧ summary.missingReports = 0 ∧
      -- a file that is printed is counted as parsed
      (inspected.exitCode = 0 →
        summary.filesParsed = 1 ∧ summary.filesFailed = 0 ∧ summary.filesSkipped = 0) ∧
      -- one that is not is counted as failed, or as skipped if there is no grammar for it
      (inspected.exitCode ≠ 0 →
        inspected.output = [] ∧ artifact.bytes = [] ∧ summary.filesParsed = 0 ∧
        (config.languageFor? target = none → summary.filesFailed = 0 ∧ summary.filesSkipped = 1) ∧
        (config.languageFor? target ≠ none →
          summary.filesFailed = 1 ∧ summary.filesSkipped = 0)) := by
  intro inspected
  have hAround := h.openEmpty hOpen hUnit hFile
  have hPathName : (unit.path.join name).fileName? = target.fileName? := by
    rw [hName]
    exact unit.path.fileName?_join (Path.isFileName_of_fileName? hName)
  obtain ⟨lines, artifact, summary, after, hRun, hArtifact, hBytes, hDistinct, hLines, hSummary⟩ :=
    hAround.exists_run_eq config hOpen hFits
  have hExtract : extract config tree options =
      { output := summary.lines options.output, tree := after,
        written? := some options.output } := by
    rw [extract, hRun]
  have hAlike := config.extractPath_alike hAround.read_eq hTarget hPathName
  have hFound : recordsFound (config.extractPath opened (unit.path.join name)) =
      recordsFound (config.extractPath elsewhere target) := by
    rcases hAlike with ⟨records, hPath, hOther⟩ | ⟨error, cause, hPath, hOther, -⟩
    · rw [hPath, hOther]
    · rw [hPath, hOther, recordsFound, recordsFound]
  have hPrinted : ∀ line, line ∈ lines ↔ line ∈ inspected.output := by
    intro line
    rw [hLines, hFound, output_inspect, List.mem_map]
  refine ⟨lines, artifact, summary, after, hExtract, hRun, hArtifact, hBytes, hDistinct, hPrinted,
    fun line => hBytes ▸ mem_lines_encodeLines_congr hPrinted line, ?_⟩
  have hCode := exitCode_inspect config elsewhere target options.format
  have hOutput := output_inspect config elsewhere target options.format
  rcases hAlike with ⟨records, hPath, hOther⟩ | ⟨error, cause, hPath, hOther, hSkip⟩
  · rw [hPath] at hSummary
    rw [hOther] at hCode
    subst hSummary
    exact ⟨rfl, rfl, rfl, rfl, rfl, fun _ => ⟨rfl, rfl, rfl⟩, fun hFails => absurd hCode hFails⟩
  · rw [hPath] at hSummary
    rw [hOther] at hCode hOutput
    have hNone : lines = [] :=
      List.eq_nil_iff_forall_not_mem.2 fun line hLine => by
        rw [hPrinted] at hLine
        exact absurd (hOutput ▸ hLine) List.not_mem_nil
    subst hSummary
    refine ⟨rfl, rfl, rfl, rfl, rfl,
      fun hParsed => absurd (hCode.symm.trans hParsed) Nat.one_ne_zero,
      fun _ => ⟨hOutput, by rw [hBytes, hNone]; rfl, rfl, fun hLang => ?_, fun hLang => ?_⟩⟩
    · rw [hLang] at hSkip
      simp [isFailed, isSkipped, hSkip]
    · rw [Option.isNone_eq_false_iff.2 (Option.isSome_iff_ne_none.2 hLang)] at hSkip
      simp [isFailed, isSkipped, hSkip]

/-- A file that declares `t f();` twice, in a root for two workers. It is printed with two lines
when it is looked at by itself, and one is written. -/
theorem SingleFile.extract_eq_inspect_twice :
    let type := Node.spanning (.name .type) 0 1 (some .type) []
    let name := Node.spanning (.name .identifier) 2 3 (some .declarator) []
    let list := Node.spanning (.other "parameter_list") 3 5 (some .parameters) []
    let function := Node.spanning (.functionDeclarator .naming) 2 5 (some .declarator) [name, list]
    let declared := Node.spanning .declaration 0 6 none [type, function]
    let root := Node.spanning (.other "translation_unit") 0 6 none [declared, declared]
    let source : Source := { bytes := [0x74, 0x20, 0x66, 0x28, 0x29, 0x3B], tree? := some root }
    let tree : FileTree :=
      { entries := [(["r"], .directory), (["r", "u"], .directory),
          (["r", "u", "a.c"], .file source)]
        nodup := by decide }
    let elsewhere : FileTree := { entries := [(["a.c"], .file source)] }
    let options : RunOptions :=
      { root := ⟨"r"⟩, output := ⟨"o"⟩, pool := ⟨1, 2, by decide, by decide⟩, format := .lines }
    SingleFile tree options.root ⟨"u", ⟨"r/u"⟩⟩ "a.c" ["r", "u"] ["r", "u", "a.c"] source ∧
      (inspect {} elsewhere ⟨"a.c"⟩ .lines).output = ["f|t|", "f|t|"] ∧
      ∃ (artifact : Source) (summary : Summary) (after : FileTree),
        extract {} tree options =
          { output := summary.lines ⟨"o"⟩, tree := after, written? := some ⟨"o"⟩ } ∧
        after.get? ["o"] = some (.file artifact) ∧ artifact.bytes = encodeLines ["f|t|"] ∧
        summary.filesParsed = 1 ∧ summary.workers = 2 := by
  intro type name list function declared root source tree elsewhere options
  have hJoin : Path.join ⟨"r/u"⟩ "a.c" = ⟨"r/u/a.c"⟩ := by cbv
  have hFind : tree.find ⟨"r/u/a.c"⟩ = .ok (.file ["r", "u", "a.c"] source) := by
    have hParts : Path.parts ⟨"r/u/a.c"⟩ = ["r", "u", "a.c"] := by
      rw [Path.parts_eq]
      decide
    have hOrigin : FileTree.origin ⟨"r/u/a.c"⟩ tree.workingDirectory = [] := by cbv
    refine FileTree.find_eq_ok_iff.2
      ⟨FileTree.resolve_eq_ok_iff.2 ⟨by decide, by decide, by decide, ?_⟩, by simp⟩
    rw [hParts, hOrigin]
    exact .enter (by decide) rfl <| .enter (by decide) rfl <| .file (by decide) rfl
  have hCorpus :
      SingleFile tree options.root ⟨"u", ⟨"r/u"⟩⟩ "a.c" ["r", "u"] ["r", "u", "a.c"] source :=
    ⟨by cbv, by cbv, by cbv, by cbv, by rw [hJoin, hFind]⟩
  have hOpen : tree.openEmpty options.output = .ok (["o"], tree.put ["o"] (.file .empty)) := by cbv
  have hRead : elsewhere.read ⟨"a.c"⟩ = .ok source := by cbv
  have hFound : ({} : Config).extractPath elsewhere ⟨"a.c"⟩ =
      .ok [⟨"f", ["t"], []⟩, ⟨"f", ["t"], []⟩] := by
    have hLang : ({} : Config).languageFor? ⟨"a.c"⟩ = some .c := by cbv
    have hMasked : maskLinkageGuards source.bytes = source.bytes := by cbv
    have hRecords : ({} : Config).recordsOfTree .c source.bytes root =
        [⟨"f", ["t"], []⟩, ⟨"f", ["t"], []⟩] := by decide
    rw [Config.extractPath_eq_ok hLang hRead rfl rfl, hMasked, hRecords]
  have hOutput : (inspect {} elsewhere ⟨"a.c"⟩ .lines).output = ["f|t|", "f|t|"] := by
    rw [output_inspect, hFound]
    decide
  have hCode : (inspect {} elsewhere ⟨"a.c"⟩ .lines).exitCode = 0 := by
    rw [exitCode_inspect, hFound]
    rfl
  have hWorkers : options.pool.workers.length = 2 := rfl
  have hFits : options.pool.workers.length < UInt64.size := by
    rw [hWorkers]
    decide
  obtain ⟨lines, artifact, summary, after, hExtract, -, hFile, hBytes, hDistinct, hLines, -, -, -,
      -, hCount, -, hParsed, -⟩ :=
    hCorpus.extract_eq_inspect {} hOpen (by decide) (by decide) hFits hRead (by cbv)
  have hOne : lines = ["f|t|"] := by
    refine List.perm_singleton.1
      ((List.perm_ext_iff_of_nodup hDistinct (by decide)).2 fun line => ?_)
    rw [hLines, hOutput]
    simp
  exact ⟨hCorpus, hOutput, artifact, summary, after, hExtract, hFile, hOne ▸ hBytes,
    (hParsed hCode).1, hCount.trans hWorkers⟩

end FunctionCatalog
