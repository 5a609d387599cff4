import FunctionCatalog.Proofs.Extraction.OneLine
import FunctionCatalog.Proofs.Harvest.Artifact
import FunctionCatalog.Proofs.Harvest.Reports
import FunctionCatalog.Proofs.Harvest.Rerun
import FunctionCatalog.Proofs.Harvest.Schedule

/-!
# One record, one line

Every record of a harvest is one that extraction gave for a file, and the files that a harvest
reads are those of the file tree, apart from its own output, which is empty then. So where all
files have plain names, no line of an artifact is broken: there are as many as the summary says,
and each is there once.

## Main results

* `exists_extractPath_of_harvest` — every record of a harvest was given for a file.
* `Config.isOneLine_of_harvest` — records are on one line in a tree in which an output was opened.
* `one_line_per_record` — no text of a record has a line break, and a run writes a line for each.
-/

namespace FunctionCatalog

/-! ## Where records come from -/

variable {config : Config} {tree : FileTree}

/-- Every record of a harvest was given for a file, whatever the pool. -/
theorem exists_extractPath_of_harvest {root : Path} {pool : Pool} {records : RecordSet}
    {summary : Summary} (hHarvest : harvest config tree root pool = .ok (records, summary)) :
    ∀ record ∈ records, ∃ path found,
      config.extractPath tree path = .ok found ∧ record ∈ found := by
  intro record hRecord
  unfold harvest at hHarvest
  cases hUnits : tree.units root with
  | error error => simp [hUnits, bind, Except.bind] at hHarvest
  | ok units =>
      simp only [hUnits, bind, Except.bind, Except.ok.injEq, Prod.mk.injEq] at hHarvest
      rw [← hHarvest.1, (Collection.unites_ofReports _ _).mem_records] at hRecord
      obtain ⟨report, hReport, hRecord⟩ := hRecord
      obtain ⟨⟨worker, turn⟩, -, rfl⟩ := List.mem_map.1 (List.mem_of_mem_take hReport)
      obtain ⟨file, -, hFound⟩ :=
        ((Tally.summarizes_foldl_addUnit _).mem_records record).1 hRecord
      obtain ⟨found, hFile, hMem⟩ := mem_recordsFound_iff.1 hFound
      exact ⟨file, found, hFile, hMem⟩

/-! ## Plain names -/

/-- An empty file has no names. -/
theorem Config.readsPlainNames_empty (config : Config) (path : Path) :
    config.ReadsPlainNames path .empty := by
  intro lang root hLang hTree
  obtain rfl := Option.some.inj hTree
  exact .leaf (Node.hasPlainNames_of_isNameless rfl) rfl

/-- Records of a harvest are on one line, if an output was opened in a tree whose files have plain
names. -/
theorem Config.isOneLine_of_harvest {output root : Path} {pool : Pool} {location : Location}
    {opened : FileTree} {records : RecordSet} {summary : Summary}
    (hOpen : tree.openEmpty output = .ok (location, opened))
    (hNames : ∀ path source, tree.read path = .ok source → config.ReadsPlainNames path source)
    (hHarvest : harvest config opened root pool = .ok (records, summary)) :
    ∀ record ∈ records, record.IsOneLine := by
  intro record hRecord
  obtain ⟨path, found, hFile, hMem⟩ := exists_extractPath_of_harvest hHarvest record hRecord
  unfold extractPath at hFile
  split at hFile
  · cases hFile
  · split at hFile
    · cases hFile
    · next source hRead =>
        refine Config.oneLine_extractFile ?_ hFile record hMem
        rcases FileTree.read_of_openEmpty hOpen hRead with rfl | hBefore
        · exact config.readsPlainNames_empty path
        · exact hNames path source hBefore

/-! ## Lines -/

theorem FunctionRecord.IsOneLine.line {record : FunctionRecord} (hRecord : record.IsOneLine) :
    OneLine record.line := by
  obtain ⟨hName, hRest⟩ := List.forall_mem_cons.1 hRecord
  obtain ⟨hSignature, hTokens⟩ := List.forall_mem_append.1 hRest
  have hTypes := oneLine_intercalate (show OneLine "," by decide) hSignature
  have hWords := oneLine_intercalate (show OneLine "," by decide) hTokens
  have hBar : OneLine "|" := by decide
  simp only [FunctionRecord.line, oneLine_append]
  exact ⟨⟨⟨⟨hName, hBar⟩, hTypes⟩, hBar⟩, hWords⟩

/-- A run that succeeds leaves the encodings of the records that it harvested, and counts them. -/
theorem exists_artifact_of_run {options : RunOptions} {summary : Summary} {after : FileTree}
    (hRun : run config tree options = (.ok summary, after)) :
    ∃ (location : Location) (opened : FileTree) (records : RecordSet) (counted : Summary)
      (artifact : Source),
      tree.openEmpty options.output = .ok (location, opened) ∧
      harvest config opened options.root options.pool = .ok (records, counted) ∧
      after.resolve .writing options.output = .ok (.file location artifact) ∧
      artifact.bytes = encodeLines (options.format.lineSet records.toList) ∧
      summary.records = (options.format.lineSet records.toList).length := by
  cases hOpen : tree.openEmpty options.output with
  | error cause =>
      rw [run_of_openEmpty_error hOpen] at hRun
      cases hRun
  | ok result =>
      obtain ⟨location, opened⟩ := result
      cases hHarvest : harvest config opened options.root options.pool with
      | error error =>
          rw [run_of_harvest_error hOpen hHarvest] at hRun
          cases hRun
      | ok result =>
          obtain ⟨records, counted⟩ := result
          rw [run_of_harvest_ok hOpen hHarvest] at hRun
          cases hRun
          refine ⟨location, opened, records, counted, _, rfl, hHarvest,
            FileTree.resolve_put_of_openEmpty hOpen _, ?_, rfl⟩
          split
          · next hNone => exact hNone.symm
          · rfl

/-- **One record is one line.** Whatever type names are configured, no text of a record has white
space other than blanks, so none has a line break; and a run writes the lines of the records that it
has harvested, each on a line of its own. -/
theorem one_line_per_record (config : Config) :
    -- the name, the types and the tokens of every record of a file
    (∀ path source records, config.ReadsPlainNames path source →
      config.extractFile path source = .ok records →
        ∀ record ∈ records, ∀ text ∈ record.name :: record.signature ++ record.commentTokens,
          OneLine text) ∧
    -- the artifact of a run over files like these
    (∀ (tree : FileTree) (options : RunOptions) (summary : Summary) (after : FileTree),
      (∀ path source, tree.read path = .ok source → config.ReadsPlainNames path source) →
      options.format = .lines → run config tree options = (.ok summary, after) →
        ∃ (location : Location) (opened : FileTree) (records : RecordSet) (counted : Summary)
          (artifact : Source) (lines : List Bytes),
          tree.openEmpty options.output = .ok (location, opened) ∧
          harvest config opened options.root options.pool = .ok (records, counted) ∧
          after.resolve .writing options.output = .ok (.file location artifact) ∧
          -- each line has a line feed behind it and none within, and behind the last is nothing
          artifact.bytes = lines.flatMap (· ++ [0x0A]) ∧
          LinkageGuard.lines artifact.bytes = lines ++ [[]] ∧
          -- there are as many as the summary says, and no two are the same
          lines.length = summary.records ∧ lines.Nodup ∧
          -- they are those of the records
          ∀ line, line ∈ lines ↔ ∃ record ∈ records, Utf8.encode record.line = line) := by
  refine ⟨fun path source records hNames hRecords => config.oneLine_extractFile hNames hRecords, ?_⟩
  intro tree options summary after hNames hFormat hRun
  obtain ⟨location, opened, records, counted, artifact, hOpen, hHarvest, hResolve, hBytes,
    hCount⟩ := exists_artifact_of_run hRun
  rw [hFormat] at hBytes hCount
  let lines := RecordFormat.lines.lineSet records.toList
  have hLines : ∀ line, line ∈ lines ↔ ∃ record ∈ records, record.line = line := by
    intro line
    simp only [lines, RecordFormat.mem_lineSet, Std.HashSet.mem_toList, RecordFormat.encode]
  have hUnbroken : ∀ line ∈ lines, '\n' ∉ line.toList := by
    intro line hLine
    obtain ⟨record, hRecord, rfl⟩ := (hLines line).1 hLine
    have hOneLine := Config.isOneLine_of_harvest hOpen hNames hHarvest record hRecord
    exact hOneLine.line.not_mem (by decide)
  refine ⟨location, opened, records, counted, artifact, lines.map Utf8.encode, hOpen, hHarvest,
    hResolve, ?_, ?_, ?_, ?_, ?_⟩
  · rw [hBytes, encodeLines_eq_flatMap]
  · rw [hBytes, lines_encodeLines hUnbroken]
  · rw [hCount, List.length_map]
  · exact List.Nodup.map Utf8.encode_injective (RecordFormat.nodup_lineSet _ _)
  · intro line
    simp only [List.mem_map, hLines, exists_exists_and_eq_and]

/-- The record of `word_t f();`, where `word_t` is configured with a spelling that is broken over
lines, and the artifact of a run over a file with nothing else. -/
theorem one_line_per_record_broken_spelling :
    let config : Config := { typeAliases := [("word_t", "unsigned\r\n\tlong")] }
    let type := Node.spanning (.name .type) 0 6 (some .type) []
    let name := Node.spanning (.name .identifier) 7 8 (some .declarator) []
    let list := Node.spanning (.other "parameter_list") 8 10 (some .parameters) []
    let function := Node.spanning (.functionDeclarator .naming) 7 10 (some .declarator) [name, list]
    let root := Node.spanning (.other "translation_unit") 0 11 none
      [.spanning .declaration 0 11 none [type, function]]
    let source : Source :=
      { bytes := [0x77, 0x6F, 0x72, 0x64, 0x5F, 0x74, 0x20, 0x66, 0x28, 0x29, 0x3B]
        tree? := some root }
    let tree : FileTree :=
      { entries := [(["r"], .directory), (["r", "u"], .directory),
          (["r", "u", "a.c"], .file source)]
        nodup := by decide }
    let options : RunOptions :=
      { root := ⟨"r"⟩, output := ⟨"o"⟩, pool := ⟨1, 1, by decide, by decide⟩, format := .lines }
    config.ReadsPlainNames ⟨"r/u/a.c"⟩ source ∧
      config.extractFile ⟨"r/u/a.c"⟩ source = .ok [⟨"f", ["unsigned long"], []⟩] ∧
      (∀ text ∈ ["f", "unsigned long"], OneLine text) ∧
      ∃ (summary : Summary) (after : FileTree) (artifact : Source),
        run config tree options = (.ok summary, after) ∧ summary.records = 1 ∧
        after.resolve .writing ⟨"o"⟩ = .ok (.file ["o"] artifact) ∧
        LinkageGuard.lines artifact.bytes = [Utf8.encode "f|unsigned long|", []] := by
  intro config type name list function root source tree options
  have hLang : config.languageFor? ⟨"r/u/a.c"⟩ = some .c := by
    rw [Config.languageFor?, Path.extension?, Path.fileName?, Path.parts_eq]
    decide
  have hMasked : maskLinkageGuards source.bytes = source.bytes := by cbv
  have hTree : config.recordsOfTree .c source.bytes root = [⟨"f", ["unsigned long"], []⟩] := by cbv
  have hRecords : config.extractFile ⟨"r/u/a.c"⟩ source = .ok [⟨"f", ["unsigned long"], []⟩] := by
    rw [Config.extractFile_eq_ok hLang rfl rfl, hMasked, hTree]
  have hNames : ∀ path, config.ReadsPlainNames path source := by
    intro path lang tree hLang hTree
    obtain rfl : root = tree := Option.some.inj hTree
    rw [hMasked]
    have hType : type.HasPlainNames source.bytes lang :=
      Node.hasPlainNames_of_name rfl (by decide) (by decide)
    have hName : name.HasPlainNames source.bytes lang :=
      Node.hasPlainNames_of_name rfl (by decide) (by decide)
    have hList : list.All (·.HasPlainNames source.bytes lang) :=
      .leaf (Node.hasPlainNames_of_isNameless rfl) rfl
    have hFunction : function.All (·.HasPlainNames source.bytes lang) :=
      .intro (Node.hasPlainNames_of_isNameless rfl)
        (List.forall_mem_cons.2 ⟨.leaf hName rfl, List.forall_mem_singleton.2 hList⟩)
    refine .intro (Node.hasPlainNames_of_isNameless rfl) (List.forall_mem_singleton.2 ?_)
    exact .intro (Node.hasPlainNames_of_isNameless rfl)
      (List.forall_mem_cons.2 ⟨.leaf hType rfl, List.forall_mem_singleton.2 hFunction⟩)
  have hOnly : ∀ path found, tree.read path = .ok found → found = source := by
    intro path found hRead
    obtain ⟨location, hMem⟩ := FileTree.exists_mem_entries_of_read hRead
    simp only [tree, List.mem_cons, Prod.mk.injEq, reduceCtorEq, and_false, Entry.file.injEq,
      List.not_mem_nil, or_false, false_or] at hMem
    exact hMem.2
  let opened := tree.put ["o"] (.file .empty)
  have hOpen : tree.openEmpty options.output = .ok (["o"], opened) := by cbv
  have hUnits : opened.units options.root = .ok [⟨"u", ⟨"r/u"⟩⟩] := by cbv
  have hFiles : WorkUnit.files opened ⟨"u", ⟨"r/u"⟩⟩ = .ok [⟨"r/u/a.c"⟩] := by cbv
  have hRead : opened.read ⟨"r/u/a.c"⟩ = .ok source :=
    FileTree.read_of_leads (by decide) (Path.parts_eq _) (by cbv) <|
      .enter (by decide) rfl <| .enter (by decide) rfl <| .file (by decide) rfl
  have hFound : config.extractPath opened ⟨"r/u/a.c"⟩ = .ok [⟨"f", ["unsigned long"], []⟩] := by
    rw [Config.extractPath_eq_ok hLang hRead rfl rfl, hMasked, hTree]
  obtain ⟨collection, hSum, -, hHarvest⟩ := exists_harvest_eq config hUnits
    (show options.pool.workers.length < UInt64.size by decide)
  have hRun := run_of_harvest_ok hOpen hHarvest
  obtain ⟨hTexts, hLines⟩ := one_line_per_record config
  obtain ⟨location, _, records, _, artifact, lines, hOpen', hHarvest', hResolve, -, hCut, hCount,
      hNodup, hMem⟩ :=
    hLines tree options _ _ (fun path found hRead => hOnly path found hRead ▸ hNames path) rfl hRun
  obtain ⟨rfl, rfl⟩ := Prod.mk.inj (Except.ok.inj (hOpen.symm.trans hOpen'))
  obtain ⟨rfl, -⟩ := Prod.mk.inj (Except.ok.inj (hHarvest.symm.trans hHarvest'))
  have hRecord : ∀ record, record ∈ collection.tally.records ↔
      record = ⟨"f", ["unsigned long"], []⟩ := by
    intro record
    simp [hSum.mem_records, corpus, WorkUnit.listed, hFiles, hFound, recordsFound]
  have hOne : lines = [Utf8.encode "f|unsigned long|"] := by
    refine List.perm_singleton.1
      ((List.perm_ext_iff_of_nodup hNodup (List.nodup_singleton _)).2 fun line => ?_)
    have hLine : FunctionRecord.line ⟨"f", ["unsigned long"], []⟩ = "f|unsigned long|" := by decide
    simp only [hMem, hRecord, exists_eq_left, hLine, List.mem_singleton, eq_comm]
  subst hOne
  exact ⟨hNames _, hRecords, hTexts _ _ _ (hNames _) hRecords _ List.mem_cons_self, _, _, artifact,
    hRun, hCount.symm, hResolve, hCut⟩

end FunctionCatalog
