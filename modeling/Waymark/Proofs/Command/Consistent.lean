import Waymark.Proofs.Handoff.Agreement
import Waymark.Proofs.Summary.Listing

/-! What an incoming session is told of the documentation. The briefing relies on the report of the last scan,
which leaves out files with few undocumented declarations; so a project may be told to be consistent although
it is not documented throughout, unless the report leaves out nothing.
-/

set_option autoImplicit false

namespace Waymark

open Store

namespace Documentation

variable {summaryVersion : Option Version} {changelog : Option Changelog} {missing : MissingDocs}

theorem undocumentedFiles_ofStored : (ofStored summaryVersion changelog (some missing)).undocumentedFiles =
    missing.files.map (·.path) := rfl

theorem isConsistent_ofStored : (ofStored summaryVersion changelog (some missing)).isConsistent = true ↔
    (ofStored summaryVersion changelog (some missing)).versionsConsistent = true ∧ missing.files = [] := by
  rw [isConsistent, Bool.and_eq_true, undocumentedFiles_ofStored, List.isEmpty_iff, List.map_eq_nil_iff]

end Documentation

namespace Command

open Synchronizer

variable {context : Context} {config : ScanConfig} {force : Bool} {verbosity : Option Verbosity} {now : Time}
  {home : Location} {disk disk' between ended : Disk} {printed : String} {sync next : Synchronizer}
  {phase last : Phase} {request : HandoffRequest} {moment : Moment} {report : HandoffReport}

/-- What the documentation is said to be after a scan. -/
structure Assessed (threshold : Count) (found : Scan) (summary : Summary) (documentation : Documentation) :
    Prop where
  listed : documentation.undocumentedFiles.Perm
    ((found.records.filter fun record => ¬record.undocumented ≤ threshold).map (·.path))
  consistent : documentation.isConsistent = true ↔ documentation.versionsConsistent = true ∧
    ∀ record ∈ found.records, record.undocumented ≤ threshold
  whole : summary.documentedFunctions = summary.totalFunctions ↔
    ∀ record ∈ found.records, record.undocumented = 0

theorem scan_stored (shelved : Shelved (scanStore context config) home disk.tree)
    (countable : Countable context config disk.tree)
    (scans : runScan context config force verbosity now disk = (.ok printed, between)) :
    ∃ found summary missing, Measured context config verbosity now disk.tree found summary ∧
      MissingDocs.ofRecords found.records config.missingDocsThreshold now = .ok missing ∧
      Shelved (scanStore context config) home between.tree ∧
      (scanStore context config).loadSummary between.tree = .ok (some summary) ∧
      (scanStore context config).loadMissingDocs between.tree = .ok (some missing) := by
  have ends := runScan_ends shelved scans
  have shelved' := ends.shelved shelved
  cases ends with
  | @done found summary missing _ measured listed _ summarized placed =>
    exact ⟨found, summary, missing, measured, listed, shelved',
      measured.loads (countable found measured.scanned) shelved'.housed summarized,
      loadMissingDocs_of_place shelved'.housed placed⟩

/-- After a scan and a handoff the incoming session succeeds, and is told of the files that the scan found
beyond the threshold. -/
theorem incoming_assessed (shelved : Shelved (scanStore context config) home disk.tree)
    (countable : Countable context config disk.tree)
    (scans : runScan context config force verbosity now disk = (.ok printed, between))
    (onward : disk'.tree = between.tree) (ofPaths : sync.store.paths = context.paths)
    (handsOver : sync.outgoing phase request moment disk' = (.ok report, last, ended))
    (ofStore : next.store = sync.store) (later : Moment) :
    ∃ found summary briefing inherited, Measured context config verbosity now disk.tree found summary ∧
      next.store.loadSummary ended.tree = .ok (some summary) ∧
      next.incoming .idle ended.tree later = (.ok briefing, .loaded inherited) ∧
      Assessed config.missingDocsThreshold found summary briefing.documentation := by
  obtain ⟨found, summary, missing, measured, listed, shelved', summaryIs, missingIs⟩ :=
    scan_stored shelved countable scans
  rw [← onward] at shelved' summaryIs missingIs
  have housed : Housed sync.store home disk'.tree := shelved'.housed.of_paths ofPaths
  have summaryIs : sync.store.loadSummary disk'.tree = .ok (some summary) := by
    rw [Store.loadSummary, ofPaths]
    exact summaryIs
  have missingIs : sync.store.loadMissingDocs disk'.tree = .ok (some missing) := by
    rw [Store.loadMissingDocs, ofPaths]
    exact missingIs
  obtain ⟨_, _, batch, briefing, inherited, -, -, incoming, stored, documentation⟩ :=
    incoming_documented housed summaryIs missingIs handsOver ofStore later
  refine ⟨found, summary, briefing, inherited, measured, stored, incoming, ?_⟩
  obtain ⟨prior, -, summed⟩ := measured.summed
  rw [documentation]
  constructor
  · have perm := (MissingDocs.files_ofRecords listed).map (·.path)
    rw [List.map_map] at perm
    exact perm
  · rw [Documentation.isConsistent_ofStored, MissingDocs.files_eq_nil_iff listed]
  · exact Summary.documented_eq_iff (measured.covered (countable found measured.scanned)) summed

/-- The documentation is told to be consistent if the versions agree and no file is beyond the threshold. Where
the threshold is zero this is when every function that the scan found is documented. -/
theorem isConsistent_iff_documented (shelved : Shelved (scanStore context config) home disk.tree)
    (countable : Countable context config disk.tree)
    (scans : runScan context config force verbosity now disk = (.ok printed, between))
    (onward : disk'.tree = between.tree) (ofPaths : sync.store.paths = context.paths)
    (handsOver : sync.outgoing phase request moment disk' = (.ok report, last, ended))
    (ofStore : next.store = sync.store) (later : Moment) :
    ∃ found summary briefing inherited, Measured context config verbosity now disk.tree found summary ∧
      next.store.loadSummary ended.tree = .ok (some summary) ∧
      next.incoming .idle ended.tree later = (.ok briefing, .loaded inherited) ∧
      Assessed config.missingDocsThreshold found summary briefing.documentation ∧
      (config.missingDocsThreshold = 0 → (briefing.documentation.isConsistent = true ↔
        briefing.documentation.versionsConsistent = true ∧
          summary.documentedFunctions = summary.totalFunctions)) := by
  obtain ⟨found, summary, briefing, inherited, measured, stored, incoming, assessed⟩ :=
    incoming_assessed shelved countable scans onward ofPaths handsOver ofStore later
  refine ⟨found, summary, briefing, inherited, measured, stored, incoming, assessed, fun unfiltered => ?_⟩
  rw [assessed.consistent, assessed.whole, unfiltered]
  refine and_congr_right fun _ => forall₂_congr fun record _ => ?_
  exact ⟨fun few => UInt64.le_antisymm few UInt64.zero_le, fun none => by rw [none]; exact UInt64.zero_le⟩

/-! A project with one function that has no marker -/

def unmarkedText : List Char := "def load():\n".toList

def unmarkedTree : Tree where
  items := [(["lib.py"], ⟨.file (String.ofList unmarkedText).toUTF8, 0⟩)]
  workingDir := []

def unmarkedDisk : Disk := .ofTree unmarkedTree 0

/-- The report leaves out files with no more undocumented functions than that. -/
def sparing (threshold : Count) : ScanConfig := { ScanConfig.default with missingDocsThreshold := threshold }

def lenient : ScanConfig := sparing 1

def unmarkedRecord : FileRecord := ⟨"lib.py", "py", ["load"], ["load"], 0, 1, 1⟩

def unmarkedScan : Scan := ⟨[unmarkedRecord], ⟨1, 0, 0, 0, 0, 0⟩⟩

theorem unmarkedTree_proper : unmarkedTree.Proper := by
  apply Tree.Proper.of_items <;> decide

theorem shelved_unmarked (threshold : Count) :
    Shelved (scanStore rootContext (sparing threshold)) [] unmarkedDisk.tree :=
  shelved_of_bare unmarkedTree_proper.formed (by decide)
    (Tree.unlinked_of_items (by simp [unmarkedDisk, Disk.ofTree, unmarkedTree]))

theorem analysis_unmarked : ∃ language, Language.of? Language.python = some language ∧
    Analysis.ofText language unmarkedText = .ok ⟨["load"], [], ["load"], 1⟩ := by
  have evaluated : ∃ language ∈ Language.of? Language.python, (Analysis.ofText language unmarkedText).toOption =
      some ⟨["load"], [], ["load"], 1⟩ := by
    decide +kernel
  obtain ⟨language, compiled, analysis⟩ := evaluated
  exact ⟨language, compiled, Fallible.ok_of_toOption analysis⟩

theorem rules_unmarked (threshold : Count) :
    (scanScope rootContext (sparing threshold) unmarkedTree).rules = .ofLines [] := by
  have missing : (unmarkedTree.read rootContext.paths.ignoreFile).toOption = none := by decide
  rw [scanScope_rules, IgnoreRules.load, missing]
  rfl

theorem suits_unmarked {language : Language} (compiled : Language.of? Language.python = some language)
    (threshold : Count) : Finding.Suits .clear (scanScope rootContext (sparing threshold) unmarkedTree) unmarkedTree []
      ["lib.py"] "py" language (String.ofList unmarkedText).toUTF8 where
  file := rfl
  registered := by
    have covering : Language.sources.reverse.filter (·.covers "py") = [Language.python] := rfl
    have found : Languages.builtin.find? "py" = some language := by
      rw [Languages.find?_builtin, covering, List.findSome?_cons, compiled]
    have last : ["lib.py"].getLastD "" = "lib.py" := rfl
    have extension : Sight.clear.extension? "lib.py" = some "py" := by decide +kernel
    have key : String.ofList (Text.asciiLowercase "py".toList) = "py" := by decide
    rw [Finding.language?, scanScope_languages, last, Finding.languageOf?, extension, Option.bind_some]
    simp only [key, found, Option.map_some]
  opened := rfl
  small := by
    have small : (String.ofList unmarkedText).toUTF8.size ≤ ScanConfig.default.maxFileSize.toNat := by decide +kernel
    exact small
  text := by decide +kernel

theorem ofEntry_unmarked (threshold : Count) :
    Finding.ofEntry .clear (scanScope rootContext (sparing threshold) unmarkedTree) unmarkedTree [] ["lib.py"] =
      .ok [.record unmarkedRecord] := by
  obtain ⟨language, compiled, analysed⟩ := analysis_unmarked
  have kept : (scanScope rootContext (sparing threshold) unmarkedTree).rules.excludes
      (["lib.py"].map Sight.clear.text) = false := by
    rw [rules_unmarked]
    decide +kernel
  have read : Text.Utf8.read (String.ofList unmarkedText).toUTF8 = unmarkedText := by decide +kernel
  rw [Finding.ofEntry_suits kept (suits_unmarked compiled threshold), read, analysed]
  rfl

theorem scanned_unmarked (threshold : Count) : Scan.look .clear (scanScope rootContext (sparing threshold) unmarkedTree)
    unmarkedTree rootContext.paths.scanRoot = .ok unmarkedScan := by
  have rooted : Scan.rootLocation unmarkedTree rootContext.paths.scanRoot = .ok [] := by decide
  have walked : Scan.walk .clear (scanScope rootContext (sparing threshold) unmarkedTree) unmarkedTree [] =
      [["lib.py"]] := by
    have deep : Scan.depth unmarkedTree = 1 := by decide
    have names : Sight.clear.namesIn unmarkedTree [] = ["lib.py"] := by
      rw [Sight.namesIn_eq_insertionSort Sight.faithful_clear, Tree.namesIn_eq_insertionSort]
      decide +kernel
    have isFile : unmarkedTree.node? ["lib.py"] ≠ some .directory := by decide
    simp [Scan.walk, deep, Finding.visited, names, Finding.Enters, isFile]
  have unruled : (scanScope rootContext (sparing threshold) unmarkedTree).rules.problems = [] := by
    rw [rules_unmarked]
    rfl
  rw [Scan.look_eq rfl rooted, walked, Finding.gather_cons, ofEntry_unmarked, Finding.gather_nil]
  change Except.ok (Scan.ofFindings (scanScope rootContext (sparing threshold) unmarkedTree) [.record unmarkedRecord]) = _
  have sole : [Finding.record unmarkedRecord].filterMap Finding.record? = [unmarkedRecord] := rfl
  rw [Scan.ofFindings, Scan.reportOf, unruled, sole, List.mergeSort_singleton]
  rfl

theorem countable_unmarked (threshold : Count) : Countable rootContext (sparing threshold) unmarkedDisk.tree := by
  intro found scanned
  obtain rfl : unmarkedScan = found := Except.ok.inj ((scanned_unmarked threshold).symm.trans scanned)
  intro record among
  obtain rfl := List.mem_singleton.1 among
  decide

theorem unsummarized (threshold : Count) :
    (scanStore rootContext (sparing threshold)).loadSummary unmarkedDisk.tree = .ok none :=
  loadSummary_of_missing (shelved_unmarked threshold).housed rfl

theorem measured_unmarked {threshold : Count} {found : Scan} {summary : Summary}
    (measured : Measured rootContext (sparing threshold) none .epoch unmarkedDisk.tree found summary) :
    found = unmarkedScan ∧
      Summary.measure unmarkedScan.records none .standard unmarkedScan.report .epoch = .ok summary := by
  obtain rfl : unmarkedScan = found := Except.ok.inj ((scanned_unmarked threshold).symm.trans measured.scanned)
  obtain ⟨prior, loaded, summed⟩ := measured.summed
  obtain rfl : none = prior := Except.ok.inj ((unsummarized threshold).symm.trans loaded)
  exact ⟨rfl, summed⟩

/-- What a handoff loads after the scan. It is known by reasoning, as the stored texts are long. -/
theorem load_unmarked {threshold : Count} {summary : Summary} (version : summary.version = .first)
    (summed : Summary.measure unmarkedScan.records none .standard unmarkedScan.report .epoch = .ok summary)
    (scans : runScan rootContext (sparing threshold) false none .epoch unmarkedDisk = (.ok printed, between)) :
    ∃ briefing, rooted.load between.tree midnight = .ok (briefing, ⟨none, .empty, some .first⟩) := by
  obtain ⟨found, again, missing, measured, -, shelved, summaryIs, missingIs⟩ :=
    scan_stored (shelved_unmarked threshold) (countable_unmarked threshold) scans
  obtain ⟨-, summed'⟩ := measured_unmarked measured
  obtain rfl : summary = again := Except.ok.inj (summed.symm.trans summed')
  have ends := runScan_ends (shelved_unmarked threshold) scans
  have bare : ∀ doc : Doc, doc.OfHandoff → unmarkedTree.node? (doc.place (.ofRoot [])) = none →
      between.tree.node? (doc.place (.ofRoot [])) = none := fun doc of missing =>
    (ends.keeps unmarkedTree_proper.formed (.inl ⟨doc, of, rfl⟩)).trans missing
  have housed : Housed rooted.store (.ofRoot []) between.tree := shelved.housed.of_paths rfl
  -- The report was written, so its directory is there.
  have free : ¬between.tree.Barred ["codebase_summary"] := by
    cases ends with
    | done _ _ _ _ placed =>
      exact fun barred => barred.not_free (housed.seat_of_there .missingDocs (by simp [placed])).free
  have sessionIs := loadSession_of_missing housed free (bare .session trivial rfl) midnight.adopted
  have changelogIs := loadChangelog_of_missing housed (bare .changelog trivial rfl)
  have summaryIs : rooted.store.loadSummary between.tree = .ok (some summary) := summaryIs
  have missingIs : rooted.store.loadMissingDocs between.tree = .ok (some missing) := missingIs
  refine ⟨.ofInherited ⟨none, .empty, some .first⟩ (.ofStored (some .first) none (some missing)), ?_⟩
  rw [Synchronizer.load, sessionIs, changelogIs, summaryIs, missingIs]
  simp only [bind, Except.bind, Option.map_some, version]
  rfl

def closing (tree : Tree) : Except HandoffError HandoffReport × Phase × Disk :=
  rooted.outgoing (.loaded ⟨none, .empty, some .first⟩) unfinished midnight (.ofTree tree 1)

theorem runs_unmarked (threshold : Count) {summary : Summary} (version : summary.version = .first)
    (summed : Summary.measure unmarkedScan.records none .standard unmarkedScan.report .epoch = .ok summary)
    (saves : (saving rootContext (sparing threshold) false none unmarkedScan summary .epoch unmarkedDisk).1.isOk = true)
    (handsOver : (closing (saving rootContext (sparing threshold) false none unmarkedScan summary .epoch
      unmarkedDisk).2.tree).1.isOk = true) :
    ∃ printed between report last ended,
      runScan rootContext (sparing threshold) false none .epoch unmarkedDisk = (.ok printed, between) ∧
      rooted.outgoing .idle unfinished midnight (.ofTree between.tree 1) = (.ok report, last, ended) ∧
      saving rootContext (sparing threshold) false none unmarkedScan summary .epoch unmarkedDisk =
        (.ok printed, between) ∧
      closing between.tree = (.ok report, last, ended) := by
  have scans : runScan rootContext (sparing threshold) false none .epoch unmarkedDisk =
      saving rootContext (sparing threshold) false none unmarkedScan summary .epoch unmarkedDisk :=
    runScan_eq (scanned_unmarked threshold) (unsummarized threshold) summed
  -- What is written is long, so from here on it is only named.
  generalize saving rootContext (sparing threshold) false none unmarkedScan summary .epoch unmarkedDisk = saved
    at scans saves handsOver
  obtain ⟨outcome, between⟩ := saved
  obtain ⟨printed, rfl⟩ := Fallible.exists_of_isOk saves
  obtain ⟨briefing, loads⟩ := load_unmarked version summed scans
  cases called : closing between.tree with
  | mk outcome left =>
  rw [called] at handsOver
  obtain ⟨report, rfl⟩ := Fallible.exists_of_isOk handsOver
  exact ⟨printed, between, report, left.1, left.2, scans, outgoing_of_load loads called, rfl, called⟩

theorem succeeds_unmarked : ∃ printed between report last ended,
    runScan rootContext lenient false none .epoch unmarkedDisk = (.ok printed, between) ∧
    rooted.outgoing .idle unfinished midnight (.ofTree between.tree 1) = (.ok report, last, ended) := by
  have evaluated : ∃ summary ∈
      (Summary.measure unmarkedScan.records none .standard unmarkedScan.report .epoch).toOption,
      summary.version = .first ∧
      (saving rootContext (sparing 1) false none unmarkedScan summary .epoch unmarkedDisk).1.isOk = true ∧
      (closing (saving rootContext (sparing 1) false none unmarkedScan summary .epoch
        unmarkedDisk).2.tree).1.isOk = true := by
    decide +kernel
  obtain ⟨summary, measured, version, saves, handsOver⟩ := evaluated
  obtain ⟨printed, between, report, last, ended, scans, closes, -⟩ :=
    runs_unmarked 1 version (Fallible.ok_of_toOption measured) saves handsOver
  exact ⟨printed, between, report, last, ended, scans, closes⟩

/-- A function has no marker, and yet the incoming session is told that the documentation is consistent. -/
theorem consistent_unmarked : ∃ printed between report last ended summary briefing inherited,
    runScan rootContext lenient false none .epoch unmarkedDisk = (.ok printed, between) ∧
    rooted.outgoing .idle unfinished midnight (.ofTree between.tree 1) = (.ok report, last, ended) ∧
    rooted.incoming .idle ended.tree oneOClock = (.ok briefing, .loaded inherited) ∧
    rooted.store.loadSummary ended.tree = .ok (some summary) ∧
    briefing.documentation.isConsistent = true ∧ summary.documentedFunctions ≠ summary.totalFunctions := by
  obtain ⟨printed, between, report, last, ended, scans, handsOver⟩ := succeeds_unmarked
  have onward : (Disk.ofTree between.tree 1).tree = between.tree := rfl
  have ofPaths : rooted.store.paths = rootContext.paths := rfl
  obtain ⟨found, summary, briefing, inherited, measured, stored, incoming, assessed⟩ :=
    incoming_assessed (shelved_unmarked 1) (countable_unmarked 1) scans onward ofPaths handsOver rfl oneOClock
  obtain ⟨_, summary', missing, -, -, shelved, summaryIs, missingIs⟩ :=
    scan_stored (shelved_unmarked 1) (countable_unmarked 1) scans
  have housed : Housed rooted.store (.ofRoot []) (Disk.ofTree between.tree 1).tree := shelved.housed.of_paths ofPaths
  obtain ⟨briefing', inherited', incoming', current⟩ :=
    incoming_versionsConsistent housed summaryIs missingIs handsOver (by decide) rfl oneOClock
  -- Both lemmas speak of the one briefing.
  rw [incoming] at incoming'
  cases incoming'
  obtain ⟨rfl, -⟩ := measured_unmarked measured
  have few : ∀ record ∈ unmarkedScan.records, record.undocumented ≤ lenient.missingDocsThreshold := by decide
  have some : ¬∀ record ∈ unmarkedScan.records, record.undocumented = 0 := by decide
  exact ⟨printed, between, report, last, ended, summary, briefing, inherited, scans, handsOver, incoming, stored,
    assessed.consistent.2 ⟨current, few⟩, fun whole => some (assessed.whole.1 whole)⟩

/-- What the incoming session is told of this project is what the scan found beyond the threshold. -/
theorem isConsistent_iff_documented_unmarked : ∃ printed between report last ended,
    Shelved (scanStore rootContext lenient) [] unmarkedDisk.tree ∧ Countable rootContext lenient unmarkedDisk.tree ∧
    runScan rootContext lenient false none .epoch unmarkedDisk = (.ok printed, between) ∧
    rooted.store.paths = rootContext.paths ∧
    rooted.outgoing .idle unfinished midnight (.ofTree between.tree 1) = (.ok report, last, ended) ∧
    ∃ found summary briefing inherited, Measured rootContext lenient none .epoch unmarkedDisk.tree found summary ∧
      rooted.store.loadSummary ended.tree = .ok (some summary) ∧
      rooted.incoming .idle ended.tree oneOClock = (.ok briefing, .loaded inherited) ∧
      Assessed lenient.missingDocsThreshold found summary briefing.documentation ∧
      (lenient.missingDocsThreshold = 0 → (briefing.documentation.isConsistent = true ↔
        briefing.documentation.versionsConsistent = true ∧
          summary.documentedFunctions = summary.totalFunctions)) := by
  obtain ⟨printed, between, report, last, ended, scans, handsOver⟩ := succeeds_unmarked
  have onward : (Disk.ofTree between.tree 1).tree = between.tree := rfl
  have ofPaths : rooted.store.paths = rootContext.paths := rfl
  exact ⟨printed, between, report, last, ended, shelved_unmarked 1, countable_unmarked 1, scans, ofPaths, handsOver,
    isConsistent_iff_documented (shelved_unmarked 1) (countable_unmarked 1) scans onward ofPaths handsOver rfl
      oneOClock⟩

end Command

end Waymark
