import Waymark.Proofs.Command.Settled
import Waymark.Proofs.Disk.Calm
import Waymark.Proofs.Summary.Measure

/-! Scanning the project again. A second scan finds the tree that the first one left, tells the same of it and
writes the same documents with another time. Only directories that the first one made and that are ignored
count in the report of the second alone.
-/

set_option autoImplicit false

namespace Waymark

open OnDisk Store

variable {a b : Tree} {dir home k : Location} {name : String} {store : Store} {disk : Disk} {doc : Doc}
  {content : ByteArray}

/-! Writing a document again -/

theorem Tree.Touches.same_but (touches : Tree.Touches dir (Disk.Beside dir name) a b) (formed : a.Formed)
    (directory : a.node? dir = some .directory) (clear : a.node? (dir ++ [name ++ ".tmp"]) = none)
    (cleared : b.node? (dir ++ [name ++ ".tmp"]) = none) (other : k ≠ dir ++ [name]) : b.node? k = a.node? k := by
  by_cases temporary : k = dir ++ [name ++ ".tmp"]
  · rw [temporary, clear, cleared]
  · have outside : ¬Disk.Beside dir name k := by
      rintro (same | same)
      · exact other same
      · exact temporary same
    rcases touches.kept k outside with same | ⟨above, missing, -⟩
    · exact same
    · rw [formed.directory_of_prefix directory above] at missing
      cases missing

namespace Store

theorem readRaw_of_place (housed : Housed store home a) (there : a.node? (doc.place home) = some (.file content)) :
    readRaw a (doc.path store) = .ok (some content) := by
  rw [readRaw, housed.readOptional (housed.seat_of_there doc (by simp [there])), there]
  rfl

theorem load_of_place {α : Type} {decode : ByteArray → Decoded α} {value : α} (housed : Housed store home a)
    (there : a.node? (doc.place home) = some (.file content)) (reads : decode content = .ok value) :
    load a (doc.path store) decode = .ok (some value) := by
  rw [load, readRaw_of_place housed there]
  simp only [bind, Except.bind, decodeAt, reads]
  rfl

theorem loadSummary_of_place {summary : Summary} (housed : Housed store home a) (measured : summary.Measured)
    (there : a.node? (Doc.summary.place home) = some (.file summary.write.toUTF8)) :
    store.loadSummary a = .ok (some summary) := by
  have loaded : load a (Doc.summary.path store) Document.readSummary = .ok (some summary) :=
    load_of_place housed there (Summary.readSummary_write measured)
  exact loaded

theorem loadMissingDocs_of_place {missing : MissingDocs} (housed : Housed store home a)
    (there : a.node? (Doc.missingDocs.place home) = some (.file missing.write.toUTF8)) :
    store.loadMissingDocs a = .ok (some missing) := by
  have loaded : load a (Doc.missingDocs.path store) Document.readMissingDocs = .ok (some missing) :=
    load_of_place housed there missing.readMissingDocs_write
  exact loaded

theorem writeRaw_calm (calm : disk.script = .none) (housed : Housed store home disk.tree)
    (there : disk.tree.node? (doc.place home) = some (.file content))
    (clear : disk.tree.node? (doc.temporary home) = none) (fresh : ByteArray) :
    ∃ after, store.writeRaw (doc.path store) fresh disk = (.ok (), after) ∧ after.script = .none ∧
      Tree.Touches (doc.dir home) (doc.Beside home) disk.tree after.tree ∧
      after.tree.node? (doc.place home) = some (.file fresh) ∧
      ∀ k, k ≠ doc.place home → after.tree.node? k = disk.tree.node? k := by
  have seat := housed.seat_of_there doc (by simp [there])
  have directory : disk.tree.node? (doc.dir home) = some .directory :=
    housed.formed.inside _ doc.name (by rw [← Doc.place, there]; simp)
  have free : ∀ n ∈ disk.tree.node? (doc.dir home ++ [doc.name]), n.isWay = false := by
    rw [← Doc.place, there]
    rintro n same
    cases same
    rfl
  obtain ⟨after, replaced⟩ :=
    Disk.replace_calm store.attempts fresh calm seat housed.formed directory free clear
  have written : store.writeRaw (doc.path store) fresh disk = (.ok (), after) := adapt_of_ok replaced
  have ends := writeRaw_meets housed doc fresh
  have script := (keeps_writeRaw store Tree.stable_distinct (doc.path store) fresh).script disk
  rw [written] at ends script
  obtain ⟨touches, placed, cleared⟩ := ends
  exact ⟨after, written, script.trans calm, touches, placed, fun k other =>
    touches.same_but housed.formed directory clear cleared other⟩

theorem saveSummary_same {prior summary : Summary} {now : Time} (housed : Housed store home disk.tree)
    (there : disk.tree.node? (Doc.summary.place home) = some (.file content))
    (reads : Document.readSummary content = .ok prior) (version : prior.version = summary.version) :
    store.saveSummary summary now disk = store.writeRaw (Doc.summary.path store) summary.write.toUTF8 disk := by
  have raw : readRaw disk.tree (Doc.summary.path store) = .ok (some content) := readRaw_of_place housed there
  rw [Doc.path] at raw
  have asked : ask (readRaw · store.paths.summary) disk = (.ok (some content), disk) := by rw [ask, raw]
  unfold saveSummary
  rw [bind_of_ok asked]
  simp only [Option.map_some, reads, version, ne_eq, not_true, if_false]
  rfl

end Store

/-! Records -/

theorem Analysis.length_parts {language : Language} {text : List Char} {analysis : Analysis}
    (analysed : ofText language text = .ok analysis) :
    analysis.documented.length + analysis.undocumented.length = analysis.names.length := by
  obtain ⟨names, -, analysed⟩ := Fallible.bind_ok analysed
  cases analysed
  have parts := (List.filter_append_perm Prod.snd names).length_eq
  rw [List.length_append] at parts
  simpa only [List.length_map] using parts

theorem Finding.recordOf_covered {language : Language} {text : List Char} {analysis : Analysis}
    {path extension : String} (analysed : Analysis.ofText language text = .ok analysis)
    (few : analysis.names.length < Count.limit) : (Finding.recordOf path extension analysis).Covered := by
  have parts := Analysis.length_parts analysed
  rw [FileRecord.Covered, UInt64.le_iff_toNat_le]
  change (Count.ofLength _).toNat ≤ (Count.ofLength _).toNat
  rw [Count.toNat_ofLength few, Count.toNat_ofLength (by omega)]
  omega

theorem Scan.RecordOf.covered {sight : Sight} {scope : Scope} {names : List String} {record : FileRecord}
    (recordOf : RecordOf sight scope a home names record) (few : record.names.length < Count.limit) : record.Covered := by
  obtain ⟨extension, language, content, analysis, -, analysed, rfl⟩ := recordOf
  exact Finding.recordOf_covered analysed few

namespace Command

variable {context : Context} {config : ScanConfig} {force : Bool} {verbosity : Option Verbosity} {now later : Time}
  {after : Disk} {outcome : Except CommandError String} {printed : String} {prior : Option Summary}
  {summary : Summary} {missing : MissingDocs} {found : Scan} {root : Location}

/-! The second scan -/

/-- What is written is of the version that is stored, so it takes the places of what was written before. -/
theorem saving_again {before : Tree} {fresh : Summary} {listed : MissingDocs} (calm : disk.script = .none)
    (shelved : Shelved (scanStore context config) home disk.tree) (settled : Settled home before disk.tree summary missing)
    (measured : summary.Measured) (version : summary.version = fresh.version)
    (counted : MissingDocs.ofRecords found.records config.missingDocsThreshold now = .ok listed) :
    ∃ after, saving context config false prior found fresh now disk =
        (.ok (Report.scan fresh found.report listed), after) ∧
      Shelved (scanStore context config) home after.tree ∧
      after.tree.node? (Doc.summary.place home) = some (.file fresh.write.toUTF8) ∧
      after.tree.node? (Doc.missingDocs.place home) = some (.file listed.write.toUTF8) ∧
      ∀ k, k ≠ Doc.summary.place home → k ≠ Doc.missingDocs.place home → after.tree.node? k = disk.tree.node? k := by
  obtain ⟨above, above'⟩ := dir_above_history home
  obtain ⟨between, saved, calm', touches, placed, others⟩ := writeRaw_calm calm shelved.housed settled.summarized
    settled.summaryCleared fresh.write.toUTF8
  have shelved' := shelved.touches (touches.mono above fun _ beside => beside) fun _ => .inr ∘ .inl
  -- The report is written beside the summary and not in its place.
  have apart : ∀ k, Doc.missingDocs.Beside home k → k ≠ Doc.summary.place home := by
    rintro k beside rfl
    exact summary_beside_apart (.inl rfl) beside
  have there := (others _ (apart _ (.inl rfl))).trans settled.reported
  have clear := (others _ (apart _ (.inr rfl))).trans settled.reportCleared
  obtain ⟨after, reported, -, touches', placed', others'⟩ := writeRaw_calm calm' shelved'.housed there clear
    listed.write.toUTF8
  have summarySaved : (scanStore context config).saveSummary fresh now disk = (.ok (), between) :=
    (saveSummary_same shelved.housed settled.summarized (Summary.readSummary_write measured) version).trans saved
  have reportSaved : (scanStore context config).saveMissingDocs listed between = (.ok (), after) := reported
  have copied : snapshot (scanStore context config) false prior fresh now disk = (.ok (), disk) := rfl
  have list : OnDisk.ofResult CommandError.overflow
      (MissingDocs.ofRecords found.records config.missingDocsThreshold now) between = (.ok listed, between) := by
    rw [counted]
    rfl
  refine ⟨after, ?_, ?_, ?_, placed', ?_⟩
  · unfold saving
    rw [bind_of_ok copied, bind_of_ok (adapt_of_ok summarySaved)]
    unfold reporting
    rw [bind_of_ok list, bind_of_ok (adapt_of_ok reportSaved)]
    rfl
  · exact shelved'.touches (touches'.mono above' fun _ beside => beside) fun _ => .inr ∘ .inr
  · exact (others' _ fun same => apart _ (.inl rfl) same.symm).trans placed
  · intro k notSummary notReport
    exact (others' k notReport).trans (others k notSummary)

/-! Both scans -/

/-- Directories that were made and that a scan does not enter. -/
def newlyPruned (rules : IgnoreRules) (before after : Tree) (root : Location) : Set (List String) :=
  {names | Scan.Pruned .clear rules after root names ∧ before.node? (root ++ names) ≠ some .directory}

/-- How the tree that a scan left compares to the one that it leaves when it is run again, which tells of another
number of directories that are not entered. -/
structure Repeats (store : Store) (home : Location) (later : Time) (summary : Summary) (missing : MissingDocs)
    (pruned : Count) (first second : Tree) : Prop where
  stored : store.loadSummary first = .ok (some summary)
  replaced : store.loadSummary second = .ok (some { summary with
    generatedAt := later
    runReport := summary.runReport.map fun report => { report with directoriesPruned := pruned } })
  reported : store.loadMissingDocs first = .ok (some missing)
  retold : store.loadMissingDocs second = .ok (some { missing with generatedAt := later })
  others : ∀ k, k ≠ Doc.summary.place home → k ≠ Doc.missingDocs.place home → second.node? k = first.node? k

theorem ncard_newlyPruned_pos {rules : IgnoreRules} {names : List String} (newly : names ∈ newlyPruned rules a b root) :
    0 < (newlyPruned rules a b root).ncard := by
  have finite : (newlyPruned rules a b root).Finite := (Scan.pruned_finite .clear rules b root).subset fun _ more => more.1
  exact (Set.ncard_pos finite).2 ⟨names, newly⟩

theorem scanScope_after {after : Tree} (shelved : Shelved (scanStore context config) home disk.tree)
    (settled : Settled home disk.tree after summary missing)
    (rooted : Scan.rootLocation disk.tree context.paths.scanRoot = .ok root)
    (lasting : disk.tree.Lasting home context.paths.ignoreFile) :
    scanScope context config after = scanScope context config disk.tree := by
  obtain ⟨output, host, same, -⟩ := shelved.housed.paths
  have same : context.paths = .derive output host := same
  have isFile : IsFileName Config.ignoreFileName := by decide
  have foreign : ¬IsOutputName Config.ignoreFileName := by decide
  have ignoreFile : context.paths.ignoreFile = context.paths.scanRoot.join Config.ignoreFileName := by rw [same]; rfl
  rw [ignoreFile] at lasting
  rw [scanScope, scanScope, ignoreFile,
    IgnoreRules.load_touches settled.touches shelved.housed.formed rooted isFile foreign lasting]

namespace Completed

variable {again : Disk}

theorem alike (completed : Completed context config verbosity now home disk.tree after.tree root found summary missing)
    (shelved : Shelved (scanStore context config) home disk.tree) (proper : disk.tree.Proper)
    (lasting : disk.tree.Lasting home context.paths.ignoreFile) :
    ∃ other, Scan.look .clear (scanScope context config disk.tree) after.tree context.paths.scanRoot = .ok other ∧
      Scan.look .clear (scanScope context config after.tree) after.tree context.paths.scanRoot = .ok other ∧
      Scan.Alike found other := by
  have touches := completed.settled.touches
  have rooted := Scan.rootLocation_touches touches completed.rooted
  have files := Scan.sameFiles_of_touches touches (scanScope_languages context config disk.tree) root
  have runs := Scan.look_alike Sight.faithful_clear (fun _ => rfl) proper completed.proper files completed.rooted rooted
  rw [completed.scanned] at runs
  rw [scanScope_after shelved completed.settled completed.rooted lasting]
  generalize Scan.look .clear (scanScope context config disk.tree) after.tree context.paths.scanRoot = outcome at runs
  cases runs with
  | ok alike => exact ⟨_, rfl, rfl, alike⟩

theorem measured (completed : Completed context config verbosity now home disk.tree after.tree root found summary missing)
    (proper : disk.tree.Proper) (countable : disk.tree.items.length < Count.limit)
    (few : ∀ record ∈ found.records, record.names.length < Count.limit) : summary.Measured := by
  have accounts := Scan.accounts_of_look Sight.faithful_clear rfl proper countable completed.rooted completed.scanned
  obtain ⟨prior, summed⟩ := completed.summed
  refine Summary.measured_of_measure (fun record among => ?_) summed
  obtain ⟨names, recordOf⟩ := accounts.recordOf among
  exact recordOf.covered (few record among)

theorem runScan_again
    (completed : Completed context config verbosity now home disk.tree after.tree root found summary missing)
    (shelved : Shelved (scanStore context config) home disk.tree) (proper : disk.tree.Proper)
    (lasting : disk.tree.Lasting home context.paths.ignoreFile) (measured : summary.Measured)
    (calm : again.script = .none) (same : again.tree = after.tree) (later : Time) :
    ∃ other printed final,
      Scan.look .clear (scanScope context config disk.tree) after.tree context.paths.scanRoot = .ok other ∧
      runScan context config false verbosity later again = (.ok printed, final) ∧
      Repeats (scanStore context config) home later summary missing other.report.directoriesPruned
        after.tree final.tree := by
  obtain ⟨other, scanned, scanned', alike⟩ := completed.alike shelved proper lasting
  obtain ⟨prior, summed⟩ := completed.summed
  have settled := completed.settled
  have shelved' := shelved.touches settled.touches fun _ => ScanOutput.isOutput
  -- The report of the run is the first one but for the directories that were not entered.
  have told : (summary.runReport.map fun _ => other.report) =
      summary.runReport.map fun report => { report with directoriesPruned := other.report.directoriesPruned } := by
    refine Option.map_congr fun report among => ?_
    rw [Summary.eq_report_of_measure summed among]
    exact alike.report
  have summed' := Summary.measure_again summed other.report later
  have listed' := MissingDocs.ofRecords_again completed.listed later
  rw [← alike.records] at summed' listed'
  rw [told] at summed'
  generalize repeated : ({ summary with
      generatedAt := later
      runReport := summary.runReport.map fun report =>
        { report with directoriesPruned := other.report.directoriesPruned } } : Summary) = fresh at summed'
  have measured' : fresh.Measured := by
    rw [← repeated]
    exact ⟨measured.total, measured.details⟩
  have version : summary.version = fresh.version := by rw [← repeated]
  have summaryLoads := loadSummary_of_place shelved'.housed measured settled.summarized
  have reportLoads := loadMissingDocs_of_place shelved'.housed settled.reported
  rw [← same] at scanned scanned' settled shelved' summaryLoads reportLoads ⊢
  obtain ⟨final, ran, shelved'', summarized, reported, others⟩ :=
    saving_again calm shelved' settled measured version listed'
  have summaryLoads' := loadSummary_of_place shelved''.housed measured' summarized
  have reportLoads' := loadMissingDocs_of_place shelved''.housed reported
  rw [← repeated] at summaryLoads'
  exact ⟨other, _, final, scanned, (runScan_eq scanned' summaryLoads summed').trans ran,
    ⟨summaryLoads, summaryLoads', reportLoads, reportLoads', others⟩⟩

end Completed

theorem pruned_again {scope : Scope} {path : Path} {other : Scan} (properA : a.Proper) (properB : b.Proper)
    (countableA : a.items.length < Count.limit) (countableB : b.items.length < Count.limit)
    (touches : Tree.Touches dir (ScanOutput home) a b) (rooted : Scan.rootLocation a path = .ok root)
    (first : Scan.look .clear scope a path = .ok found) (second : Scan.look .clear scope b path = .ok other) :
    other.report.directoriesPruned.toNat =
      found.report.directoriesPruned.toNat + (newlyPruned scope.rules a b root).ncard := by
  have before := Scan.accounts_of_look Sight.faithful_clear rfl properA countableA rooted first
  have after := Scan.accounts_of_look Sight.faithful_clear rfl properB countableB
    (Scan.rootLocation_touches touches rooted) second
  rw [before.pruned, after.pruned]
  exact Scan.pruned_grows fun k directory => touches.ways k _ rfl directory

/-- A scan that is run again on a disk on which nothing fails succeeds, and leaves what the first one left but for
the times and the number of directories that are not entered, which grows by those that the first one made. -/
theorem rescan_repeats {again : Disk} (shelved : Shelved (scanStore context config) home disk.tree)
    (proper : disk.tree.Proper) (lasting : disk.tree.Lasting home context.paths.ignoreFile)
    (ran : runScan context config false verbosity now disk = (.ok printed, after))
    (countable : disk.tree.items.length < Count.limit) (countable' : after.tree.items.length < Count.limit)
    (few : ∀ found, Scan.look .clear (scanScope context config disk.tree) disk.tree context.paths.scanRoot = .ok found →
      ∀ record ∈ found.records, record.names.length < Count.limit)
    (calm : again.script = .none) (same : again.tree = after.tree) (later : Time) :
    ∃ root summary missing pruned printed final,
      Scan.rootLocation disk.tree context.paths.scanRoot = .ok root ∧
      runScan context config false verbosity later again = (.ok printed, final) ∧
      Repeats (scanStore context config) home later summary missing pruned after.tree final.tree ∧
      ∀ report ∈ summary.runReport, pruned.toNat = report.directoriesPruned.toNat +
        (newlyPruned (.load disk.tree context.paths.ignoreFile) disk.tree after.tree root).ncard := by
  obtain ⟨root, found, summary, missing, completed⟩ := completed_of_runScan shelved proper ran
  have measured := completed.measured proper countable (few found completed.scanned)
  obtain ⟨other, printed, final, scanned, ran', repeats⟩ :=
    completed.runScan_again shelved proper lasting measured calm same later
  refine ⟨root, summary, missing, _, printed, final, completed.rooted, ran', repeats, fun report among => ?_⟩
  have grown := pruned_again proper completed.proper countable countable' completed.settled.touches completed.rooted
    completed.scanned scanned
  obtain ⟨prior, summed⟩ := completed.summed
  rwa [scanScope_rules, ← Summary.eq_report_of_measure summed among] at grown

/-! A project that ignores the directory of the tool's state -/

theorem shelved_of_bare {tree : Tree} (formed : tree.Formed) (bare : ∀ room ∈ roomNames, tree.node? [room] = none)
    (unlinked : ∀ k target, tree.node? k ≠ some (.link target)) : Shelved (scanStore rootContext config) [] tree := by
  have missing : ∀ k, k ≠ [] → tree.node? (["codebase_summary"] ++ k) = none := by
    intro k inside
    apply Classical.byContradiction
    intro there
    have prior : ["codebase_summary"] <+: (["codebase_summary"] ++ k).dropLast := by
      rw [List.dropLast_append_of_ne_nil inside]
      exact List.prefix_append _ _
    have directory := formed.directory_of_prefix (formed.above there) prior
    rw [bare _ (by decide)] at directory
    cases directory
  have housed : Housed (scanStore rootContext config) (.ofRoot []) tree :=
    .of_unlinked formed ⟨⟨"/"⟩, ⟨"/"⟩, rfl, .there rfl rfl⟩ (fun room _ => unlinked [room]) fun k _ => unlinked k
  refine ⟨⟨unlinked _, fun _ _ k _ => unlinked k, fun name there => ?_⟩, housed⟩
  exact absurd (missing ["history", name] (by simp)) there

def ignoringTree : Tree where
  items := [([".scanignore"], ⟨.file "codebase_summary\n".toUTF8, 0⟩)]
  workingDir := []

theorem ignoringTree_proper : ignoringTree.Proper := by
  apply Tree.Proper.of_items <;> decide

theorem ignoringTree_unlinked (k : Location) (target : Path) : ignoringTree.node? k ≠ some (.link target) :=
  Tree.unlinked_of_items (by simp [ignoringTree]) k target

theorem shelved_ignoring : Shelved (scanStore rootContext .default) [] ignoringTree :=
  shelved_of_bare ignoringTree_proper.formed (by decide) ignoringTree_unlinked

theorem lasting_ignoring : ignoringTree.Lasting [] rootContext.paths.ignoreFile :=
  .inl fun k _ => ignoringTree_unlinked k

theorem ignoringTree_runs :
    (runScan rootContext .default false none .epoch (.ofTree ignoringTree 0)).1.isOk = true ∧
    (runScan rootContext .default false none .epoch (.ofTree ignoringTree 0)).2.tree.items.length < Count.limit ∧
    (runScan rootContext .default false none .epoch (.ofTree ignoringTree 0)).2.tree.node?
      ["codebase_summary"] = some .directory ∧
    (Scan.look .clear (scanScope rootContext .default ignoringTree) ignoringTree
      rootContext.paths.scanRoot).toOption.map (·.records) = some [] := by
  decide +kernel

theorem runScan_ignoring : ∃ printed after,
    runScan rootContext .default false none .epoch (.ofTree ignoringTree 0) = (.ok printed, after) ∧
    after.tree.items.length < Count.limit ∧ after.tree.node? ["codebase_summary"] = some .directory := by
  obtain ⟨succeeds, countable, made, -⟩ := ignoringTree_runs
  cases ran : runScan rootContext .default false none .epoch (.ofTree ignoringTree 0) with
  | mk outcome after =>
  rw [ran] at succeeds countable made
  cases outcome with
  | error error => cases succeeds
  | ok printed => exact ⟨printed, after, rfl, countable, made⟩

theorem records_ignoring {found : Scan} (scanned : Scan.look .clear (scanScope rootContext .default ignoringTree) ignoringTree
    rootContext.paths.scanRoot = .ok found) : found.records = [] := by
  have none := ignoringTree_runs.2.2.2
  rw [scanned] at none
  exact Option.some.inj none

theorem rootLocation_ignoring : Scan.rootLocation ignoringTree rootContext.paths.scanRoot = .ok [] := by decide

theorem excludes_ignoring : (scanScope rootContext .default ignoringTree).rules.excludes
    (["codebase_summary"].map Sight.clear.text) = true := by
  rw [Sight.map_text_clear]
  decide

theorem newlyPruned_ignoring {after : Tree} (made : after.node? ["codebase_summary"] = some .directory) :
    ["codebase_summary"] ∈ newlyPruned (scanScope rootContext .default ignoringTree).rules ignoringTree after [] := by
  have isFile : ∀ name ∈ ["codebase_summary"].map Sight.clear.text, IsFileName name := by decide +kernel
  have missing : ignoringTree.node? ["codebase_summary"] ≠ some .directory := by decide
  refine ⟨⟨by simp, made, (IgnoreRules.ignores_iff isFile).2 excludes_ignoring, ?_,
    fun _ _ _ _ => rfl⟩, missing⟩
  intro above inside within apart
  rcases List.prefix_cons_iff.1 within with rfl | ⟨rest, rfl, nothing⟩
  · exact absurd rfl inside
  · rw [List.prefix_nil.1 nothing] at apart
    exact absurd rfl apart

/-- The directory of the tool's state is ignored, and the second scan counts it. -/
theorem rescan_counts_ignored : ∃ printed after printed' final summary summary',
    runScan rootContext .default false none .epoch (.ofTree ignoringTree 0) = (.ok printed, after) ∧
    runScan rootContext .default false none .epoch (.ofTree after.tree after.time) = (.ok printed', final) ∧
    (scanStore rootContext .default).loadSummary after.tree = .ok (some summary) ∧
    (scanStore rootContext .default).loadSummary final.tree = .ok (some summary') ∧
    summary'.runReport ≠ summary.runReport := by
  obtain ⟨printed, after, ran, countable, made⟩ := runScan_ignoring
  obtain ⟨root, found, summary, missing, completed⟩ := completed_of_runScan shelved_ignoring ignoringTree_proper ran
  obtain rfl : [] = root := Except.ok.inj (rootLocation_ignoring.symm.trans completed.rooted)
  have small : ignoringTree.items.length < Count.limit := by decide
  have measured : summary.Measured := by
    refine completed.measured ignoringTree_proper small fun record among => ?_
    rw [records_ignoring completed.scanned] at among
    cases among
  have calm : (Disk.ofTree after.tree after.time).script = .none := rfl
  obtain ⟨other, printed', final, scanned, ran', repeats⟩ :=
    completed.runScan_again shelved_ignoring ignoringTree_proper lasting_ignoring measured calm rfl .epoch
  have grown : other.report.directoriesPruned.toNat = found.report.directoriesPruned.toNat +
      (newlyPruned (scanScope rootContext .default ignoringTree).rules ignoringTree after.tree []).ncard :=
    pruned_again ignoringTree_proper completed.proper small countable completed.settled.touches completed.rooted
      completed.scanned scanned
  -- The directory that the first scan has made is counted by the second one only.
  have counts := ncard_newlyPruned_pos (newlyPruned_ignoring made)
  refine ⟨printed, after, printed', final, summary, _, ran, ran', repeats.stored, repeats.replaced, ?_⟩
  obtain ⟨prior, summed⟩ := completed.summed
  have reported : summary.runReport = some found.report := Summary.runReport_of_measure summed
  rw [reported]
  intro same
  have equal := congrArg RunReport.directoriesPruned (Option.some.inj same)
  have equal : other.report.directoriesPruned = found.report.directoriesPruned := equal
  rw [equal] at grown
  omega

/-- The ignored directory apart, the second scan leaves what the first one left. -/
theorem rescan_repeats_ignoring : ∃ printed after root summary missing pruned printed' final,
    Shelved (scanStore rootContext .default) [] ignoringTree ∧ ignoringTree.Proper ∧
    ignoringTree.Lasting [] rootContext.paths.ignoreFile ∧
    runScan rootContext .default false none .epoch (.ofTree ignoringTree 0) = (.ok printed, after) ∧
    Scan.rootLocation ignoringTree rootContext.paths.scanRoot = .ok root ∧
    runScan rootContext .default false none .epoch (.ofTree after.tree after.time) = (.ok printed', final) ∧
    Repeats (scanStore rootContext .default) [] .epoch summary missing pruned after.tree final.tree ∧
    ∀ report ∈ summary.runReport, pruned.toNat = report.directoriesPruned.toNat +
      (newlyPruned (.load ignoringTree rootContext.paths.ignoreFile) ignoringTree after.tree root).ncard := by
  obtain ⟨printed, after, ran, countable, -⟩ := runScan_ignoring
  have small : ignoringTree.items.length < Count.limit := by decide
  have calm : (Disk.ofTree after.tree after.time).script = .none := rfl
  have few : ∀ found, Scan.look .clear (scanScope rootContext .default ignoringTree) ignoringTree
      rootContext.paths.scanRoot = .ok found → ∀ record ∈ found.records, record.names.length < Count.limit := by
    intro found scanned record among
    rw [records_ignoring scanned] at among
    cases among
  obtain ⟨root, summary, missing, pruned, printed', final, rooted, ran', repeats, counts⟩ :=
    rescan_repeats shelved_ignoring ignoringTree_proper lasting_ignoring ran small countable few calm rfl .epoch
  exact ⟨printed, after, root, summary, missing, pruned, printed', final, shelved_ignoring, ignoringTree_proper,
    lasting_ignoring, ran, rooted, ran', repeats, counts⟩

end Command

end Waymark
