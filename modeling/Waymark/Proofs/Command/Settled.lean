import Waymark.Proofs.Command.Scan
import Waymark.Proofs.Disk.Keeps
import Waymark.Proofs.Scan.Account
import Waymark.Proofs.Store.Outputs

/-! What a scan of the project that succeeds leaves: the summary and the report in their places, no temporary
files, and the same files to tell of under the same rules.
-/

set_option autoImplicit false

namespace Waymark

variable {tree a b : Tree} {absolute : Bool} {steps : List String} {path : Path} {home root k : Location}
  {name : String} {disk : Disk}

/-! Names of places -/

theorem Path.plain_of_mem_names (among : name ∈ path.names) : name ≠ "" ∧ '/' ∉ name.toList := by
  obtain ⟨piece, kept, rfl⟩ := List.mem_map.1 among
  obtain ⟨listed, more⟩ := List.mem_filter.1 kept
  rw [String.toList_ofList]
  refine ⟨fun empty => ?_, Text.not_mem_of_mem_split listed⟩
  rw [← String.toList_inj, String.toList_ofList] at empty
  subst empty
  cases more

theorem Tree.Leads.areFiles (h : tree.Leads absolute steps home) (proper : tree.Proper)
    (plain : ∀ step ∈ steps, step ≠ "" ∧ '/' ∉ step.toList) : ∀ name ∈ home, IsFileName name := by
  induction h with
  | there _ directory => exact proper.isFileName (by simp [directory])
  | @inside steps home name _ isName _ ih =>
    have outer := ih fun step among => plain step (List.mem_append_left _ among)
    obtain ⟨nonempty, slashless⟩ := plain name (by simp)
    intro other among
    rcases List.mem_append.1 among with among | among
    · exact outer other among
    · rw [List.mem_singleton.1 among]
      exact ⟨nonempty, slashless, isName⟩
  | silent _ ih => exact ih fun step among => plain step (List.mem_append_left _ among)

namespace Store

/-- Where a scan writes, and takes away earlier summaries. -/
def ScanOutput (home k : Location) : Prop :=
  HistoryOutput home k ∨ Doc.summary.Beside home k ∨ Doc.missingDocs.Beside home k

theorem ScanOutput.isOutput (h : ScanOutput home k) : IsOutput home k := h.imp_left HistoryOutput.inHistory

theorem Doc.Beside.named {doc : Doc} (h : doc.Beside home k) :
    ∃ dir name, IsFileName name ∧ IsOutputName name ∧ k = dir ++ [name] := by
  rcases h with same | same
  · exact ⟨_, _, doc.isFileName, isOutputName_doc doc, same⟩
  · exact ⟨_, _, Path.isFileName_temporary doc.isFileName, isOutputName_temporary doc.isFileName, same⟩

theorem ScanOutput.named (h : ScanOutput home k) :
    ∃ dir name, IsFileName name ∧ IsOutputName name ∧ k = dir ++ [name] := by
  rcases h with ⟨name, isFile, output, same⟩ | beside | beside
  · exact ⟨_, name, isFile, output, same⟩
  · exact beside.named
  · exact beside.named

theorem ScanOutput.last (h : ScanOutput home k) : ∃ name, IsOutputName name ∧ k.getLast? = some name := by
  obtain ⟨dir, name, -, output, rfl⟩ := h.named
  exact ⟨name, output, List.getLast?_concat⟩

variable {store : Store}

theorem Shelved.areFiles (h : Shelved store home tree) (proper : tree.Proper) :
    ∀ name ∈ historyPlace home, IsFileName name := by
  obtain ⟨root, host, -, reaches, -⟩ := h.housed.paths
  have outer := Tree.Leads.areFiles reaches proper fun _ => Path.plain_of_mem_names
  have inner : ∀ name ∈ ["codebase_summary", "history"], IsFileName name := by decide
  intro name among
  rcases List.mem_append.1 among with among | among
  · exact outer name among
  · exact inner name among

theorem Shelved.proper (h : Shelved store home a) (proper : a.Proper) (distinct : b.Distinct)
    (touches : Tree.Touches (historyPlace home) (ScanOutput home) a b) : b.Proper := by
  refine ⟨touches.formed, distinct, fun k name there => ?_⟩
  by_cases output : ScanOutput home (k ++ [name])
  · obtain ⟨dir, other, isFile, -, same⟩ := output.named
    obtain ⟨-, last⟩ := List.append_inj' same rfl
    cases last
    exact isFile
  · rcases touches.kept _ output with same | ⟨above, -, -⟩
    · exact proper.named k name (same ▸ there)
    · exact h.areFiles proper name (above.subset (by simp))

end Store

namespace Scan

open Store Finding

variable {scope : Scope}

theorem sameFiles_of_touches {dir : Location} (touches : Tree.Touches dir (ScanOutput home) a b)
    (languages : scope.languages = Languages.builtin) (root : Location) :
    SameFiles .clear .clear scope a b root := by
  refine sameFiles_of_places languages rfl root (fun k => ?_) fun _ _ _ _ _ _ => rfl
  by_cases output : ScanOutput home k
  · obtain ⟨name, isOutput, last⟩ := output.last
    exact .inr (.inl ⟨name, isOutput, Sight.text_of_bytes rfl, last⟩)
  · rcases touches.kept k output with same | ⟨-, missing, made⟩
    · exact .inl same.symm
    · exact .inr (.inr (.inr ⟨missing, made⟩))

/-! The root -/

theorem rooted_of_look {sight : Sight} {scan : Scan} (ran : Scan.look sight scope tree path = .ok scan) :
    sight.opens [] = true ∧ ∃ root, rootLocation tree path = .ok root := by
  unfold look at ran
  cases opened : sight.opens [] with
  | false =>
    rw [opened] at ran
    cases ran
  | true =>
    rw [opened] at ran
    obtain ⟨root, rooted, -⟩ := Fallible.bind_ok ran
    exact ⟨rfl, root, rooted⟩

theorem rootLocation_touches {dir : Location} {places : Location → Prop} (touches : Tree.Touches dir places a b)
    (rooted : rootLocation a path = .ok root) : rootLocation b path = .ok root := by
  obtain ⟨text, directory, walked⟩ := rootLocation_ok rooted
  have walked := Tree.walkWithin_keep touches.ways directory walked
  rw [← touches.workingDir] at walked
  exact rootLocation_of_resolve (Tree.locate_ok.2 ⟨text, walked⟩) (touches.ways _ _ rfl directory)

theorem reaches_of_rootLocation (rooted : rootLocation tree path = .ok root) : tree.Reaches path root := by
  obtain ⟨-, directory, walked⟩ := rootLocation_ok rooted
  obtain ⟨n, steps⟩ := Path.steps_names path
  rw [steps] at walked
  have led : tree.Leads path.isAbsolute (path.names ++ List.replicate n ".") root := .there walked directory
  exact led.stripAll

end Scan

/-! The ignore file -/

theorem Tree.Touches.resolve_stays {dir : Location} {places : Location → Prop} (touches : Tree.Touches dir places a b)
    (led : a.resolve path true = .ok k) (there : a.node? k ≠ none) (outside : ¬places k) :
    b.resolve path true = .ok k ∧ b.node? k = a.node? k := by
  have same : b.node? k = a.node? k := by
    rcases touches.kept k outside with same | ⟨-, missing, -⟩
    · exact same
    · exact absurd missing there
  obtain ⟨text, walked⟩ := Tree.locate_ok.1 led
  obtain ⟨node, stands⟩ := Option.ne_none_iff_exists'.1 there
  refine ⟨Tree.locate_ok.2 ⟨text, ?_⟩, same⟩
  rw [touches.workingDir]
  exact Tree.walkWithin_stays touches.ways stands (same.trans stands) walked

theorem Tree.toOption_read (tree : Tree) (path : Path) :
    (tree.read path).toOption = (tree.readOptional path).toOption.join := by
  unfold readOptional
  cases tree.read path with
  | ok content => rfl
  | error fault => cases fault <;> rfl

/-- A path through no link, or through links to something that stands where a scan does not write. -/
def Tree.Lasting (tree : Tree) (home : Location) (path : Path) : Prop :=
  tree.Unlinked path ∨ ∃ k, tree.resolve path true = .ok k ∧ tree.node? k ≠ none ∧ ¬Store.ScanOutput home k

theorem Tree.read_touches {dir : Location} (touches : Tree.Touches dir (Store.ScanOutput home) a b)
    (formed : a.Formed) (rooted : Scan.rootLocation a path = .ok root) (isFile : IsFileName name)
    (foreign : ¬IsOutputName name) (lasting : a.Lasting home (path.join name)) :
    (b.read (path.join name)).toOption = (a.read (path.join name)).toOption := by
  have reaches := Scan.reaches_of_rootLocation rooted
  rcases lasting with unlinked | ⟨k, led, there, outside⟩
  -- Where no link is the file stands in the root, under a name that no scan gives.
  · have led := reaches.resolve_join isFile formed (Scan.rootLocation_directory rooted)
    have unlinked := unlinked _ led
    have unlinked' : ∀ target, b.node? (root ++ [name]) ≠ some (.link target) := fun target link =>
      unlinked target (touches.links _ target link)
    have reads := reaches.readOptional isFile formed unlinked
    have reads' := (Scan.reaches_of_rootLocation (Scan.rootLocation_touches touches rooted)).readOptional isFile
      touches.formed unlinked'
    have outside : ¬Store.ScanOutput home (root ++ [name]) := by
      intro output
      obtain ⟨other, isOutput, last⟩ := output.last
      rw [List.getLast?_concat] at last
      cases last
      exact foreign isOutput
    rw [Tree.toOption_read, Tree.toOption_read, reads, reads']
    rcases touches.kept _ outside with same | ⟨-, missing, made⟩
    · rw [same]
    · rw [missing, made]
      rfl
  · obtain ⟨led', same⟩ := touches.resolve_stays led there outside
    unfold Tree.read Tree.find
    rw [led, led']
    simp only [bind, Except.bind, same]

theorem IgnoreRules.load_touches {dir : Location} (touches : Tree.Touches dir (Store.ScanOutput home) a b)
    (formed : a.Formed) (rooted : Scan.rootLocation a path = .ok root) (isFile : IsFileName name)
    (foreign : ¬IsOutputName name) (lasting : a.Lasting home (path.join name)) :
    load b (path.join name) = load a (path.join name) := by
  rw [load, load, Tree.read_touches touches formed rooted isFile foreign lasting]

namespace Command

open OnDisk Store

variable {context : Context} {config : ScanConfig} {force : Bool} {verbosity : Option Verbosity} {now : Time}
  {after : Disk} {printed : String} {prior : Option Summary} {summary : Summary} {found : Scan}

/-! One scan -/

def scanScope (context : Context) (config : ScanConfig) (tree : Tree) : Scope :=
  ⟨.load tree context.paths.ignoreFile, Languages.builtin, config.maxFileSize⟩

theorem scanScope_rules (context : Context) (config : ScanConfig) (tree : Tree) :
    (scanScope context config tree).rules = .load tree context.paths.ignoreFile := by
  rw [scanScope]

theorem scanScope_languages (context : Context) (config : ScanConfig) (tree : Tree) :
    (scanScope context config tree).languages = Languages.builtin := by
  rw [scanScope]

theorem runScan_eq (scanned : Scan.look .clear (scanScope context config disk.tree) disk.tree context.paths.scanRoot = .ok found)
    (loaded : (scanStore context config).loadSummary disk.tree = .ok prior)
    (summed : Summary.measure found.records prior (verbosity.getD config.verbosity) found.report now = .ok summary) :
    runScan context config force verbosity now disk = saving context config force prior found summary now disk := by
  have first : OnDisk.ofResult CommandError.scan
      (Scan.look .clear (scanScope context config disk.tree) disk.tree context.paths.scanRoot) disk = (.ok found, disk) := by
    rw [scanned]
    rfl
  have second : OnDisk.ofResult (CommandError.store readFailure) ((scanStore context config).loadSummary disk.tree) disk =
      (.ok prior, disk) := by
    rw [loaded]
    rfl
  have third : OnDisk.ofResult CommandError.overflow
      (Summary.measure found.records prior (verbosity.getD config.verbosity) found.report now) disk =
        (.ok summary, disk) := by
    rw [summed]
    rfl
  have got : (get : OnDisk CommandError Disk) disk = (.ok disk, disk) := rfl
  unfold runScan
  rw [bind_of_ok got]
  exact (bind_of_ok first).trans ((bind_of_ok second).trans (bind_of_ok third))

theorem runScan_ok (ran : runScan context config force verbosity now disk = (.ok printed, after)) :
    ∃ found prior summary,
      Scan.look .clear (scanScope context config disk.tree) disk.tree context.paths.scanRoot = .ok found ∧
      (scanStore context config).loadSummary disk.tree = .ok prior ∧
      Summary.measure found.records prior (verbosity.getD config.verbosity) found.report now = .ok summary ∧
      saving context config force prior found summary now disk = (.ok printed, after) := by
  unfold runScan at ran
  obtain ⟨_, _, got, ran⟩ := bind_ok ran
  cases got
  obtain ⟨found, _, scanning, ran⟩ := bind_ok ran
  obtain ⟨rfl, scanned⟩ := ofResult_ok scanning
  obtain ⟨prior, _, loading, ran⟩ := bind_ok ran
  obtain ⟨rfl, loaded⟩ := ofResult_ok loading
  obtain ⟨summary, _, summing, ran⟩ := bind_ok ran
  obtain ⟨rfl, summed⟩ := ofResult_ok summing
  exact ⟨found, prior, summary, scanned, loaded, summed, ran⟩

/-- What a scan that succeeded leaves. -/
structure Settled (home : Location) (before after : Tree) (summary : Summary) (missing : MissingDocs) : Prop where
  touches : Tree.Touches (historyPlace home) (ScanOutput home) before after
  summarized : after.node? (Doc.summary.place home) = some (.file summary.write.toUTF8)
  reported : after.node? (Doc.missingDocs.place home) = some (.file missing.write.toUTF8)
  summaryCleared : after.node? (Doc.summary.temporary home) = none
  reportCleared : after.node? (Doc.missingDocs.temporary home) = none

theorem dir_above_history (home : Location) : Doc.summary.dir home <+: historyPlace home ∧
    Doc.missingDocs.dir home <+: historyPlace home := by
  constructor <;> rw [Doc.dir, historyPlace] <;> simp [Doc.room]

theorem summary_beside_apart (beside : Doc.summary.Beside home k) : ¬Doc.missingDocs.Beside home k := by
  rcases beside with rfl | rfl <;> rintro (same | same) <;> simp [Doc.dir, Doc.room, Doc.name] at same

theorem reporting_settles (shelved : Shelved (scanStore context config) home disk.tree)
    (ran : reporting context config found summary now disk = (.ok printed, after)) :
    ∃ missing, MissingDocs.ofRecords found.records config.missingDocsThreshold now = .ok missing ∧
      Tree.Touches (historyPlace home) (Doc.missingDocs.Beside home) disk.tree after.tree ∧
      after.tree.node? (Doc.missingDocs.place home) = some (.file missing.write.toUTF8) ∧
      after.tree.node? (Doc.missingDocs.temporary home) = none := by
  unfold reporting at ran
  obtain ⟨missing, _, counted, ran⟩ := bind_ok ran
  obtain ⟨rfl, listed⟩ := ofResult_ok counted
  obtain ⟨_, _, reported, ran⟩ := bind_ok ran
  cases ran
  have saved : (scanStore context config).writeRaw (Doc.missingDocs.path (scanStore context config))
    missing.write.toUTF8 disk = (.ok (), after) := adapt_ok reported
  have ends := writeRaw_meets shelved.housed .missingDocs missing.write.toUTF8
  rw [saved] at ends
  obtain ⟨touches, placed, cleared⟩ := ends
  exact ⟨missing, listed, touches.mono (dir_above_history home).2 fun _ beside => beside, placed, cleared⟩

theorem saving_settles (shelved : Shelved (scanStore context config) home disk.tree)
    (ran : saving context config false prior found summary now disk = (.ok printed, after)) :
    ∃ missing, MissingDocs.ofRecords found.records config.missingDocsThreshold now = .ok missing ∧
      Settled home disk.tree after.tree summary missing := by
  unfold saving at ran
  obtain ⟨_, _, copied, ran⟩ := bind_ok ran
  cases copied
  obtain ⟨_, replaced, written, ran⟩ := bind_ok ran
  have saved := adapt_ok written
  obtain ⟨between, archived, wrote⟩ :=
    (saveSummary_cases shelved.cabinet saved).resolve_left fun ⟨error, failed, _⟩ => by cases failed
  have wrote : (scanStore context config).writeRaw (Doc.summary.path (scanStore context config))
    summary.write.toUTF8 between = (.ok (), replaced) := wrote
  have housed := (shelved.touches archived fun _ => HistoryOutput.isOutput).housed
  have ends := writeRaw_meets housed .summary summary.write.toUTF8
  rw [wrote] at ends
  obtain ⟨touches, placed, cleared⟩ := ends
  have touched : Tree.Touches (historyPlace home) (ScanOutput home) disk.tree replaced.tree :=
    (archived.mono (List.prefix_refl _) fun _ => .inl).trans
      (touches.mono (dir_above_history home).1 fun _ => .inr ∘ .inl)
  obtain ⟨missing, listed, later, reported, reportCleared⟩ :=
    reporting_settles (shelved.touches touched fun _ => ScanOutput.isOutput) ran
  -- The report stands elsewhere, so the summary is still what was written.
  have stays : ∀ k, Doc.summary.Beside home k → after.tree.node? k = replaced.tree.node? k := by
    intro k beside
    have output : IsOutput home k := .inr (.inl beside)
    exact later.same (summary_beside_apart beside) output.not_above_history
  refine ⟨missing, listed, ?_, ?_, reported, ?_, reportCleared⟩
  · exact touched.trans (later.mono (List.prefix_refl _) fun _ => .inr ∘ .inr)
  · exact (stays _ (.inl rfl)).trans placed
  · exact (stays _ (.inr rfl)).trans cleared

theorem keeps_saving {Q : Tree → Prop} (stable : Tree.Stable Q) :
    Keeps Q (saving context config force prior found summary now) := by
  have copied : Keeps Q (snapshot (scanStore context config) force prior summary now) := by
    unfold snapshot
    split
    · exact .bind ((keeps_snapshotSummary _ stable now).adapt _) fun _ => .pure _
    · exact .pure _
  refine .bind copied fun _ => .bind ((keeps_saveSummary _ stable summary now).adapt _) fun _ => ?_
  refine .bind (.ofResult _ _) fun missing => ?_
  exact .bind ((keeps_writeRaw _ stable _ _).adapt _) fun _ => .pure _

/-- What a scan that succeeded found, saved and left. -/
structure Completed (context : Context) (config : ScanConfig) (verbosity : Option Verbosity) (now : Time)
    (home : Location) (before after : Tree) (root : Location) (found : Scan) (summary : Summary)
    (missing : MissingDocs) : Prop where
  rooted : Scan.rootLocation before context.paths.scanRoot = .ok root
  scanned : Scan.look .clear (scanScope context config before) before context.paths.scanRoot = .ok found
  summed : ∃ prior, Summary.measure found.records prior (verbosity.getD config.verbosity) found.report now = .ok summary
  listed : MissingDocs.ofRecords found.records config.missingDocsThreshold now = .ok missing
  settled : Settled home before after summary missing
  proper : after.Proper

theorem completed_of_runScan (shelved : Shelved (scanStore context config) home disk.tree) (proper : disk.tree.Proper)
    (ran : runScan context config false verbosity now disk = (.ok printed, after)) :
    ∃ root found summary missing,
      Completed context config verbosity now home disk.tree after.tree root found summary missing := by
  obtain ⟨found, prior, summary, scanned, loaded, summed, saved⟩ := runScan_ok ran
  obtain ⟨missing, listed, settled⟩ := saving_settles shelved saved
  obtain ⟨-, root, rooted⟩ := Scan.rooted_of_look scanned
  have distinct : (saving context config false prior found summary now disk).2.tree.Distinct :=
    (keeps_saving Tree.stable_distinct).tree disk proper.distinct
  rw [saved] at distinct
  exact ⟨root, found, summary, missing, rooted, scanned, ⟨prior, summed⟩, listed, settled,
    shelved.proper proper distinct settled.touches⟩

end Command

end Waymark
