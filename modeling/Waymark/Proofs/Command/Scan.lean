import Waymark.Command.Basic
import Waymark.Proofs.Handoff.Retry
import Waymark.Proofs.Store.History

/-! How a scan of the project ends. The summary and the report of missing markers are saved one after the
other: a scan that fails leaves the report as it was, but where the report is what cannot be written the
summary has been replaced already.
-/

set_option autoImplicit false

namespace Waymark.Command

open OnDisk Store

variable {context : Context} {config : ScanConfig} {force : Bool} {verbosity : Option Verbosity} {now : Time}
  {home : Location} {disk after : Disk} {before : Tree} {outcome : Except CommandError String}
  {prior : Option Summary} {summary : Summary}

def scanStore (context : Context) (config : ScanConfig) : Store :=
  { Store.ofPaths context.paths with historyRetention := config.historyRetention.toNat }

/-- What a scan finds in a tree, and the summary of it. -/
structure Measured (context : Context) (config : ScanConfig) (verbosity : Option Verbosity) (now : Time)
    (tree : Tree) (found : Scan) (summary : Summary) : Prop where
  scanned : Scan.look .clear ⟨.load tree context.paths.ignoreFile, Languages.builtin, config.maxFileSize⟩ tree
    context.paths.scanRoot = .ok found
  summed : ∃ prior, (scanStore context config).loadSummary tree = .ok prior ∧
    Summary.measure found.records prior (verbosity.getD config.verbosity) found.report now = .ok summary

/-- What keeps a scan from its report: a count that does not fit, or a file that cannot be written. -/
inductive Unreported (context : Context) : CommandError → Prop where
  | overflow (refused : Overflow) : Unreported context (.overflow refused)
  | unwritten (cause : FileError) : Unreported context
    (.store (writeFailure context.paths.missingDocs) (.write context.paths.missingDocs cause))

/-- How a scan ends. -/
inductive ScanEnds (context : Context) (config : ScanConfig) (verbosity : Option Verbosity) (now : Time)
    (home : Location) (before : Tree) : Except CommandError String → Tree → Prop where
  | done {found : Scan} {summary : Summary} {missing : MissingDocs} {after : Tree}
    (measured : Measured context config verbosity now before found summary)
    (reported : MissingDocs.ofRecords found.records config.missingDocsThreshold now = .ok missing)
    (touches : Tree.Touches (historyPlace home) (IsOutput home) before after)
    (summarized : after.node? (Doc.summary.place home) = some (.file summary.write.toUTF8))
    (placed : after.node? (Doc.missingDocs.place home) = some (.file missing.write.toUTF8)) :
    ScanEnds context config verbosity now home before (.ok (Report.scan summary found.report missing)) after
  /-- Nothing has been written. -/
  | unmeasured {error : CommandError} : ScanEnds context config verbosity now home before (.error error) before
  /-- The summary is the one before, and its history may have changed. -/
  | unsaved {error : CommandError} {after : Tree}
    (touches : Tree.Touches (historyPlace home) (AroundSummary home) before after) :
    ScanEnds context config verbosity now home before (.error error) after
  /-- The summary is the one of this scan, and the report is the one before. -/
  | unreported {found : Scan} {summary : Summary} {error : CommandError} {after : Tree}
    (measured : Measured context config verbosity now before found summary)
    (late : Unreported context error)
    (touches : Tree.Touches (historyPlace home)
      (fun k => SummaryOutput home k ∨ k = Doc.missingDocs.temporary home) before after)
    (summarized : after.node? (Doc.summary.place home) = some (.file summary.write.toUTF8)) :
    ScanEnds context config verbosity now home before (.error error) after

/-! Steps -/

theorem ofResult_cases {ε δ α : Type} {wrap : ε → δ} {result : Except ε α} {outcome : Except δ α}
    (h : OnDisk.ofResult wrap result disk = (outcome, after)) : disk = after ∧ outcome = result.mapError wrap := by
  cases h
  exact ⟨rfl, rfl⟩

theorem ofResult_ok {ε δ α : Type} {wrap : ε → δ} {result : Except ε α} {value : α}
    (h : OnDisk.ofResult wrap result disk = (.ok value, after)) : disk = after ∧ result = .ok value := by
  obtain ⟨same, outcome⟩ := ofResult_cases h
  refine ⟨same, ?_⟩
  cases result with
  | ok value =>
    cases outcome
    rfl
  | error error => cases outcome

theorem snapshot_touches (shelved : Shelved (scanStore context config) home disk.tree) :
    Tree.Touches (historyPlace home) (InHistory home) disk.tree
      (snapshot (scanStore context config) force prior summary now disk).2.tree := by
  unfold snapshot
  split
  · have copied := snapshotSummary_touches shelved.cabinet now
    apply Tree.Touches.bind
    · exact copied
    · intro _ after touches
      exact .refl _ _ touches.formed
  · exact .refl _ _ shelved.housed.formed

theorem saveMissingDocs_cases {store : Store} {missing : MissingDocs} {result : Except StoreError Unit}
    (housed : Housed store home disk.tree) (saved : store.saveMissingDocs missing disk = (result, after)) :
    (result = .ok () ∧ Tree.Touches (historyPlace home) (Doc.missingDocs.Beside home) disk.tree after.tree ∧
      after.tree.node? (Doc.missingDocs.place home) = some (.file missing.write.toUTF8)) ∨
    ∃ cause, result = .error (.write store.paths.missingDocs cause) ∧
      Tree.Touches (historyPlace home) (· = Doc.missingDocs.temporary home) disk.tree after.tree := by
  have ends := writeRaw_meets housed .missingDocs missing.write.toUTF8
  have above : Doc.missingDocs.dir home <+: historyPlace home := by
    rw [Doc.dir, historyPlace]
    simp [Doc.room]
  simp only [Doc.path] at ends
  unfold saveMissingDocs writeText at saved
  rw [saved] at ends
  cases result with
  | ok value => exact .inl ⟨rfl, ends.1.mono above fun _ beside => beside, ends.2.1⟩
  | error error =>
    obtain ⟨⟨cause, rfl⟩, touches⟩ := ends
    exact .inr ⟨cause, rfl, touches.mono above fun _ temporary => temporary⟩

theorem summary_apart (home : Location) : ¬Doc.missingDocs.Beside home (Doc.summary.place home) ∧
    ¬Doc.summary.place home <+: historyPlace home := by
  refine ⟨?_, summary_not_above home⟩
  rintro (same | same) <;> simp [Doc.place, Doc.dir, Doc.room, Doc.name] at same

def reporting (context : Context) (config : ScanConfig) (found : Scan) (summary : Summary) (now : Time) :
    Running := do
  let missing ← OnDisk.ofResult .overflow
    (MissingDocs.ofRecords found.records config.missingDocsThreshold now)
  ((scanStore context config).saveMissingDocs missing).adapt (.store (writeFailure context.paths.missingDocs))
  return Report.scan summary found.report missing

def saving (context : Context) (config : ScanConfig) (force : Bool) (prior : Option Summary) (found : Scan)
    (summary : Summary) (now : Time) : Running := do
  snapshot (scanStore context config) force prior summary now
  ((scanStore context config).saveSummary summary now).adapt (.store (writeFailure context.paths.summary))
  reporting context config found summary now

theorem reporting_ends {found : Scan} (shelved : Shelved (scanStore context config) home disk.tree)
    (measured : Measured context config verbosity now before found summary)
    (touches : Tree.Touches (historyPlace home) (SummaryOutput home) before disk.tree)
    (summarized : disk.tree.node? (Doc.summary.place home) = some (.file summary.write.toUTF8))
    (ran : reporting context config found summary now disk = (outcome, after)) :
    ScanEnds context config verbosity now home before outcome after.tree := by
  obtain ⟨apart, off⟩ := summary_apart home
  unfold reporting at ran
  rcases bind_cases ran with ⟨error, counted, rfl⟩ | ⟨missing, _, counted, ran⟩
  · obtain ⟨rfl, refused⟩ := ofResult_cases counted
    have late : Unreported context error := by
      cases records : MissingDocs.ofRecords found.records config.missingDocsThreshold now with
      | ok missing =>
        rw [records] at refused
        cases refused
      | error overflow =>
        rw [records] at refused
        cases refused
        exact .overflow overflow
    exact .unreported measured late (touches.mono (List.prefix_refl _) fun _ => .inl) summarized
  obtain ⟨rfl, reported⟩ := ofResult_ok counted
  rcases bind_cases ran with ⟨error, failed, rfl⟩ | ⟨_, _, written, ran⟩
  · obtain ⟨result, saved, failed⟩ := adapt_cases failed
    rcases saveMissingDocs_cases shelved.housed saved with ⟨rfl, -⟩ | ⟨cause, rfl, temporary⟩
    · cases failed
    cases failed
    -- The report fails in its own place, so the summary that was saved stays.
    have stays := temporary.same (fun same => apart (.inr same)) off
    refine .unreported measured (.unwritten cause) ?_ (stays.trans summarized)
    refine (touches.mono (List.prefix_refl _) fun _ => .inl).trans ?_
    exact temporary.mono (List.prefix_refl _) fun _ => .inr
  · obtain ⟨result, saved, done⟩ := adapt_cases written
    cases ran
    rcases saveMissingDocs_cases shelved.housed saved with ⟨rfl, beside, placed⟩ | ⟨cause, rfl, -⟩
    · have stays := beside.same apart off
      refine .done measured reported ?_ (stays.trans summarized) placed
      refine (touches.mono (List.prefix_refl _) fun _ => SummaryOutput.isOutput).trans ?_
      exact beside.mono (List.prefix_refl _) fun _ => .inr ∘ .inr
    · cases done

theorem saving_ends {found : Scan} (shelved : Shelved (scanStore context config) home disk.tree)
    (measured : Measured context config verbosity now disk.tree found summary)
    (ran : saving context config force prior found summary now disk = (outcome, after)) :
    ScanEnds context config verbosity now home disk.tree outcome after.tree := by
  have copy : Tree.Touches (historyPlace home) (InHistory home) disk.tree
      (snapshot (scanStore context config) force prior summary now disk).2.tree := snapshot_touches shelved
  unfold saving at ran
  rcases bind_cases ran with ⟨error, copied, rfl⟩ | ⟨_, between, copied, ran⟩
  · rw [copied] at copy
    exact .unsaved (copy.mono (List.prefix_refl _) fun _ => .inl)
  rw [copied] at copy
  have copiedTo := shelved.touches copy fun _ => .inl
  rcases bind_cases ran with ⟨error, refused, rfl⟩ | ⟨_, replaced, written, ran⟩
  · obtain ⟨result, saved, failed⟩ := adapt_cases refused
    cases SummaryEnds.after copy (saveSummary_ends copiedTo.cabinet saved) with
    | saved => cases failed
    | kept touches => exact .unsaved touches
  · obtain ⟨result, saved, done⟩ := adapt_cases written
    cases SummaryEnds.after copy (saveSummary_ends copiedTo.cabinet saved) with
    | kept => cases done
    | saved touches summarized =>
      -- From here on the summary is replaced, whatever becomes of the report.
      have replacedIn := shelved.touches touches fun _ => SummaryOutput.isOutput
      exact reporting_ends replacedIn measured touches summarized ran

/-- How a scan ends, whatever fails on the disk. -/
theorem runScan_ends (shelved : Shelved (scanStore context config) home disk.tree)
    (ran : runScan context config force verbosity now disk = (outcome, after)) :
    ScanEnds context config verbosity now home disk.tree outcome after.tree := by
  unfold runScan at ran
  rcases bind_cases ran with ⟨error, got, rfl⟩ | ⟨_, _, got, ran⟩
  · cases got
  cases got
  rcases bind_cases ran with ⟨error, scanning, rfl⟩ | ⟨found, _, scanning, ran⟩
  · obtain ⟨rfl, -⟩ := ofResult_cases scanning
    exact .unmeasured
  obtain ⟨rfl, scanned⟩ := ofResult_ok scanning
  rcases bind_cases ran with ⟨error, loading, rfl⟩ | ⟨prior, _, loading, ran⟩
  · obtain ⟨rfl, -⟩ := ofResult_cases loading
    exact .unmeasured
  obtain ⟨rfl, loaded⟩ := ofResult_ok loading
  rcases bind_cases ran with ⟨error, summing, rfl⟩ | ⟨summary, _, summing, ran⟩
  · obtain ⟨rfl, -⟩ := ofResult_cases summing
    exact .unmeasured
  obtain ⟨rfl, summed⟩ := ofResult_ok summing
  have ran : saving context config force prior found summary now disk = (outcome, after) := ran
  exact saving_ends shelved ⟨scanned, prior, loaded, summed⟩ ran

theorem ScanEnds.report_kept {error : CommandError} {tree : Tree}
    (ends : ScanEnds context config verbosity now home before (.error error) tree) :
    tree.node? (Doc.missingDocs.place home) = before.node? (Doc.missingDocs.place home) := by
  have output : IsOutput home (Doc.missingDocs.place home) := .inr (.inr (.inl rfl))
  have off := output.not_above_history
  have apart : ¬SummaryOutput home (Doc.missingDocs.place home) := by
    rintro (⟨name, -, same⟩ | same | same)
    · have length := congrArg List.length same
      simp [Doc.place, Doc.dir, Doc.room, Doc.name, historyPlace] at length
    · simp [Doc.place, Doc.dir, Doc.room, Doc.name] at same
    · simp [Doc.place, Doc.dir, Doc.room, Doc.name] at same
  cases ends with
  | unmeasured => rfl
  | unsaved touches => exact touches.same (fun around => apart (around.imp_right .inr)) off
  | unreported _ _ touches =>
    refine touches.same ?_ off
    rintro (inside | temporary)
    · exact apart inside
    · exact Disk.ne_temporary _ _ temporary

def rootContext : Context := .standalone ⟨"/"⟩

theorem shelved_empty : Shelved (scanStore rootContext .default) [] Tree.empty := by
  have bare : ∀ name, Tree.empty.node? (historyPlace [] ++ [name]) = none := by
    intro name
    rw [Tree.node?_eq_item? _ (by simp)]
    rfl
  refine ⟨⟨?_, ?_, ?_⟩, Synchronizer.housed_empty⟩
  · rintro target link
    cases link
  · rintro name - k (rfl | rfl) target link <;> rw [bare] at link <;> cases link
  · intro name there
    exact absurd (bare name) there

/-- A bare disk on which nothing but the second write fails, which is the one of the report. -/
def jammed : Disk := (Disk.ofTree Tree.empty 0).withScript (.ofNumbers [2] [] .permissionDenied)

def unreported : CommandError :=
  .store "Failed to write /codebase_summary/missing_breadcrumbs.json"
    (.write ⟨"/codebase_summary/missing_breadcrumbs.json"⟩ ⟨.permissionDenied, some Disk.writeFailure⟩)

theorem runScan_half_done : ∃ after,
    runScan rootContext .default false none .epoch jammed = (.error unreported, after) ∧
    jammed.tree.node? (Doc.summary.place (.ofRoot [])) = none ∧ after.tree.node? (Doc.summary.place (.ofRoot [])) ≠ none := by
  have ends : (runScan rootContext .default false none .epoch jammed).1 = .error unreported ∧
      (runScan rootContext .default false none .epoch jammed).2.tree.node? (Doc.summary.place (.ofRoot [])) ≠ none := by
    decide +kernel
  exact ⟨_, Prod.ext ends.1 rfl, rfl, ends.2⟩

/-- A scan that fails at its report leaves none behind. -/
theorem runScan_ends_jammed : ∃ after,
    runScan rootContext .default false none .epoch jammed = (.error unreported, after) ∧
    Shelved (scanStore rootContext .default) [] jammed.tree ∧
    ScanEnds rootContext .default none .epoch [] jammed.tree (.error unreported) after.tree ∧
    after.tree.node? (Doc.missingDocs.place (.ofRoot [])) = none := by
  obtain ⟨after, ran⟩ : ∃ after,
      runScan rootContext .default false none .epoch jammed = (.error unreported, after) := by
    have failed : (runScan rootContext .default false none .epoch jammed).1 = .error unreported := by
      decide +kernel
    exact ⟨_, Prod.ext failed rfl⟩
  have ends := runScan_ends shelved_empty ran
  exact ⟨after, ran, shelved_empty, ends, ends.report_kept⟩

end Waymark.Command
