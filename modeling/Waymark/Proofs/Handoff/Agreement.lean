import Waymark.Proofs.Command.Stored
import Waymark.Proofs.Handoff.Run

/-! Whether the stored documents agree after a handoff. The entry that a handoff records names the version of
the summary that its session has inherited, and the incoming session compares it with the newest entry that the
changelog still holds.
-/

set_option autoImplicit false

namespace Waymark

open Store

namespace Documentation

variable {version : Version} {changelog : Changelog} {missing : Option MissingDocs}

theorem versionsConsistent_ofStored : (ofStored (some version) (some changelog) missing).versionsConsistent = true ↔
    ∃ entry, changelog.entries.head? = some entry ∧ entry.projectVersion = some version := by
  simp [versionsConsistent, ofStored, Option.bind_eq_some_iff]

end Documentation

namespace Synchronizer

variable {sync next : Synchronizer} {phase last : Phase} {request : HandoffRequest} {moment later : Moment}
  {disk after : Disk} {home : Home} {start tree : Tree} {report : HandoffReport} {summary : Summary}
  {missing : Option MissingDocs} {inherited : Inherited} {briefing : Briefing} {session : Session} {batch : Batch}
  {commits : List Commit}

theorem documentation_of_load (loads : sync.load tree moment = .ok (briefing, inherited)) :
    ∃ changelog summary missing, sync.store.loadChangelog tree = .ok changelog ∧
      sync.store.loadSummary tree = .ok summary ∧ sync.store.loadMissingDocs tree = .ok missing ∧
      briefing.documentation = .ofStored (summary.map (·.version)) changelog missing := by
  unfold load at loads
  obtain ⟨previous, -, loads⟩ := Fallible.bind_ok loads
  obtain ⟨changelog, loadedChangelog, loads⟩ := Fallible.bind_ok loads
  obtain ⟨summary, loadedSummary, loads⟩ := Fallible.bind_ok loads
  obtain ⟨missing, loadedMissing, loads⟩ := Fallible.bind_ok loads
  cases loads
  exact ⟨changelog, summary, missing, loadedChangelog, loadedSummary, loadedMissing, rfl⟩

/-- After a handoff the incoming session is told of the changelog that was committed and of the documents of
the scan as they were before. -/
theorem incoming_documented {summary : Option Summary} (housed : Housed sync.store home disk.tree)
    (loadedSummary : sync.store.loadSummary disk.tree = .ok summary)
    (loadedMissing : sync.store.loadMissingDocs disk.tree = .ok missing)
    (succeeded : sync.outgoing phase request moment disk = (.ok report, last, after))
    (ofStore : next.store = sync.store) (later : Moment) :
    ∃ inherited session batch briefing inherited', sync.opened phase disk.tree moment = .ok (inherited, session) ∧
      sync.closing inherited session request moment.now = .ok batch ∧
      next.incoming .idle after.tree later = (.ok briefing, .loaded inherited') ∧
      next.store.loadSummary after.tree = .ok summary ∧
      briefing.documentation = .ofStored (summary.map (·.version)) (some batch.changelog) missing := by
  obtain ⟨inherited, session, batch, log, opened, closed, -, saved, -⟩ := outgoing_saved housed succeeded
  have readable : Readable sync.store home disk.tree := ⟨housed, ⟨_, loadedSummary⟩, ⟨_, loadedMissing⟩⟩
  rw [← ofStore] at readable saved
  obtain ⟨briefing, inherited', loads, -⟩ := load_of_saved readable saved later
  obtain ⟨changelog, summary', missing', changelogIs, summaryIs, missingIs, documentation⟩ :=
    documentation_of_load loads
  have changelogSaved := loadChangelog_of_saved saved
  -- The handoff writes neither the summary nor the report, so both are read as before.
  have summarySame := saved.others .summary fun file among => (files_apart home _ _ _ file among).1
  have missingSame := saved.others .missingDocs fun file among => (files_apart home _ _ _ file among).2
  rw [← ofStore] at loadedSummary loadedMissing
  have summaryKept : next.store.loadSummary after.tree = .ok summary :=
    (load_congr_read summarySame).trans loadedSummary
  have missingKept : next.store.loadMissingDocs after.tree = .ok missing :=
    (load_congr_read missingSame).trans loadedMissing
  rw [changelogSaved] at changelogIs
  rw [summaryKept] at summaryIs
  rw [missingKept] at missingIs
  cases changelogIs
  cases summaryIs
  cases missingIs
  exact ⟨inherited, session, batch, briefing, inherited', opened, closed, incoming_of_load loads, summaryKept,
    documentation⟩

theorem outgoing_of_load (loads : sync.load disk.tree moment = .ok (briefing, inherited))
    (succeeded : sync.outgoing (.loaded inherited) request moment disk = (.ok report, last, after)) :
    sync.outgoing .idle request moment disk = (.ok report, last, after) := by
  have opened : sync.opened .idle disk.tree moment = sync.opened (.loaded inherited) disk.tree moment := by
    simp only [Synchronizer.opened, loads]
    rfl
  unfold outgoing at succeeded ⊢
  rw [opened]
  by_cases blank : (Text.trim request.summary.toList).isEmpty = true
  · rw [if_pos blank] at succeeded
    cases succeeded
  · rw [if_neg blank] at succeeded ⊢
    exact succeeded

theorem version_of_load (loadedSummary : sync.store.loadSummary tree = .ok (some summary))
    (loads : sync.load tree moment = .ok (briefing, inherited)) :
    inherited.projectVersion = some summary.version := by
  obtain ⟨_, stored, -, loaded, -, version⟩ := load_ok loads
  rw [loadedSummary] at loaded
  cases loaded
  exact version

theorem head_of_closing (closed : sync.closing inherited session request moment.now = .ok batch) :
    (sync.retention.changelogRetention = 0 → batch.changelog.entries.head? = none) ∧
    (sync.retention.changelogRetention ≠ 0 →
      ∃ entry, batch.changelog.entries.head? = some entry ∧ entry.projectVersion = inherited.projectVersion) := by
  obtain ⟨sequence, version, -, -, rfl⟩ := closing_ok closed
  constructor
  · intro none
    rw [none]
    rfl
  · intro some
    have positive : sync.retention.changelogRetention.toNat ≠ 0 := by
      intro zero
      exact some (UInt64.toNat_inj.1 zero)
    obtain ⟨more, kept⟩ := Nat.exists_eq_succ_of_ne_zero positive
    refine ⟨newest inherited request sequence version moment.now, ?_, rfl⟩
    rw [Changelog.advanced, kept]
    rfl

/-- After a handoff of a session that has inherited the version of the summary, the versions agree exactly if
an entry may be kept. -/
theorem incoming_agrees (housed : Housed sync.store home disk.tree)
    (loadedSummary : sync.store.loadSummary disk.tree = .ok (some summary))
    (loadedMissing : sync.store.loadMissingDocs disk.tree = .ok missing)
    (held : ∀ inherited ∈ phase.inherited?, inherited.projectVersion = some summary.version)
    (succeeded : sync.outgoing phase request moment disk = (.ok report, last, after))
    (ofStore : next.store = sync.store) (later : Moment) :
    ∃ briefing inherited, next.incoming .idle after.tree later = (.ok briefing, .loaded inherited) ∧
      (briefing.documentation.versionsConsistent = true ↔ sync.retention.changelogRetention ≠ 0) := by
  obtain ⟨inherited, session, batch, briefing, inherited', opened, closed, incoming, -, documentation⟩ :=
    incoming_documented housed loadedSummary loadedMissing succeeded ofStore later
  have version := inherits_of_opened (version_of_load loadedSummary) held opened
  obtain ⟨discarded, kept⟩ := head_of_closing closed
  refine ⟨briefing, inherited', incoming, ?_⟩
  rw [documentation]
  refine Documentation.versionsConsistent_ofStored.trans ⟨?_, fun some => ?_⟩
  · rintro ⟨entry, newest, -⟩ none
    rw [discarded none] at newest
    cases newest
  · obtain ⟨entry, newest, named⟩ := kept some
    exact ⟨entry, newest, named.trans version⟩

theorem incoming_versionsConsistent (housed : Housed sync.store home disk.tree)
    (loadedSummary : sync.store.loadSummary disk.tree = .ok (some summary))
    (loadedMissing : sync.store.loadMissingDocs disk.tree = .ok missing)
    (succeeded : sync.outgoing .idle request moment disk = (.ok report, last, after))
    (kept : sync.retention.changelogRetention ≠ 0) (ofStore : next.store = sync.store) (later : Moment) :
    ∃ briefing inherited, next.incoming .idle after.tree later = (.ok briefing, .loaded inherited) ∧
      briefing.documentation.versionsConsistent = true := by
  obtain ⟨briefing, inherited, incoming, agrees⟩ :=
    incoming_agrees housed loadedSummary loadedMissing (fun _ none => by cases none) succeeded ofStore later
  exact ⟨briefing, inherited, incoming, agrees.2 kept⟩

/-! Runs -/

theorem Run.scanned_same {store : Store} {phase : Phase} (run : Run store start commits phase tree)
    (housed : Housed store home start) :
    store.loadSummary tree = store.loadSummary start ∧ store.loadMissingDocs tree = store.loadMissingDocs start := by
  induction run with
  | start => exact ⟨rfl, rfl⟩
  | quiet earlier step ih =>
    have same := step.unchanged (earlier.housed housed)
    exact ⟨(load_congr_read (same.reads .summary)).trans ih.1,
      (load_congr_read (same.reads .missingDocs)).trans ih.2⟩
  | committed earlier ofStore closes step ih =>
    subst ofStore
    obtain ⟨log, -, saved⟩ := saved_of_closes (earlier.housed housed) closes step
    have summarySame := saved.others .summary fun file among => (files_apart home _ _ _ file among).1
    have missingSame := saved.others .missingDocs fun file among => (files_apart home _ _ _ file among).2
    exact ⟨(load_congr_read summarySame).trans ih.1, (load_congr_read missingSame).trans ih.2⟩

/-- Whatever phase a run is in has inherited the version of the summary, or nothing yet. -/
theorem Run.inherits_version {store : Store} {phase : Phase} (run : Run store start commits phase tree)
    (housed : Housed store home start) (loadedSummary : store.loadSummary start = .ok (some summary)) :
    ∀ inherited ∈ phase.inherited?, inherited.projectVersion = some summary.version := by
  induction run with
  | start =>
    intro inherited none
    cases none
  | quiet earlier step ih =>
    refine step.inherits ?_ ih
    rintro sync moment briefing inherited rfl load
    exact version_of_load ((earlier.scanned_same housed).1.trans loadedSummary) load
  | committed earlier ofStore closes step ih =>
    rw [idle_of_outgoing step]
    intro inherited none
    cases none

/-- In every run over a summary, the session that comes in after a handoff is told that the versions agree
exactly if the changelog may keep an entry. -/
theorem Run.versions_agree_iff (run : Run sync.store start commits phase disk.tree)
    (housed : Housed sync.store home start)
    (loadedSummary : sync.store.loadSummary start = .ok (some summary))
    (loadedMissing : sync.store.loadMissingDocs start = .ok missing)
    (succeeded : sync.outgoing phase request moment disk = (.ok report, last, after))
    (ofStore : next.store = sync.store) (later : Moment) :
    ∃ briefing inherited, next.incoming .idle after.tree later = (.ok briefing, .loaded inherited) ∧
      (briefing.documentation.versionsConsistent = true ↔ sync.retention.changelogRetention ≠ 0) := by
  obtain ⟨summarySame, missingSame⟩ := run.scanned_same housed
  exact incoming_agrees (run.housed housed) (summarySame.trans loadedSummary) (missingSame.trans loadedMissing)
    (run.inherits_version housed loadedSummary) succeeded ofStore later

/-! A project without files of which there is a summary -/

def bareSummary : Summary :=
  ⟨.first, .epoch, 0, 0, 0, coverage 0 0, .empty, "", .minimal, none, none⟩

theorem bareSummary_measured : bareSummary.Measured where
  total := ⟨0, 0, UInt64.le_refl 0, rfl⟩
  details _ none := by cases none

def summarizedTree : Tree where
  items := [(["codebase_summary.json"], ⟨.file bareSummary.write.toUTF8, 0⟩)]
  workingDir := []

def keeping (retention : Count) : Synchronizer := { rooted with retention := { HandoffConfig.default with
  changelogRetention := retention } }

theorem housed_summarized (retention : Count) : Housed (keeping retention).store (.ofRoot []) summarizedTree := by
  have proper : summarizedTree.Proper := by apply Tree.Proper.of_items <;> decide
  have shelved : Shelved (Command.scanStore Command.rootContext .default) [] summarizedTree :=
    Command.shelved_of_bare proper.formed (by decide) (Tree.unlinked_of_items (by simp [summarizedTree]))
  exact shelved.housed.of_paths rfl

theorem free_summarized : ¬summarizedTree.Barred ["codebase_summary"] := fun barred => barred.not_free (.inl rfl)

theorem summary_summarized (retention : Count) :
    (keeping retention).store.loadSummary summarizedTree = .ok (some bareSummary) :=
  loadSummary_of_place (housed_summarized retention) bareSummary_measured rfl

theorem missing_summarized (retention : Count) :
    (keeping retention).store.loadMissingDocs summarizedTree = .ok none :=
  loadMissingDocs_of_missing (housed_summarized retention) free_summarized rfl

def firstInherited : Inherited := ⟨none, .empty, some .first⟩

theorem load_summarized (retention : Count) : ∃ briefing,
    (keeping retention).load summarizedTree midnight = .ok (briefing, firstInherited) := by
  have sessionIs := loadSession_of_missing (housed_summarized retention) free_summarized rfl midnight.adopted
  have changelogIs := loadChangelog_of_missing (housed_summarized retention) rfl
  refine ⟨.ofInherited firstInherited (.ofStored (some .first) none none), ?_⟩
  rw [load, sessionIs, changelogIs, summary_summarized, missing_summarized]
  rfl

def handsOver (retention : Count) : Except HandoffError HandoffReport × Phase × Disk :=
  (keeping retention).outgoing (.loaded firstInherited) unfinished midnight (.ofTree summarizedTree 0)

theorem outgoing_summarized {retention : Count} (succeeds : (handsOver retention).1.isOk = true) :
    ∃ report last after, handsOver retention = (.ok report, last, after) := by
  obtain ⟨report, outcome⟩ := Fallible.exists_of_isOk succeeds
  exact ⟨report, _, _, eq_of_outcome outcome⟩

theorem Run.versions_agree_iff_summarized : ∃ briefing report last after,
    (keeping 1).incoming .idle summarizedTree midnight = (.ok briefing, .loaded firstInherited) ∧
    handsOver 1 = (.ok report, last, after) ∧ ∃ briefing' inherited,
      (keeping 1).incoming .idle after.tree oneOClock = (.ok briefing', .loaded inherited) ∧
      briefing'.documentation.versionsConsistent = true := by
  have succeeds : (handsOver 1).1.isOk = true := by decide +kernel
  obtain ⟨report, last, after, outgoing⟩ := outgoing_summarized succeeds
  obtain ⟨briefing, loads⟩ := load_summarized 1
  have incoming := incoming_of_load loads
  have run : Run (keeping 1).store summarizedTree [] (.loaded firstInherited) (Disk.ofTree summarizedTree 0).tree :=
    .quiet .start (.incoming rfl incoming)
  have same : (keeping 1).store = (keeping 1).store := rfl
  obtain ⟨briefing', inherited, incoming', agrees⟩ := Run.versions_agree_iff run (housed_summarized 1)
    (summary_summarized 1) (missing_summarized 1) outgoing same oneOClock
  exact ⟨briefing, report, last, after, incoming, outgoing, briefing', inherited, incoming', agrees.2 (by decide)⟩

/-- Where no entry may be kept, the versions are told to differ right after a handoff that read the summary. -/
theorem versions_differ_summarized : ∃ report last after briefing inherited,
    (keeping 0).store.loadSummary summarizedTree = .ok (some bareSummary) ∧
    (keeping 0).outgoing .idle unfinished midnight (.ofTree summarizedTree 0) = (.ok report, last, after) ∧
    (keeping 0).incoming .idle after.tree oneOClock = (.ok briefing, .loaded inherited) ∧
    briefing.documentation.versionsConsistent = false := by
  have succeeds : (handsOver 0).1.isOk = true := by decide +kernel
  obtain ⟨report, last, after, loaded⟩ := outgoing_summarized succeeds
  obtain ⟨briefing, loads⟩ := load_summarized 0
  have outgoing := outgoing_of_load (show (keeping 0).load (Disk.ofTree summarizedTree 0).tree midnight = _ from loads)
    loaded
  have same : (keeping 0).store = (keeping 0).store := rfl
  obtain ⟨briefing, inherited, incoming, agrees⟩ := incoming_agrees (housed_summarized 0) (summary_summarized 0)
    (missing_summarized 0) (fun _ none => by cases none) outgoing same oneOClock
  refine ⟨report, last, after, briefing, inherited, summary_summarized 0, outgoing, incoming, ?_⟩
  rw [← Bool.not_eq_true, agrees]
  exact fun some => some rfl

end Synchronizer

end Waymark
