import Waymark.Proofs.Command.Rescan
import Waymark.Proofs.Handoff.Continuity
import Waymark.Proofs.Store.Apart

/-! What the commands leave stored. A scan changes the documents of a scan only, and the summary that it stores
is read back; a handoff changes the documents of a handoff only.
-/

set_option autoImplicit false

namespace Waymark

open Store

/-! Records -/

theorem Scan.analysed_of_look {sight : Sight} {scope : Scope} {tree : Tree} {root : Path} {scan : Scan}
    {record : FileRecord} (ran : Scan.look sight scope tree root = .ok scan) (among : record ∈ scan.records) :
    ∃ language text analysis path extension, Analysis.ofText language text = .ok analysis ∧
      record = Finding.recordOf path extension analysis := by
  obtain ⟨opened, home, rooted⟩ := rooted_of_look ran
  rw [look_eq opened rooted] at ran
  rcases Finding.gather_cases (Finding.ofEntry sight scope tree home) (walk sight scope tree home) with
    ⟨gathered, all⟩ | ⟨refused, gathered, -⟩
  · rw [gathered] at ran
    cases ran
    obtain ⟨names, walked, found⟩ := List.mem_flatMap.1 (mem_records.1 among)
    have comes := Finding.ofEntry_comes sight scope tree home names
    rw [all names walked] at comes
    obtain ⟨extension, language, content, analysis, -, -, analysed, rfl⟩ := comes.record_iff.1 found
    exact ⟨language, _, analysis, _, extension, analysed, rfl⟩
  · rw [gathered] at ran
    cases ran

def Scan.Countable (scan : Scan) : Prop := ∀ record ∈ scan.records, record.names.length < Count.limit

theorem Scan.covered_of_look {sight : Sight} {scope : Scope} {tree : Tree} {root : Path} {scan : Scan}
    (ran : Scan.look sight scope tree root = .ok scan) (countable : scan.Countable) :
    ∀ record ∈ scan.records, record.Covered := by
  intro record among
  obtain ⟨language, text, analysis, path, extension, analysed, rfl⟩ := analysed_of_look ran among
  exact Finding.recordOf_covered analysed (countable _ among)

namespace Store

variable {store : Store} {home : Location} {a b tree : Tree} {doc : Doc}

theorem load_of_same {α : Type} (decode : ByteArray → Decoded α) (housed : Housed store home a)
    (housed' : Housed store home b) (outer : doc.room = none)
    (same : b.node? (doc.place home) = a.node? (doc.place home)) :
    load b (doc.path store) decode = load a (doc.path store) decode := by
  apply Synchronizer.load_congr_read
  rw [housed.readOptional (housed.seat_of_root outer), housed'.readOptional (housed'.seat_of_root outer), same]

theorem loadSummary_of_same (housed : Housed store home a) (housed' : Housed store home b)
    (same : b.node? (Doc.summary.place home) = a.node? (Doc.summary.place home)) :
    store.loadSummary b = store.loadSummary a := by
  have reads : load b (Doc.summary.path store) Document.readSummary =
      load a (Doc.summary.path store) Document.readSummary := load_of_same _ housed housed' rfl same
  exact reads

theorem loadChangelog_of_same (housed : Housed store home a) (housed' : Housed store home b)
    (same : b.node? (Doc.changelog.place home) = a.node? (Doc.changelog.place home)) :
    store.loadChangelog b = store.loadChangelog a := by
  have reads : load b (Doc.changelog.path store) Document.readChangelog =
      load a (Doc.changelog.path store) Document.readChangelog := load_of_same _ housed housed' rfl same
  exact reads

theorem load_of_missing {α : Type} (decode : ByteArray → Decoded α) (housed : Housed store home tree)
    (seat : tree.Seats (doc.path store) (doc.dir home) doc.name)
    (missing : tree.node? (doc.place home) = none) : load tree (doc.path store) decode = .ok none := by
  rw [load, readRaw, housed.readOptional seat, missing]
  rfl

theorem loadSession_of_missing (housed : Housed store home tree)
    (free : ¬tree.Barred (Doc.session.dir home))
    (missing : tree.node? (Doc.session.place home) = none) (adopted : SessionId) :
    store.loadSession tree adopted = .ok none := by
  have loaded : load tree (Doc.session.path store) (Document.readSession · adopted) = .ok none :=
    load_of_missing _ housed (housed.seat_of_opened free) missing
  exact loaded

theorem loadChangelog_of_missing (housed : Housed store home tree)
    (missing : tree.node? (Doc.changelog.place home) = none) : store.loadChangelog tree = .ok none := by
  have loaded : load tree (Doc.changelog.path store) Document.readChangelog = .ok none :=
    load_of_missing _ housed (housed.seat_of_root rfl) missing
  exact loaded

theorem loadMissingDocs_of_missing (housed : Housed store home tree)
    (free : ¬tree.Barred (Doc.missingDocs.dir home))
    (missing : tree.node? (Doc.missingDocs.place home) = none) : store.loadMissingDocs tree = .ok none := by
  have loaded : load tree (Doc.missingDocs.path store) Document.readMissingDocs = .ok none :=
    load_of_missing _ housed (housed.seat_of_opened free) missing
  exact loaded

theorem loadSummary_of_missing (housed : Housed store home tree)
    (missing : tree.node? (Doc.summary.place home) = none) : store.loadSummary tree = .ok none := by
  have loaded : load tree (Doc.summary.path store) Document.readSummary = .ok none :=
    load_of_missing _ housed (housed.seat_of_root rfl) missing
  exact loaded

end Store

/-! Scans -/

namespace Command

variable {context : Context} {config : ScanConfig} {verbosity : Option Verbosity} {now : Time} {home k : Location}
  {before after : Tree} {outcome : Except CommandError String} {summary : Summary} {found : Scan}

/-- The counters of every file fit, whatever a scan of the tree finds. -/
def Countable (context : Context) (config : ScanConfig) (tree : Tree) : Prop :=
  ∀ found, Scan.look .clear (scanScope context config tree) tree context.paths.scanRoot = .ok found → found.Countable

theorem Measured.covered (measured : Measured context config verbosity now before found summary)
    (countable : found.Countable) : ∀ record ∈ found.records, record.Covered :=
  Scan.covered_of_look measured.scanned countable

theorem Measured.loads {store : Store} (measured : Measured context config verbosity now before found summary)
    (countable : found.Countable) (housed : Housed store home after)
    (there : after.node? (Doc.summary.place home) = some (.file summary.write.toUTF8)) :
    store.loadSummary after = .ok (some summary) := by
  obtain ⟨prior, -, summed⟩ := measured.summed
  exact loadSummary_of_place housed (Summary.measured_of_measure (measured.covered countable) summed) there

namespace ScanEnds

theorem touches (ends : ScanEnds context config verbosity now home before outcome after) (formed : before.Formed) :
    Tree.Touches (historyPlace home) (IsOutput home) before after := by
  have around : ∀ k, AroundSummary home k → IsOutput home k := by
    rintro k (inside | temporary)
    · exact .inl inside
    · exact .inr (.inl (.inr temporary))
  cases ends with
  | done _ _ touches => exact touches
  | unmeasured => exact .refl _ _ formed
  | unsaved touches => exact touches.mono (List.prefix_refl _) around
  | unreported _ _ touches =>
    refine touches.mono (List.prefix_refl _) ?_
    rintro k (inside | temporary)
    · exact inside.isOutput
    · exact .inr (.inr (.inr temporary))

theorem keeps (ends : ScanEnds context config verbosity now home before outcome after) (formed : before.Formed)
    (place : HandoffPlace home k) : after.node? k = before.node? k :=
  (ends.touches formed).same place.not_output place.not_above_history

theorem shelved {store : Store} (ends : ScanEnds context config verbosity now home before outcome after)
    (shelved : Shelved store home before) : Shelved store home after :=
  shelved.touches (ends.touches shelved.housed.formed) fun _ => id

theorem summary_cases (ends : ScanEnds context config verbosity now home before outcome after)
    (shelved : Shelved (scanStore context config) home before)
    (countable : Countable context config before) :
    (scanStore context config).loadSummary after = (scanStore context config).loadSummary before ∨
      ∃ found summary, Measured context config verbosity now before found summary ∧
        (scanStore context config).loadSummary after = .ok (some summary) := by
  have housed := (ends.shelved shelved).housed
  cases ends with
  | @done found summary _ _ measured _ _ summarized =>
    exact .inr ⟨found, summary, measured, measured.loads (countable found measured.scanned) housed summarized⟩
  | unmeasured => exact .inl rfl
  | unsaved touches =>
    have stays := touches.same (not_around_summary home) (summary_not_above home)
    exact .inl (loadSummary_of_same shelved.housed housed stays)
  | @unreported found summary _ _ measured _ _ summarized =>
    exact .inr ⟨found, summary, measured, measured.loads (countable found measured.scanned) housed summarized⟩

end ScanEnds

end Command

/-! Handoffs -/

namespace Synchronizer

variable {sync : Synchronizer} {phase next : Phase} {request : HandoffRequest} {moment : Moment}
  {disk after : Disk} {home k : Location} {report : HandoffReport} {result : Except HandoffError HandoffReport}

/-- Whatever becomes of a handoff, all that happens on the disk is one commit. -/
theorem outgoing_disk (called : sync.outgoing phase request moment disk = (result, next, after)) :
    after = disk ∨ ∃ batch, after = (sync.store.commitHandoff batch moment.clock.stamped disk).2 := by
  cases result with
  | ok report =>
    obtain ⟨_, _, batch, -, -, committed, -, -⟩ := outgoing_ok called
    exact .inr ⟨batch, by rw [committed]⟩
  | error error =>
    cases outgoing_error called with
    | blank | unread | full => exact .inl rfl
    | @uncommitted _ _ batch _ _ _ failed => exact .inr ⟨batch, by rw [failed]⟩

theorem outgoing_shelved (shelved : Shelved sync.store home disk.tree)
    (called : sync.outgoing phase request moment disk = (result, next, after)) :
    Shelved sync.store home after.tree := by
  rcases outgoing_disk called with rfl | ⟨batch, rfl⟩
  · exact shelved
  · exact commitHandoff_shelved shelved batch moment.clock.stamped

theorem outgoing_keeps (housed : Housed sync.store home disk.tree)
    (called : sync.outgoing phase request moment disk = (result, next, after)) (place : ScanPlace home k) :
    after.tree.node? k = disk.tree.node? k := by
  rcases outgoing_disk called with rfl | ⟨batch, rfl⟩
  · rfl
  · exact commitHandoff_same housed batch moment.clock.stamped place.off fun _ => place.not_mem_places

theorem outgoing_changelog (housed : Housed sync.store home disk.tree)
    (succeeded : sync.outgoing .idle request moment disk = (.ok report, next, after)) :
    ∃ before changelog, sync.store.loadChangelog disk.tree = .ok before ∧
      sync.store.loadChangelog after.tree = .ok (some changelog) ∧
      (before.getD .empty).version.bumpMinor = .ok changelog.version := by
  obtain ⟨inherited, session, batch, log, opened, closed, -, saved, -⟩ := outgoing_saved housed succeeded
  obtain ⟨⟨briefing, inherited⟩, loads, opened⟩ := Fallible.bind_ok opened
  cases opened
  obtain ⟨before, -, loaded, -, same, -⟩ := load_ok loads
  refine ⟨before, batch.changelog, loaded, loadChangelog_of_saved saved, ?_⟩
  rw [← same]
  exact (closing_once closed).version

end Synchronizer

end Waymark
