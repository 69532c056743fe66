import Waymark.Proofs.Document.Kinds
import Waymark.Proofs.Store.Earlier

/-! What saving a summary keeps. If it fails, the summary is the one before; if it succeeds, the summary is
read back, and another version of it that stood there is archived first.
-/

set_option autoImplicit false

namespace Waymark

open OnDisk

namespace Store

variable {store : Store} {home : Location} {tree : Tree} {disk after : Disk} {text : String}
  {content raw : ByteArray} {version : Version} {now : Time} {summary prior : Summary}
  {outcome : Except StoreError Unit}

/-! The summary -/

theorem Desk.loadSummary (h : Desk store home tree) (measured : summary.Measured)
    (placed : tree.node? (Doc.summary.place home) = some (.file summary.write.toUTF8)) :
    store.loadSummary tree = .ok (some summary) := by
  have reads := h.seat_summary.readOptional h.formed (h.own _ (.inl rfl))
  have there : tree.node? (Doc.summary.dir home ++ [Doc.summary.name]) = some (.file summary.write.toUTF8) := placed
  unfold Store.loadSummary load readRaw
  rw [reads, there]
  simp only [Tree.readNode, Except.mapError, bind, Except.bind, decodeAt, Summary.readSummary_write measured]
  rfl

theorem writeSummary_history (h : Desk store home disk.tree)
    (written : store.writeText store.paths.summary text disk = (outcome, after)) (name : String) :
    after.tree.item? (historyPlace home ++ [name]) = disk.tree.item? (historyPlace home ++ [name]) := by
  have meets := Disk.replace_meets store.attempts text.toUTF8 h.seat_summary h.formed h.own
  have dated := Disk.replace_dates store.attempts text.toUTF8 h.seat_summary h.own
  obtain ⟨first, replaced, -⟩ := adapt_cases written
  rw [replaced] at meets dated
  have touches : Tree.Touches (Doc.summary.dir home) (Doc.summary.Beside home) disk.tree after.tree := by
    cases first with
    | ok value => exact meets.1
    | error error => exact Tree.Touches.mono meets (List.prefix_refl _) fun _ => .inr
  have spares : Tree.Spares (Doc.summary.Beside home) disk.tree after.tree := by
    cases first with
    | ok value => exact dated.1.spares
    | error error => exact Disk.Dates.spares dated
  refine touches.item? spares ?_ ?_
  · rintro (same | same) <;> simp [Doc.dir, Doc.room, historyPlace] at same
  · intro above
    have short := above.length_le
    simp [Doc.dir, Doc.room, historyPlace] at short

theorem writeSummary_archived {between : Disk} (h : Shelf store home disk.tree) (ordered : Ordered home now disk)
    (archived : store.archiveSummary raw version now disk = (.ok (), between))
    (written : store.writeText store.paths.summary text between = (.ok (), after)) :
    Shelf store home after.tree ∧ Archived store.historyRetention (historyName version now) raw
      (earlier home disk.tree) (earlier home after.tree) := by
  obtain ⟨time, older, copied, retained⟩ := archiveSummary_archives h ordered archived
  have touches := archiveSummary_touches h raw version now
  have distinct := (keeps_archiveSummary store Tree.stable_distinct raw version now).tree disk ordered.distinct
  rw [archived] at touches distinct
  have shelf := h.touches touches fun _ => HistoryOutput.summaryOutput
  -- The summary is written outside of the history, which holds the same files, though maybe in another order.
  have distinct' : after.tree.Distinct := by
    have kept := (keeps_writeRaw store Tree.stable_distinct store.paths.summary text.toUTF8).tree between distinct
    rw [writeText] at written
    rwa [written] at kept
  have same := earlier_perm distinct distinct' (writeSummary_history shelf.toDesk written)
  cases writeSummary_ends shelf.toDesk written with
  | saved touches placed =>
    exact ⟨shelf.touches touches fun _ => id, time, older, fun some => same.mem_iff.1 (copied some),
      retained.perm_left same⟩

/-- What saving a summary keeps: the one before if it fails; a copy of that one if it is of another version and the
history has room for it; and the history if it is not. -/
structure Preserves (store : Store) (home : Location) (summary : Summary) (now : Time) (before : Tree)
    (outcome : Except StoreError Unit) (after : Tree) : Prop where
  failed : ∀ error, outcome = .error error →
    after.node? (Doc.summary.place home) = before.node? (Doc.summary.place home)
  written : outcome = .ok () → after.node? (Doc.summary.place home) = some (.file summary.write.toUTF8)
  loads : outcome = .ok () → summary.Measured → store.loadSummary after = .ok (some summary)
  archived : ∀ raw prior, Outdated home before summary raw prior → outcome = .ok () →
    ∃ old left, store.history before = .ok old ∧ store.history after = .ok left ∧
      Archived store.historyRetention (historyName prior.version now) raw old left
  current : (∀ raw prior, ¬Outdated home before summary raw prior) → ∀ name,
    after.item? (historyPlace home ++ [name]) = before.item? (historyPlace home ++ [name])

theorem Outdated.unique {other : ByteArray} {prior' : Summary} (outdated : Outdated home tree summary raw prior)
    (outdated' : Outdated home tree summary other prior') : raw = other ∧ prior = prior' := by
  obtain ⟨there, decoded, -⟩ := outdated
  obtain ⟨there', decoded', -⟩ := outdated'
  cases there.symm.trans there'
  cases decoded.symm.trans decoded'
  exact ⟨rfl, rfl⟩

theorem Outdated.preserves_of_error {error : StoreError} {before after : Tree}
    (outdated : Outdated home before summary raw prior)
    (same : after.node? (Doc.summary.place home) = before.node? (Doc.summary.place home)) :
    Preserves store home summary now before (.error error) after where
  failed _ _ := same
  written := nofun
  loads := nofun
  archived _ _ _ := nofun
  current none := absurd outdated (none raw prior)

theorem Outdated.preserves (outdated : Outdated home disk.tree summary raw prior)
    (h : Shelf store home disk.tree) (ordered : Ordered home now disk)
    (saved : (store.archiveSummary raw prior.version now >>= fun _ =>
      store.writeText store.paths.summary summary.write) disk = (outcome, after)) :
    Preserves store home summary now disk.tree outcome after.tree := by
  have touches := archiveSummary_touches h raw prior.version now
  have apart : ¬HistoryOutput home (Doc.summary.place home) := fun output =>
    not_around_summary home (.inl output.inHistory)
  -- Saving ends while the copy is made, or when the summary is written.
  rcases bind_cases saved with ⟨error, stopped, rfl⟩ | ⟨_, between, archived, written⟩
  · rw [stopped] at touches
    exact outdated.preserves_of_error (touches.same apart (summary_not_above home))
  · have shelf : Shelf store home between.tree := by
      rw [archived] at touches
      exact h.touches touches fun _ => HistoryOutput.summaryOutput
    rw [archived] at touches
    have same := touches.same apart (summary_not_above home)
    cases outcome with
    | error error =>
      cases writeSummary_ends shelf.toDesk written with
      | kept late =>
        exact outdated.preserves_of_error
          ((late.same (not_around_summary home) (summary_not_above home)).trans same)
    | ok value =>
      obtain ⟨shelf', kept⟩ := writeSummary_archived h ordered archived written
      cases writeSummary_ends shelf.toDesk written with
      | saved late placed =>
        refine ⟨nofun, fun _ => placed, fun _ measured => shelf'.loadSummary measured placed, ?_,
          fun none => absurd outdated (none raw prior)⟩
        intro raw' prior' outdated' _
        obtain ⟨rfl, rfl⟩ := outdated.unique outdated'
        exact ⟨_, _, h.history_eq, shelf'.history_eq, kept⟩

theorem Desk.writeSummary_preserves (h : Desk store home disk.tree)
    (current : ∀ raw prior, ¬Outdated home disk.tree summary raw prior)
    (written : store.writeText store.paths.summary summary.write disk = (outcome, after)) :
    Preserves store home summary now disk.tree outcome after.tree := by
  refine ⟨?_, ?_, ?_, fun raw prior outdated => absurd outdated (current raw prior),
    fun _ => writeSummary_history h written⟩
  · rintro error rfl
    cases writeSummary_ends h written with
    | kept touches => exact touches.same (not_around_summary home) (summary_not_above home)
  · rintro rfl
    cases writeSummary_ends h written with
    | saved touches placed => exact placed
  · rintro rfl measured
    cases writeSummary_ends h written with
    | saved touches placed => exact (h.touches touches fun _ => id).loadSummary measured placed

/-- Whatever fails, saving a summary preserves the one before. -/
theorem saveSummary_preserves (cabinet : Cabinet store home disk.tree) (ordered : Ordered home now disk)
    (saved : store.saveSummary summary now disk = (outcome, after)) :
    Preserves store home summary now disk.tree outcome after.tree := by
  rcases cabinet.saveSummary_course saved with ⟨error, rfl, rfl, current⟩ | ⟨raw, prior, outdated, saved⟩ |
    ⟨current, written⟩
  · exact ⟨fun _ _ => rfl, nofun, nofun, fun raw prior outdated => absurd outdated (current raw prior),
      fun _ _ => rfl⟩
  · rcases cabinet.shelf_or_stuck with shelf | stuck
    · exact outdated.preserves shelf ordered saved
    · obtain ⟨error, stopped⟩ := archiveSummary_stuck stuck raw prior.version now
      rw [bind_of_error stopped] at saved
      cases saved
      exact outdated.preserves_of_error rfl
  · exact cabinet.writeSummary_preserves current written

/-! A summary that is replaced -/

def frugal : Store := { ofPaths (.derive ⟨"/"⟩ ⟨"/"⟩) with historyRetention := 1 }

def storedTree : Tree where
  items := [(["codebase_summary.json"], ⟨.file Stored.threeOfEight.write.toUTF8, 0⟩)]
  workingDir := []

def raised : Summary := { Stored.threeOfEight with version := ⟨1, 1, 0⟩ }

theorem storedTree_proper : storedTree.Proper := by
  apply Tree.Proper.of_items <;> decide +kernel

theorem cabinet_storedTree : Cabinet frugal [] storedTree := by
  have unlinked : ∀ k target, storedTree.node? k ≠ some (.link target) :=
    Tree.unlinked_of_items (by simp [storedTree])
  have desk : Desk frugal [] storedTree :=
    ⟨storedTree_proper.formed, ⟨⟨"/"⟩, ⟨"/"⟩, rfl, .there rfl rfl⟩, fun k _ => unlinked k⟩
  exact ⟨desk, ⟨unlinked _, fun _ _ k _ => unlinked k, fun _ => storedTree_proper.named _ _⟩, unlinked _⟩

theorem ordered_storedTree : Ordered [] .epoch (.ofTree storedTree 1) := by
  have missing : storedTree.node? (historyPlace []) = none := rfl
  have nothing : earlier [] storedTree = [] := Tree.held_of_missing storedTree_proper.formed missing
  have absent : ∀ entry, entry ∉ earlier [] storedTree := fun entry => nothing ▸ List.not_mem_nil
  refine ⟨storedTree_proper.distinct, fun version => ?_, fun entry among => absurd among (absent entry),
    fun entry among => absurd among (absent entry)⟩
  apply Classical.byContradiction
  intro there
  have directory := storedTree_proper.formed.inside _ _ there
  rw [missing] at directory
  cases directory

theorem raised_measured : raised.Measured :=
  ⟨Stored.threeOfEight_measured.total, Stored.threeOfEight_measured.details⟩

theorem outdated_storedTree :
    Outdated [] storedTree raised Stored.threeOfEight.write.toUTF8 Stored.threeOfEight :=
  ⟨rfl, Summary.readSummary_write Stored.threeOfEight_measured, by decide⟩

theorem archives_storedTree :
    ((frugal.archiveSummary Stored.threeOfEight.write.toUTF8 Stored.threeOfEight.version .epoch >>= fun _ =>
      frugal.writeText frugal.paths.summary raised.write) (.ofTree storedTree 1)).1.isOk = true := by
  decide +kernel

/-- A summary of another version takes the place of the stored one, which is copied. -/
theorem saveSummary_preserves_raised : ∃ after,
    Cabinet frugal [] storedTree ∧ Ordered [] .epoch (.ofTree storedTree 1) ∧ raised.Measured ∧
    frugal.saveSummary raised .epoch (.ofTree storedTree 1) = (.ok (), after) ∧
    Outdated [] storedTree raised Stored.threeOfEight.write.toUTF8 Stored.threeOfEight ∧
    Preserves frugal [] raised .epoch storedTree (.ok ()) after.tree := by
  have succeeds := archives_storedTree
  cases saved : frugal.saveSummary raised .epoch (.ofTree storedTree 1) with
  | mk outcome after =>
  rcases cabinet_storedTree.saveSummary_course saved with ⟨error, rfl, rfl, current⟩ |
    ⟨raw, prior, outdated, course⟩ | ⟨current, -⟩
  · exact absurd outdated_storedTree (current _ _)
  · obtain ⟨rfl, rfl⟩ := outdated_storedTree.unique outdated
    rw [course] at succeeds
    cases outcome with
    | error error => cases succeeds
    | ok value =>
      exact ⟨after, cabinet_storedTree, ordered_storedTree, raised_measured, rfl, outdated,
        saveSummary_preserves cabinet_storedTree ordered_storedTree saved⟩
  · exact absurd outdated_storedTree (current _ _)

/-! A link in the place of the temporary file -/

def blank : Summary where
  version := .first
  generatedAt := .epoch
  totalFiles := 0
  totalFunctions := 0
  documentedFunctions := 0
  coverage := coverage 0 0
  languages := .ofList []
  attribution := ""
  verbosity := .standard
  details := none
  runReport := none

/-- A summary, and a link to it in the place of its temporary file. -/
def loopedTree : Tree where
  items := [(["codebase_summary.json"], ⟨.file "old".toUTF8, 0⟩),
    (["codebase_summary.json.tmp"], ⟨.link ⟨"/codebase_summary.json"⟩, 0⟩)]
  workingDir := []

def loopedDisk : Disk := (Disk.ofTree loopedTree 1).withScript (.ofNumbers [] [1] .permissionDenied)

/-- Saving fails, and the summary is another one. -/
theorem saveSummary_spoils : ∃ error after, frugal.saveSummary blank .epoch loopedDisk = (.error error, after) ∧
    after.tree.node? (Doc.summary.place (.ofRoot [])) ≠ loopedDisk.tree.node? (Doc.summary.place (.ofRoot [])) := by
  have ends : (frugal.saveSummary blank .epoch loopedDisk).1.isOk = false ∧
      (frugal.saveSummary blank .epoch loopedDisk).2.tree.node? (Doc.summary.place (.ofRoot [])) ≠
        loopedDisk.tree.node? (Doc.summary.place (.ofRoot [])) := by
    decide +kernel
  obtain ⟨fails, differs⟩ := ends
  cases saved : frugal.saveSummary blank .epoch loopedDisk with
  | mk outcome after =>
  rw [saved] at fails differs
  cases outcome with
  | ok value => cases fails
  | error error => exact ⟨error, after, rfl, differs⟩

end Store

end Waymark
