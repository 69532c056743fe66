import Waymark.Proofs.Command.Consistent
import Waymark.Proofs.Handoff.Run

/-! Runs of the program on one project, one after the other and in any order. A scan writes no document of a
handoff, and a handoff none of a scan; so the version of the changelog counts the handoffs, and the version of
the summary counts how often a scan found other numbers.
-/

set_option autoImplicit false

namespace Waymark

open OnDisk Store Synchronizer

/-! What is counted -/

def Command.scans : Command → Bool
  | .scan .. => true
  | _ => false

def Command.handsOver : Command → Except CommandError String → Bool
  | .outgoing _, .ok _ => true
  | _, _ => false

namespace Store

def recounts (store : Store) (before after : Tree) : Bool :=
  match store.loadSummary before, store.loadSummary after with
  | .ok (some prior), .ok (some summary) => !prior.sameCounts summary
  | _, _ => false

/-- The stored changelog is of the version `1.n.0`, which is that of none where `n` is zero. -/
def Logged (store : Store) (n : Nat) (tree : Tree) : Prop :=
  ∃ log, store.loadChangelog tree = .ok log ∧ (log.getD .empty).version.IsMinor n

/-- The stored summary is of the version `1.0.n`, or there is none yet. -/
def Summed (store : Store) (n : Nat) (tree : Tree) : Prop :=
  store.loadSummary tree = .ok none ∧ n = 0 ∨
    ∃ summary, store.loadSummary tree = .ok (some summary) ∧ summary.version.IsPatch n

variable {store : Store} {before after : Tree} {n : Nat}

theorem recounts_of_same (same : store.loadSummary after = store.loadSummary before) :
    store.recounts before after = false := by
  rw [recounts, same]
  rcases store.loadSummary before with error | (_ | summary)
  · rfl
  · rfl
  · simp [Summary.sameCounts]

theorem Summed.next {prior : Option Summary} {summary : Summary} (summed : store.Summed n before)
    (loaded : store.loadSummary before = .ok prior) (loads : store.loadSummary after = .ok (some summary))
    (follows : Summary.nextVersion prior summary = .ok summary.version) :
    store.Summed (n + if store.recounts before after then 1 else 0) after := by
  refine .inr ⟨summary, loads, ?_⟩
  cases prior with
  | none =>
    -- There is nothing to compare a first summary with, so it does not count.
    have told : store.recounts before after = false := by rw [recounts, loaded]
    have first : Version.first = summary.version := Except.ok.inj follows
    rcases summed with ⟨-, rfl⟩ | ⟨_, stored, -⟩
    · rw [told, ← first]
      exact ⟨rfl, rfl, rfl⟩
    · rw [loaded] at stored
      cases stored
  | some prior =>
    have told : store.recounts before after = !prior.sameCounts summary := by rw [recounts, loaded, loads]
    rcases summed with ⟨missing, -⟩ | ⟨_, stored, counts⟩
    · rw [loaded] at missing
      cases missing
    rw [loaded] at stored
    cases stored
    rw [Summary.nextVersion] at follows
    cases same : prior.sameCounts summary with
    | true =>
      rw [same, if_pos rfl] at follows
      have kept : prior.version = summary.version := Except.ok.inj follows
      rw [told, same, ← kept]
      exact counts
    | false =>
      rw [same, if_neg Bool.false_ne_true] at follows
      rw [told, same]
      exact counts.bump follows

end Store

/-! One command -/

namespace Command

/-- The documents that a command has no part in are as before. -/
def Spares (home : Location) (before after : Tree) : Command → Prop
  | .scan .. => ∀ k, HandoffPlace home k → after.node? k = before.node? k
  | .outgoing _ => ∀ k, ScanPlace home k → after.node? k = before.node? k
  | .incoming | .status => after = before

/-- What a command can do to a tree, apart from a failed handoff that is not put back. -/
inductive Does (paths : OutputPaths) (home : Location) (before : Tree) :
    Command → Except CommandError String → Tree → Prop where
  | nothing {command : Command} {outcome : Except CommandError String} (idle : command.handsOver outcome = false) :
    Does paths home before command outcome before
  | scanned {context : Context} {config : ScanConfig} {force : Bool} {verbosity : Option Verbosity} {now : Time}
    {outcome : Except CommandError String} {after : Tree} (ofPaths : context.paths = paths)
    (countable : Countable context config before)
    (ends : ScanEnds context config verbosity now home before outcome after) :
    Does paths home before (.scan force verbosity) outcome after
  | closed {sync : Synchronizer} {request : HandoffRequest} {moment : Moment} {disk left : Disk}
    {result : Except HandoffError HandoffReport} {next : Phase} {outcome : Except CommandError String}
    (ofPaths : sync.store = .ofPaths paths) (onward : disk.tree = before)
    (called : sync.outgoing .idle request moment disk = (result, next, left))
    (told : Command.handsOver (.outgoing request) outcome = result.isOk)
    (whole : ∀ error, result = .error error → ¬Torn error) :
    Does paths home before (.outgoing request) outcome left.tree

namespace Does

variable {paths : OutputPaths} {home k : Location} {before after : Tree} {command : Command}
  {outcome : Except CommandError String} {n : Nat}

theorem shelved (does : Does paths home before command outcome after) (shelved : Shelved (.ofPaths paths) home before) :
    Shelved (.ofPaths paths) home after := by
  cases does with
  | nothing => exact shelved
  | scanned _ _ ends => exact ends.shelved shelved
  | closed ofPaths onward called =>
    subst onward
    rw [← ofPaths] at shelved ⊢
    exact outgoing_shelved shelved called

/-- A scan spares the documents of a handoff, a handoff those of a scan, and any other command spares all. -/
theorem spares (does : Does paths home before command outcome after)
    (shelved : Shelved (.ofPaths paths) home before) : command.Spares home before after := by
  cases does with
  | nothing =>
    cases command with
    | scan | outgoing => exact fun _ _ => rfl
    | incoming | status => rfl
  | scanned _ _ ends => exact fun k place => ends.keeps shelved.housed.formed place
  | closed ofPaths onward called =>
    subst onward
    rw [← ofPaths] at shelved
    exact fun k place => outgoing_keeps shelved.housed called place

theorem logged (does : Does paths home before command outcome after) (shelved : Shelved (.ofPaths paths) home before)
    (logged : Logged (.ofPaths paths) n before) :
    Logged (.ofPaths paths) (n + if command.handsOver outcome then 1 else 0) after := by
  have housed := (does.shelved shelved).housed
  obtain ⟨log, loads, counts⟩ := logged
  cases does with
  | nothing idle =>
    rw [idle]
    exact ⟨log, loads, counts⟩
  | scanned _ _ ends =>
    have same := ends.keeps shelved.housed.formed (.inl ⟨.changelog, trivial, rfl⟩)
    exact ⟨log, (loadChangelog_of_same shelved.housed housed same).trans loads, counts⟩
  | @closed sync _ _ disk left result _ _ ofPaths onward called told whole =>
    subst onward
    rw [told]
    rw [← ofPaths] at shelved loads ⊢
    cases result with
    | ok report =>
      obtain ⟨log', changelog, loads', stored, raised⟩ := outgoing_changelog shelved.housed called
      rw [loads] at loads'
      cases loads'
      exact ⟨some changelog, stored, counts.bump raised⟩
    | error error =>
      -- The failure was put back, so the changelog reads as before.
      have same := unchanged_of_failed shelved.housed (outgoing_error called) (whole error rfl)
      exact ⟨log, (loadChangelog_congr same).trans loads, counts⟩

theorem summed_of_same (summed : (ofPaths paths).Summed n before)
    (same : (ofPaths paths).loadSummary after = (ofPaths paths).loadSummary before) :
    (ofPaths paths).Summed (n + if (ofPaths paths).recounts before after then 1 else 0) after := by
  rw [recounts_of_same same]
  rw [Summed, same]
  exact summed

theorem same_summary (does : Does paths home before command outcome after)
    (shelved : Shelved (.ofPaths paths) home before) (other : command.scans = false) :
    (ofPaths paths).loadSummary after = (ofPaths paths).loadSummary before := by
  have housed := (does.shelved shelved).housed
  cases does with
  | nothing => rfl
  | scanned => cases other
  | closed ofPaths onward called =>
    subst onward
    rw [← ofPaths] at shelved housed ⊢
    have same := outgoing_keeps shelved.housed called (.inl ⟨.summary, id, rfl⟩)
    exact loadSummary_of_same shelved.housed housed same

theorem summed (does : Does paths home before command outcome after) (shelved : Shelved (.ofPaths paths) home before)
    (summed : Summed (.ofPaths paths) n before) :
    Summed (.ofPaths paths) (n + if recounts (.ofPaths paths) before after then 1 else 0) after := by
  have otherwise := does.same_summary shelved
  cases does with
  | nothing => exact summed_of_same summed rfl
  | @scanned context config _ _ _ _ _ of_paths countable ends =>
    subst of_paths
    have shelved' : Shelved (scanStore context config) home before := shelved.of_paths rfl
    rcases ends.summary_cases shelved' countable with same | ⟨found, summary, measured, loads⟩
    · exact summed_of_same summed same
    · obtain ⟨prior, loaded, measure⟩ := measured.summed
      exact summed.next loaded loads (Summary.version_of_measure measure)
  | closed => exact summed_of_same summed (otherwise rfl)

end Does

theorem does_of_run {paths : OutputPaths} {home : Location} {command : Command} {resolution : Resolution}
    {moment : Moment} {disk : Disk} (of_paths : resolution.context.paths = paths)
    (countable : command.scans → Countable resolution.context resolution.config.scan disk.tree)
    (whole : ∀ error, (command.run resolution moment disk).1 = .error (.handoff error) → ¬Torn error)
    (shelved : Shelved (.ofPaths paths) home disk.tree) :
    command.Does paths home disk.tree (command.run resolution moment disk).1
      (command.run resolution moment disk).2.tree := by
  subst of_paths
  cases command with
  | scan force verbosity =>
    have shelved' : Shelved (scanStore resolution.context resolution.config.scan) home disk.tree := shelved.of_paths rfl
    exact .scanned rfl (countable rfl) (runScan_ends shelved' rfl)
  | incoming => exact .nothing rfl
  | status => exact .nothing rfl
  | outgoing request =>
    let sync : Synchronizer :=
      ⟨.ofPaths resolution.context.paths, resolution.context.mode, resolution.config.handoff⟩
    obtain ⟨result, next, left, called⟩ :
        ∃ result next left, sync.outgoing .idle request moment disk = (result, next, left) := ⟨_, _, _, rfl⟩
    have told : Command.run (.outgoing request) resolution moment disk =
        ((result.map (Report.outgoing · request.outcome)).mapError .handoff, left) := by
      -- Only the path of the store and the outcome matter from here on.
      change runOutgoing sync request moment disk = _
      rw [runOutgoing, called]
    rw [told] at whole ⊢
    refine .closed rfl rfl called ?_ fun error failed => whole error ?_
    · cases result <;> rfl
    · rw [failed]
      rfl

end Command

/-! Runs -/

/-- A run of the program on a disk as it finds it. -/
structure Launch where
  invocation : Invocation
  /-- Where the program lies. -/
  program : Option Path
  moment : Moment
  disk : Disk

namespace Launch

def resolution (launch : Launch) : Except DeploymentError Resolution :=
  launch.invocation.resolution launch.disk.tree launch.program

def outcome (launch : Launch) : Except CommandError String :=
  (launch.invocation.run launch.program launch.moment launch.disk).1

def before (launch : Launch) : Tree := launch.disk.tree

def after (launch : Launch) : Tree :=
  (launch.invocation.run launch.program launch.moment launch.disk).2.tree

def handsOver (launch : Launch) : Bool := launch.invocation.command.handsOver launch.outcome

def recounts (paths : OutputPaths) (launch : Launch) : Bool :=
  (Store.ofPaths paths).recounts launch.before launch.after

/-- Where a deployment is found, it is that of the project, and what a scan counts fits its counters. -/
def OfProject (paths : OutputPaths) (launch : Launch) : Prop :=
  ∀ resolution, launch.resolution = .ok resolution → resolution.context.paths = paths ∧
    (launch.invocation.command.scans →
      Command.Countable resolution.context resolution.config.scan launch.before)

/-- No handoff has failed without being put back. -/
def Whole (launch : Launch) : Prop := ∀ error, launch.outcome = .error (.handoff error) → ¬Torn error

variable {launch : Launch} {paths : OutputPaths} {home : Location} {n : Nat}

theorem run_of_error {error : DeploymentError} (unresolved : launch.resolution = .error error) :
    launch.invocation.run launch.program launch.moment launch.disk = (.error (.deployment error), launch.disk) := by
  have got : (get : OnDisk CommandError Disk) launch.disk = (.ok launch.disk, launch.disk) := rfl
  have failed : OnDisk.ofResult CommandError.deployment launch.resolution launch.disk =
      (.error (.deployment error), launch.disk) := by
    rw [unresolved]
    rfl
  unfold Invocation.run
  rw [bind_of_ok got]
  exact bind_of_error failed

theorem run_of_resolution {resolution : Resolution} (resolved : launch.resolution = .ok resolution) :
    launch.invocation.run launch.program launch.moment launch.disk =
      launch.invocation.command.run resolution launch.moment launch.disk := by
  have got : (get : OnDisk CommandError Disk) launch.disk = (.ok launch.disk, launch.disk) := rfl
  have found : OnDisk.ofResult CommandError.deployment launch.resolution launch.disk =
      (.ok resolution, launch.disk) := by
    rw [resolved]
    rfl
  unfold Invocation.run
  rw [bind_of_ok got]
  exact bind_of_ok found

theorem does (ofProject : launch.OfProject paths) (whole : launch.Whole)
    (shelved : Shelved (.ofPaths paths) home launch.before) :
    launch.invocation.command.Does paths home launch.before launch.outcome launch.after := by
  rw [Whole, outcome] at whole
  rw [outcome, after]
  cases resolved : launch.resolution with
  | error error =>
    rw [run_of_error resolved]
    exact .nothing (by cases launch.invocation.command <;> rfl)
  | ok resolution =>
    obtain ⟨of_paths, countable⟩ := ofProject resolution resolved
    rw [run_of_resolution resolved] at whole ⊢
    exact Command.does_of_run of_paths countable whole shelved

theorem ofProject_of_resolution {resolution : Resolution} (resolved : launch.resolution = .ok resolution)
    (countable : launch.invocation.command.scans →
      Command.Countable resolution.context resolution.config.scan launch.before) :
    launch.OfProject resolution.context.paths := by
  intro found again
  rw [resolved] at again
  cases again
  exact ⟨rfl, countable⟩

theorem whole_of_isOk (succeeds : launch.outcome.isOk = true) : launch.Whole := by
  intro error failed
  rw [failed] at succeeds
  cases succeeds

end Launch

/-- Runs of the program one after the other, the last one first. Between them everything but the documents may
be changed by others. -/
inductive Runs (paths : OutputPaths) (home : Location) (start : Tree) : List Launch → Tree → Prop where
  | begun : Runs paths home start [] start
  | edited {launches : List Launch} {before after : Tree} (runs : Runs paths home start launches before)
    (shelved : Shelved (.ofPaths paths) home after)
    (same : ∀ k, ScanPlace home k ∨ HandoffPlace home k → after.node? k = before.node? k) :
    Runs paths home start launches after
  | ran {launches : List Launch} {launch : Launch} (runs : Runs paths home start launches launch.before)
    (ofProject : launch.OfProject paths) (whole : launch.Whole) :
    Runs paths home start (launch :: launches) launch.after

namespace Runs

variable {paths : OutputPaths} {home : Location} {start tree : Tree} {launches : List Launch}

theorem shelved (runs : Runs paths home start launches tree) (shelved : Shelved (.ofPaths paths) home start) :
    Shelved (.ofPaths paths) home tree := by
  induction runs with
  | begun => exact shelved
  | edited _ shelved' => exact shelved'
  | ran _ ofProject whole ih => exact (Launch.does ofProject whole ih).shelved ih

theorem spares (runs : Runs paths home start launches tree) (shelved : Shelved (.ofPaths paths) home start) :
    ∀ launch ∈ launches, launch.invocation.command.Spares home launch.before launch.after := by
  induction runs with
  | begun => exact fun _ among => absurd among List.not_mem_nil
  | edited _ _ _ ih => exact ih
  | ran runs ofProject whole ih =>
    have shelved' := runs.shelved shelved
    intro launch among
    rcases List.mem_cons.1 among with rfl | among
    · exact (Launch.does ofProject whole shelved').spares shelved'
    · exact ih launch among

theorem recounts_of_not_scans (runs : Runs paths home start launches tree)
    (shelved : Shelved (.ofPaths paths) home start) :
    ∀ launch ∈ launches, launch.invocation.command.scans = false → launch.recounts paths = false := by
  induction runs with
  | begun => exact fun _ among => absurd among List.not_mem_nil
  | edited _ _ _ ih => exact ih
  | ran runs ofProject whole ih =>
    have shelved' := runs.shelved shelved
    intro launch among other
    rcases List.mem_cons.1 among with rfl | among
    · exact recounts_of_same ((Launch.does ofProject whole shelved').same_summary shelved' other)
    · exact ih launch among other

theorem logged (runs : Runs paths home start launches tree) (shelved : Shelved (.ofPaths paths) home start)
    (bare : start.node? (Doc.changelog.place home) = none) :
    Logged (.ofPaths paths) (launches.countP Launch.handsOver) tree := by
  induction runs with
  | begun => exact ⟨none, loadChangelog_of_missing shelved.housed bare, rfl, rfl, rfl⟩
  | edited runs shelved' same ih =>
    obtain ⟨log, loads, counts⟩ := ih
    have stays := same _ (.inr (.inl ⟨.changelog, trivial, rfl⟩))
    exact ⟨log, (loadChangelog_of_same (runs.shelved shelved).housed shelved'.housed stays).trans loads, counts⟩
  | ran runs ofProject whole ih =>
    have shelved' := runs.shelved shelved
    rw [List.countP_cons]
    exact (Launch.does ofProject whole shelved').logged shelved' ih

theorem summed (runs : Runs paths home start launches tree) (shelved : Shelved (.ofPaths paths) home start)
    (bare : start.node? (Doc.summary.place home) = none) :
    Summed (.ofPaths paths) (launches.countP (Launch.recounts paths)) tree := by
  induction runs with
  | begun => exact .inl ⟨loadSummary_of_missing shelved.housed bare, rfl⟩
  | edited runs shelved' same ih =>
    have stays := same _ (.inl (.inl ⟨.summary, id, rfl⟩))
    rw [Summed, loadSummary_of_same (runs.shelved shelved).housed shelved'.housed stays]
    exact ih
  | ran runs ofProject whole ih =>
    have shelved' := runs.shelved shelved
    rw [List.countP_cons]
    exact (Launch.does ofProject whole shelved').summed shelved' ih

/-- In any order of runs each command spares the documents of the others, the version of the changelog counts the
handoffs that succeeded, and the version of the summary how often other numbers were stored. Every point of the
runs is the end of the runs up to there. -/
theorem independent (runs : Runs paths home start launches tree) (shelved : Shelved (.ofPaths paths) home start)
    (bare : ∀ doc : Doc, start.node? (doc.place home) = none) :
    (∀ launch ∈ launches, launch.invocation.command.Spares home launch.before launch.after) ∧
      Logged (.ofPaths paths) (launches.countP Launch.handsOver) tree ∧
      Summed (.ofPaths paths) (launches.countP (Launch.recounts paths)) tree :=
  ⟨runs.spares shelved, runs.logged shelved (bare .changelog), runs.summed shelved (bare .summary)⟩

end Runs

/-! A scan, a handoff and an incoming session of a project with one function -/

def rootLaunch (command : Command) (moment : Moment) (tree : Tree) (time : Nat) : Launch :=
  ⟨⟨some ⟨"/"⟩, none, false, command⟩, none, moment, .ofTree tree time⟩

theorem before_rootLaunch (command : Command) (moment : Moment) (tree : Tree) (time : Nat) :
    (rootLaunch command moment tree time).before = tree := rfl

def rootResolution : Resolution := ⟨Command.rootContext, .default, .unrecognized, none⟩

def scanLaunch : Launch := rootLaunch (.scan false none) midnight Command.unmarkedTree 0

def handoffLaunch : Launch := rootLaunch (.outgoing unfinished) midnight scanLaunch.after 1

def incomingLaunch : Launch := rootLaunch .incoming oneOClock handoffLaunch.after 2

theorem resolution_scanLaunch : scanLaunch.resolution = .ok rootResolution := by
  decide +kernel

/-- The steps of the runs that can be evaluated: what is written, and what is resolved on what was written. -/
theorem launches_evaluated : ∃ summary ∈ (Summary.measure Command.unmarkedScan.records none .standard
      Command.unmarkedScan.report .epoch).toOption, summary.version = .first ∧
    ∃ saved ∈ some (Command.saving Command.rootContext (Command.sparing 0) false none Command.unmarkedScan summary
      .epoch Command.unmarkedDisk), saved.1.isOk = true ∧
    (rootLaunch (.outgoing unfinished) midnight saved.2.tree 1).resolution = .ok rootResolution ∧
    ∃ closed ∈ some (Command.closing saved.2.tree), closed.1.isOk = true ∧
    (rootLaunch .incoming oneOClock closed.2.2.tree 2).resolution = .ok rootResolution := by
  decide +kernel

theorem launches_succeed :
    (scanLaunch.resolution = .ok rootResolution ∧ scanLaunch.outcome.isOk = true) ∧
    (handoffLaunch.resolution = .ok rootResolution ∧ handoffLaunch.outcome.isOk = true) ∧
    incomingLaunch.resolution = .ok rootResolution ∧ incomingLaunch.outcome.isOk = true := by
  obtain ⟨summary, measured, version, saved, same, saves, resolvedHandoff, closed, same', closes, resolvedIncoming⟩ :=
    launches_evaluated
  rw [Option.mem_some] at same same'
  subst same same'
  have summed := Fallible.ok_of_toOption measured
  obtain ⟨printed, between, report, last, ended, scans, handsOver, saved, closed⟩ :=
    Command.runs_unmarked 0 version summed saves closes
  rw [saved] at resolvedHandoff resolvedIncoming
  rw [closed] at resolvedIncoming
  -- Each run starts from what the one before has left, so its tree is put in before it is looked at.
  have scanned : scanLaunch.invocation.run scanLaunch.program scanLaunch.moment scanLaunch.disk =
      (.ok printed, between) :=
    (Launch.run_of_resolution resolution_scanLaunch).trans scans
  have afterScan : scanLaunch.after = between.tree := by rw [Launch.after, scanned]
  have resolvedHandoff : handoffLaunch.resolution = .ok rootResolution := by
    rw [handoffLaunch, afterScan]
    exact resolvedHandoff
  have handed : handoffLaunch.invocation.run handoffLaunch.program handoffLaunch.moment handoffLaunch.disk =
      (.ok (Report.outgoing report unfinished.outcome), ended) := by
    rw [Launch.run_of_resolution resolvedHandoff, handoffLaunch, afterScan]
    change Command.runOutgoing rooted unfinished midnight (.ofTree between.tree 1) = _
    rw [Command.runOutgoing, handsOver]
    rfl
  have afterHandoff : handoffLaunch.after = ended.tree := by rw [Launch.after, handed]
  have resolvedIncoming : incomingLaunch.resolution = .ok rootResolution := by
    rw [incomingLaunch, afterHandoff]
    exact resolvedIncoming
  have incoming : incomingLaunch.outcome.isOk = true := by
    obtain ⟨_, _, briefing, inherited, -, -, incoming, -⟩ := Command.incoming_assessed (Command.shelved_unmarked 0)
      (Command.countable_unmarked 0) scans (show (Disk.ofTree between.tree 1).tree = between.tree from rfl)
      (show rooted.store.paths = Command.rootContext.paths from rfl) handsOver rfl oneOClock
    rw [Launch.outcome, Launch.run_of_resolution resolvedIncoming, incomingLaunch, afterHandoff]
    change (Command.runIncoming rooted oneOClock (.ofTree ended.tree 2)).1.isOk = true
    rw [Command.runIncoming]
    change (((rooted.incoming .idle ended.tree oneOClock).1.map Report.incoming).mapError
      CommandError.handoff).isOk = true
    rw [incoming]
    rfl
  refine ⟨⟨resolution_scanLaunch, ?_⟩, ⟨resolvedHandoff, ?_⟩, resolvedIncoming, incoming⟩
  · rw [Launch.outcome, scanned]
    rfl
  · rw [Launch.outcome, handed]
    rfl

def launches : List Launch := [incomingLaunch, handoffLaunch, scanLaunch]

theorem runs_launches : Runs rooted.store.paths [] Command.unmarkedTree launches incomingLaunch.after := by
  obtain ⟨⟨resolvedScan, scanned⟩, ⟨resolvedHandoff, handed⟩, resolvedIncoming, incoming⟩ := launches_succeed
  have beforeScan : scanLaunch.before = Command.unmarkedTree := before_rootLaunch _ _ _ _
  have beforeHandoff : handoffLaunch.before = scanLaunch.after := before_rootLaunch _ _ _ _
  have beforeIncoming : incomingLaunch.before = handoffLaunch.after := before_rootLaunch _ _ _ _
  have start : Runs rooted.store.paths [] Command.unmarkedTree [] scanLaunch.before := by
    rw [beforeScan]
    exact .begun
  have first := start.ran (Launch.ofProject_of_resolution resolvedScan fun _ => Command.countable_unmarked 0)
    (Launch.whole_of_isOk scanned)
  rw [← beforeHandoff] at first
  have second := first.ran (Launch.ofProject_of_resolution resolvedHandoff fun scans => nomatch scans)
    (Launch.whole_of_isOk handed)
  rw [← beforeIncoming] at second
  exact second.ran (Launch.ofProject_of_resolution resolvedIncoming fun scans => nomatch scans)
    (Launch.whole_of_isOk incoming)

theorem Launch.handsOver_of_isOk {launch : Launch} (succeeds : launch.outcome.isOk = true) :
    launch.handsOver = launch.invocation.command.handsOver (.ok "") := by
  obtain ⟨printed, told⟩ := Fallible.exists_of_isOk succeeds
  rw [Launch.handsOver, told]
  cases launch.invocation.command <;> rfl

theorem Tree.bare_unmarked (doc : Doc) : Command.unmarkedTree.node? (doc.place (.ofRoot [])) = none := by
  cases doc <;> rfl

/-- After a scan, a handoff and an incoming session the version of the changelog is `1.1.0`, and that of the summary
is the first one. -/
theorem independent_launches :
    Runs rooted.store.paths [] Command.unmarkedTree launches incomingLaunch.after ∧
    Shelved (.ofPaths rooted.store.paths) [] Command.unmarkedTree ∧
    (∀ doc : Doc, Command.unmarkedTree.node? (doc.place (.ofRoot [])) = none) ∧
    (∀ launch ∈ launches, launch.invocation.command.Spares [] launch.before launch.after) ∧
    Logged (.ofPaths rooted.store.paths) 1 incomingLaunch.after ∧
    Summed (.ofPaths rooted.store.paths) 0 incomingLaunch.after := by
  have shelved : Shelved (.ofPaths rooted.store.paths) [] Command.unmarkedTree :=
    (Command.shelved_unmarked 0).of_paths rfl
  obtain ⟨spared, logged, summed⟩ := runs_launches.independent shelved Tree.bare_unmarked
  obtain ⟨⟨-, scanned⟩, ⟨-, handed⟩, -, incoming⟩ := launches_succeed
  have once : launches.countP Launch.handsOver = 1 := by
    simp only [launches, List.countP_cons, List.countP_nil, Launch.handsOver_of_isOk scanned,
      Launch.handsOver_of_isOk handed, Launch.handsOver_of_isOk incoming]
    rfl
  -- There is no summary before the first scan, and the other runs are no scans.
  have first : scanLaunch.recounts rooted.store.paths = false := by
    have unsummarized : (Store.ofPaths rooted.store.paths).loadSummary scanLaunch.before = .ok none :=
      loadSummary_of_missing shelved.housed (Tree.bare_unmarked .summary)
    rw [Launch.recounts, Store.recounts, unsummarized]
  have others := runs_launches.recounts_of_not_scans shelved
  have never : launches.countP (Launch.recounts rooted.store.paths) = 0 := by
    rw [launches, List.countP_cons, List.countP_cons, List.countP_singleton, first,
      others handoffLaunch (by simp [launches]) rfl, others incomingLaunch (by simp [launches]) rfl]
    rfl
  rw [once] at logged
  rw [never] at summed
  exact ⟨runs_launches, shelved, Tree.bare_unmarked, spared, logged, summed⟩

/-! A link in the place of a temporary file -/

/-- A link from the temporary file of the summary to the changelog, which is missing. -/
def strayTree : Tree where
  items := [(["codebase_summary.json.tmp"], ⟨.link ⟨"/changelog_summary.json"⟩, 0⟩)]
  workingDir := []

def strayLaunch : Launch := rootLaunch (.scan false none) midnight strayTree 0

theorem resolution_strayLaunch : strayLaunch.resolution = .ok rootResolution := by
  decide +kernel

theorem outcome_strayLaunch : strayLaunch.outcome.isOk = true ∧
    (strayLaunch.after.node? ["changelog_summary.json"]).isSome = true ∧
    (Scan.look .clear (Command.scanScope Command.rootContext .default strayTree) strayTree
      Command.rootContext.paths.scanRoot).toOption.map (·.records) = some [] := by
  decide +kernel

theorem runs_strayLaunch : Runs Command.rootContext.paths [] strayTree [strayLaunch] strayLaunch.after := by
  obtain ⟨succeeds, -, unread⟩ := outcome_strayLaunch
  have countable : Command.Countable Command.rootContext .default strayTree := by
    intro found scanned record among
    rw [scanned] at unread
    have nothing : found.records = [] := Option.some.inj unread
    rw [nothing] at among
    cases among
  have ofProject : strayLaunch.OfProject Command.rootContext.paths :=
    Launch.ofProject_of_resolution resolution_strayLaunch fun _ => countable
  have start : Runs Command.rootContext.paths [] strayTree [] strayLaunch.before := .begun
  exact start.ran ofProject (Launch.whole_of_isOk succeeds)

/-- The first scan of a tree without documents writes where the changelog stands. -/
theorem scan_spoils_changelog : Runs Command.rootContext.paths [] strayTree [strayLaunch] strayLaunch.after ∧
    (∀ doc : Doc, strayTree.node? (doc.place (.ofRoot [])) = none) ∧
    ¬strayLaunch.invocation.command.Spares [] strayLaunch.before strayLaunch.after := by
  have bare : ∀ doc : Doc, strayTree.node? (doc.place (.ofRoot [])) = none := by
    intro doc
    cases doc <;> rfl
  refine ⟨runs_strayLaunch, bare, fun spares => ?_⟩
  have kept : strayLaunch.after.node? ["changelog_summary.json"] = none :=
    (spares (Doc.changelog.place (.ofRoot [])) (.inl ⟨.changelog, trivial, rfl⟩)).trans (bare .changelog)
  have written := outcome_strayLaunch.2.1
  rw [kept] at written
  cases written

end Waymark
