import Mathlib.Data.List.Nodup
import Waymark.Proofs.Handoff.Register
import Waymark.Proofs.Handoff.Run
import Waymark.Proofs.Text.Pieces

/-! The priorities that a handoff stores for the next session: the phrases of the summary, and behind them each open
task that is not among them once. Tasks do not repeat anything, phrases may repeat each other.
-/

set_option autoImplicit false

namespace Waymark

/-! Phrases by their places -/

namespace Priority

open Text

variable {summary : String} {list rest : List (List Char)} {word : List Char}

/-- The places of the keywords that have a word behind them. -/
def starts (list : List (List Char)) : List Nat :=
  (List.range list.length).filter fun place => list[place]?.any isKeyword && decide (place + 1 < list.length)

/-- A keyword and the words behind it that belong to its phrase. -/
def passage (list : List (List Char)) (place : Nat) : List (List Char) := (list.drop place).take phraseLength

def passages (summary : String) : List (List (List Char)) :=
  let list := words (lowercase summary.toList)
  ((starts list).take maxItems).map (passage list)

theorem starts_cons : starts (word :: rest) =
    (if isKeyword word && !rest.isEmpty then [0] else []) ++ (starts rest).map Nat.succ := by
  have later : ((fun place => (word :: rest)[place]?.any isKeyword && decide (place + 1 < (word :: rest).length)) ∘
      Nat.succ) = fun place => rest[place]?.any isKeyword && decide (place + 1 < rest.length) := by
    funext place
    simp
  rw [starts, List.length_cons, List.range_succ_eq_map, List.filter_cons, List.filter_map, ← List.length_cons, later,
    starts]
  cases keyword : isKeyword word with
  | false => simp [keyword]
  | true => cases rest <;> simp [keyword]

theorem phrases_eq (list : List (List Char)) : phrases list = (starts list).map fun place =>
    join [' '] (passage list place) := by
  induction list with
  | nil => rfl
  | cons word rest ih =>
    rw [phrases, starts_cons, List.map_append, List.map_map, ih]
    split <;> rfl

theorem items_eq (summary : String) :
    items summary = (passages summary).map fun passage => String.ofList (join [' '] passage) := by
  rw [items, passages, phrases_eq, ← List.map_take, List.map_map, List.map_map]
  rfl

theorem not_blank_of_mem_words {text : List Char} (among : word ∈ words text) : ∀ c ∈ word, isBlank c = false := by
  -- Along the text: no letter of the word that is open is a blank.
  have invariant : ∀ (text letters : List Char), (∀ c ∈ letters, isBlank c = false) →
      ∀ word ∈ wordsFrom letters text, ∀ c ∈ word, isBlank c = false := by
    intro text
    induction text with
    | nil =>
      intro letters plain word among
      unfold wordsFrom at among
      split at among
      · cases among
      · obtain rfl := List.mem_singleton.1 among
        simpa using plain
    | cons c rest ih =>
      intro letters plain word among
      unfold wordsFrom at among
      split at among
      · split at among
        · exact ih [] (by simp) word among
        · rcases List.mem_cons.1 among with rfl | among
          · simpa using plain
          · exact ih [] (by simp) word among
      · rename_i letter
        refine ih (c :: letters) ?_ word among
        simpa [letter] using plain
  exact invariant text [] (by simp) word among

theorem lt_length_of_mem_starts {place : Nat} (among : place ∈ starts list) : place + 1 < list.length := by
  have chosen := (List.mem_filter.1 among).2
  rw [Bool.and_eq_true, decide_eq_true_iff] at chosen
  exact chosen.2

theorem passage_spec {passage : List (List Char)} (among : passage ∈ passages summary) :
    passage ≠ [] ∧ ∀ word ∈ passage, ' ' ∉ word := by
  obtain ⟨place, start, rfl⟩ := List.mem_map.1 among
  have inside := lt_length_of_mem_starts (List.mem_of_mem_take start)
  constructor
  · intro empty
    rw [Priority.passage, List.take_eq_nil_iff, List.drop_eq_nil_iff] at empty
    rcases empty with none | beyond
    · exact absurd none (by decide)
    · omega
  · intro word member space
    have read := List.mem_of_mem_drop (List.mem_of_mem_take member)
    have blank := not_blank_of_mem_words read ' ' space
    exact absurd blank (by decide)

theorem nodup_items_iff (summary : String) : (items summary).Nodup ↔ (passages summary).Nodup := by
  rw [items_eq]
  refine ⟨List.Nodup.of_map _, List.Nodup.map_on fun first among second among' same => ?_⟩
  obtain ⟨some, plain⟩ := passage_spec among
  obtain ⟨some', plain'⟩ := passage_spec among'
  have joined : join [' '] first = join [' '] second := String.ofList_injective same
  rw [← split_join some plain, joined, split_join some' plain']

end Priority

/-! Tasks that are recorded -/

namespace Synchronizer

open Store

variable {sync : Synchronizer} {phase last : Phase} {inherited : Inherited} {session : Session}
  {request : HandoffRequest} {moment : Moment} {disk after : Disk} {tree : Tree} {home : Home}
  {report : HandoffReport} {operation : Register.Operation} {texts items tasks : List String} {batch : Batch}

def openTasks (phase : Phase) : List String := phase.session?.elim [] (·.completedTasks)

/-- The texts that were recorded for the open session, after a call. -/
def heard (operation : Register.Operation) (succeeded : Bool) (texts : List String) : List String :=
  match operation, succeeded with
  | .recordTask text, true => texts ++ [text]
  | .outgoing _, true => []
  | _, _ => texts

/-- Calls one after another, each at its moment and on a disk of its own, with the texts that were recorded since
the last handoff. -/
inductive Records (sync : Synchronizer) : List String → Phase → Prop where
  | new : Records sync [] .idle
  | call {texts : List String} {phase : Phase} (earlier : Records sync texts phase)
    (operation : Register.Operation) (moment : Moment) (disk : Disk) :
    Records sync (heard operation (sync.perform operation moment phase disk).1.isOk texts)
      (sync.perform operation moment phase disk).2.1

theorem openTasks_incoming (phase : Phase) :
    openTasks (sync.incoming phase tree moment).2 = openTasks phase := by
  cases phase with
  | idle =>
    rw [incoming]
    split <;> rfl
  | loaded | active => rfl

theorem openTasks_begin (phase : Phase) : openTasks (sync.begin phase moment).2 = openTasks phase := by
  cases phase with
  | idle | loaded | active => rfl

theorem openTasks_recordTask (phase : Phase) (text : String) : openTasks (recordTask phase text).2 =
    openTasks phase ++ if (recordTask phase text).1.isOk then (task? text).toList else [] := by
  cases phase with
  | idle | loaded => rfl
  | active => rfl

theorem openTasks_of_opened (opened : sync.opened phase tree moment = .ok (inherited, session)) :
    session.completedTasks = openTasks phase := by
  cases phase with
  | idle =>
    obtain ⟨_, -, opened⟩ := Fallible.bind_ok opened
    cases opened
    rfl
  | loaded | active =>
    cases opened
    rfl

theorem openTasks_outgoing (phase : Phase) (request : HandoffRequest) :
    openTasks (sync.outgoing phase request moment disk).2.1 =
      if (sync.outgoing phase request moment disk).1.isOk then [] else openTasks phase := by
  cases outcome : sync.outgoing phase request moment disk with
  | mk result rest =>
    obtain ⟨next, ended⟩ := rest
    cases result with
    | ok report =>
      rw [idle_of_outgoing outcome]
      rfl
    | error error =>
      cases outgoing_error outcome with
      | blank | unread => rfl
      | full opened => exact openTasks_of_opened opened
      | uncommitted opened => exact openTasks_of_opened opened

theorem isOk_map {ε α β : Type} (result : Except ε α) (answer : α → β) : (result.map answer).isOk = result.isOk := by
  cases result <;> rfl

theorem Records.openTasks (records : Records sync texts phase) : openTasks phase = texts.filterMap task? := by
  induction records with
  | new => rfl
  | @call texts phase earlier operation moment disk ih =>
    cases operation with
    | incoming => exact (openTasks_incoming phase).trans ih
    | begin => exact (openTasks_begin phase).trans ih
    -- A task is added by the call that records it, and dropped by the handoff that succeeds.
    | recordTask text =>
      have isOk := isOk_map (recordTask phase text).1 fun _ => Register.Answer.recorded
      refine (openTasks_recordTask phase text).trans ?_
      simp only [perform, isOk, ih]
      cases (recordTask phase text).1.isOk with
      | false => exact List.append_nil _
      | true =>
        rw [heard, List.filterMap_append, if_pos rfl, List.filterMap_cons]
        cases task? text <;> rfl
    | outgoing request =>
      have isOk := isOk_map (sync.outgoing phase request moment disk).1 Register.Answer.report
      refine (openTasks_outgoing phase request).trans ?_
      simp only [perform, isOk, ih]
      cases (sync.outgoing phase request moment disk).1.isOk with
      | false => rfl
      | true => rfl

/-! What is stored -/

theorem withTasks_cons (items : List String) (task : String) (rest : List String) : withTasks items (task :: rest) =
    withTasks (if items.contains task then items else items ++ [task]) rest := rfl

theorem withTasks_eq (items tasks : List String) :
    withTasks items tasks = items ++ (tasks.filter fun task => !items.contains task).eraseDups := by
  induction tasks generalizing items with
  | nil => exact (List.append_nil items).symm
  | cons task rest ih =>
    by_cases known : task ∈ items
    · rw [withTasks_cons, if_pos (List.contains_iff_mem.2 known), ih, List.filter_cons_of_neg (by simpa using known)]
    · rw [withTasks_cons, if_neg (by simpa using known), ih, List.filter_cons_of_pos (by simpa using known),
        List.eraseDups_cons, List.filter_filter, List.append_assoc, List.singleton_append]
      -- Left is which later tasks stay: those that are neither among the items nor this one.
      congr 4
      funext other
      rw [List.contains_append, Bool.not_or, Bool.and_comm, List.contains_cons, List.contains_nil, Bool.or_false]

theorem nodup_withTasks (tasks : List String) (distinct : items.Nodup) : (withTasks items tasks).Nodup := by
  induction tasks generalizing items with
  | nil => exact distinct
  | cons task rest ih =>
    rw [withTasks_cons]
    by_cases known : task ∈ items
    · rw [if_pos (List.contains_iff_mem.2 known)]
      exact ih distinct
    · rw [if_neg (by simpa using known)]
      refine ih (List.nodup_append.2 ⟨distinct, List.nodup_singleton task, fun item among other last same => ?_⟩)
      obtain rfl := List.mem_singleton.1 last
      exact known (same ▸ among)

theorem nodup_withTasks_iff (items tasks : List String) : (withTasks items tasks).Nodup ↔ items.Nodup := by
  refine ⟨fun distinct => ?_, nodup_withTasks tasks⟩
  rw [withTasks_eq] at distinct
  exact (List.nodup_append.1 distinct).1

/-- The items that are stored for the next session after a request, with the texts that were recorded and those of
the request. -/
structure Prioritized (request : HandoffRequest) (texts items : List String) : Prop where
  phrases : Priority.items (trimmed request) <+: items
  distinct : items.Nodup ↔ (Priority.passages (trimmed request)).Nodup
  completed : request.outcome = .completed → items = Priority.items (trimmed request)
  unresolved : request.outcome = .unresolved → items = Priority.items (trimmed request) ++
    ((texts.filterMap task?).filter fun task => !(Priority.items (trimmed request)).contains task).eraseDups
  tasks : request.outcome = .unresolved → ∀ text ∈ texts, ∀ task, task? text = some task → task ∈ items

theorem prioritized (request : HandoffRequest) (texts : List String) :
    Prioritized request texts (priorityItems (trimmed request) request.outcome (texts.filterMap task?)) := by
  -- Only an unresolved outcome takes the tasks over.
  cases outcome : request.outcome with
  | completed =>
    rw [priorityItems.eq_def]
    constructor
    · exact List.prefix_rfl
    · exact Priority.nodup_items_iff _
    · exact fun _ => rfl
    · rw [outcome]
      rintro ⟨⟩
    · rw [outcome]
      rintro ⟨⟩
  | unresolved =>
    rw [priorityItems.eq_def]
    constructor
    · rw [withTasks_eq]
      exact List.prefix_append _ _
    · exact (nodup_withTasks_iff _ _).trans (Priority.nodup_items_iff _)
    · rw [outcome]
      rintro ⟨⟩
    · exact fun _ => withTasks_eq _ _
    · intro _ text among task noted
      rw [withTasks_eq, List.mem_append, List.mem_eraseDups, List.mem_filter, List.mem_filterMap]
      by_cases known : task ∈ Priority.items (trimmed request)
      · exact .inl known
      · exact .inr ⟨⟨text, among, noted⟩, by simpa using known⟩

theorem session_of_outgoing (housed : Housed sync.store home disk.tree)
    (succeeded : sync.outgoing phase request moment disk = (.ok report, last, after)) (adopted : SessionId) :
    ∃ inherited session stored, sync.opened phase disk.tree moment = .ok (inherited, session) ∧
      sync.store.loadSession after.tree adopted = .ok (some stored) ∧
      stored = close inherited session request (trimmed request) moment.now ∧
      report.priorityItems = stored.priorityItems := by
  obtain ⟨inherited, session, batch, log, opened, closed, -, saved, rfl⟩ := outgoing_saved housed succeeded
  have loaded := loadSession_of_saved saved adopted
  obtain ⟨sequence, version, -, -, rfl⟩ := closing_ok closed
  exact ⟨inherited, session, _, opened, loaded, rfl, rfl⟩

/-- After any calls, a handoff that succeeds stores the phrases of its summary and behind them, where the outcome is
unresolved, each task once that was recorded or requested. The items are distinct exactly if no two of the passages
say the same. -/
theorem outgoing_prioritizes (records : Records sync texts phase) (housed : Housed sync.store home disk.tree)
    (succeeded : sync.outgoing phase request moment disk = (.ok report, last, after)) (adopted : SessionId) :
    ∃ stored, sync.store.loadSession after.tree adopted = .ok (some stored) ∧
      report.priorityItems = stored.priorityItems ∧
      Prioritized request (texts ++ request.tasks) stored.priorityItems := by
  obtain ⟨inherited, session, stored, opened, loaded, rfl, reported⟩ := session_of_outgoing housed succeeded adopted
  have tasks : session.completedTasks = texts.filterMap task? := (openTasks_of_opened opened).trans records.openTasks
  refine ⟨_, loaded, reported, ?_⟩
  rw [close, tasks, ← List.filterMap_append]
  exact prioritized request (texts ++ request.tasks)

/-! Two handoffs on a bare disk -/

def bareDisk : Disk := .ofTree Tree.empty 0

def recording : Phase :=
  let loaded := (rooted.perform .incoming midnight .idle bareDisk).2.1
  let opened := (rooted.perform .begin midnight loaded bareDisk).2.1
  (rooted.perform (.recordTask " log ") midnight opened bareDisk).2.1

theorem records_recording : Records rooted [" log "] recording := by
  have opened := ((Records.new : Records rooted [] .idle).call .incoming midnight bareDisk).call .begin midnight bareDisk
  exact opened.call (.recordTask " log ") midnight bareDisk

/-- One task is requested a second time, another one is a phrase of the summary. -/
def repeating : HandoffRequest := ⟨"Fix it", .unresolved, ["log", "fix it", "test"]⟩

theorem outgoing_prioritizes_repeating : ∃ last after stored,
    rooted.outgoing recording repeating oneOClock bareDisk =
      (.ok ⟨⟨1⟩, ⟨1, 1, 0⟩, ["fix it", "log", "test"], 0⟩, last, after) ∧
    rooted.store.loadSession after.tree ⟨2⟩ = .ok (some stored) ∧
    stored.priorityItems = ["fix it", "log", "test"] ∧
    Prioritized repeating [" log ", "log", "fix it", "test"] stored.priorityItems := by
  have outcome : (rooted.outgoing recording repeating oneOClock bareDisk).1 =
      .ok ⟨⟨1⟩, ⟨1, 1, 0⟩, ["fix it", "log", "test"], 0⟩ := by decide +kernel
  have succeeded := eq_of_outcome outcome
  obtain ⟨stored, loaded, reported, prioritized⟩ :=
    outgoing_prioritizes records_recording housed_empty succeeded ⟨2⟩
  exact ⟨_, _, stored, succeeded, loaded, reported.symm, prioritized⟩

def echoing : HandoffRequest := ⟨"fix a b c d fix a b c d", .completed, []⟩

theorem items_echo : ∃ report last after stored,
    rooted.outgoing .idle echoing oneOClock bareDisk = (.ok report, last, after) ∧
    rooted.store.loadSession after.tree ⟨2⟩ = .ok (some stored) ∧ ¬stored.priorityItems.Nodup := by
  have outcome : (rooted.outgoing .idle echoing oneOClock bareDisk).1 =
      .ok ⟨⟨3⟩, ⟨1, 1, 0⟩, ["fix a b c d", "fix a b c d"], 0⟩ := by decide +kernel
  have succeeded := eq_of_outcome outcome
  obtain ⟨inherited, session, stored, -, loaded, -, reported⟩ := session_of_outgoing housed_empty succeeded ⟨2⟩
  refine ⟨_, _, _, stored, succeeded, loaded, ?_⟩
  rw [← reported]
  decide

end Synchronizer

end Waymark
