import Waymark.Proofs.Disk.Dates
import Waymark.Proofs.Disk.Keeps
import Waymark.Proofs.Store.History
import Waymark.Proofs.Store.Retention

/-! The history as a list. A copy that is written comes to what the history holds, removals take theirs from it,
and so archiving a summary leaves the copy and the newest of the earlier ones.
-/

set_option autoImplicit false

namespace Waymark.Store

open OnDisk

variable {store : Store} {home : Location} {places : Location → Prop} {a b tree : Tree} {disk after : Disk}
  {name : String} {content raw : ByteArray} {version : Version} {now : Time}

def earlier (home : Location) (tree : Tree) : List (String × Item) := tree.held (historyPlace home)

theorem mem_earlier {entry : String × Item} :
    entry ∈ earlier home tree ↔ tree.item? (historyPlace home ++ [entry.1]) = some entry.2 := Tree.mem_held

theorem nodup_earlier (distinct : tree.Distinct) : ((earlier home tree).map Prod.fst).Nodup :=
  Tree.nodup_held distinct _

theorem above_entry (home : Location) (name : String) : ¬historyPlace home ++ [name] <+: historyPlace home := by
  intro above
  have short := above.length_le
  rw [List.length_append, List.length_singleton] at short
  omega

theorem mem_earlier_of_spares (touches : Tree.Touches (historyPlace home) places a b)
    (spares : Tree.Spares places a b) {entry : String × Item} (outside : ¬places (historyPlace home ++ [entry.1])) :
    entry ∈ earlier home b ↔ entry ∈ earlier home a := by
  rw [mem_earlier, mem_earlier, touches.item? spares outside (above_entry home _)]

theorem earlier_perm (distinct : a.Distinct) (distinct' : b.Distinct)
    (same : ∀ name, b.item? (historyPlace home ++ [name]) = a.item? (historyPlace home ++ [name])) :
    (earlier home a).Perm (earlier home b) := by
  refine (List.perm_ext_iff_of_nodup (List.Nodup.of_map _ (nodup_earlier distinct))
    (List.Nodup.of_map _ (nodup_earlier distinct'))).2 fun entry => ?_
  rw [mem_earlier, mem_earlier, same]

/-! Copies -/

def temporaryName (name : String) : String := name ++ ".tmp"

theorem writeHistory_earlier (h : Shelf store home disk.tree) (isFile : IsFileName name)
    (history : isHistoryName name = true)
    (written : store.writeRaw (store.paths.historyDir.join name) content disk = (.ok (), after)) :
    ∃ time, disk.time ≤ time ∧ ∀ entry, entry ∈ earlier home after.tree ↔
      entry = (name, ⟨.file content, time⟩) ∨
        entry ∈ earlier home disk.tree ∧ entry.1 ≠ name ∧ entry.1 ≠ temporaryName name := by
  have seat := h.seat isFile
  have unlinked := h.unlinked name history
  have meets := Disk.replace_meets store.attempts content seat h.formed unlinked
  have dated := Disk.replace_dates store.attempts content seat unlinked
  rw [adapt_ok written] at meets dated
  obtain ⟨touches, -, gone⟩ := meets
  obtain ⟨dates, time, since, -, there⟩ := dated
  refine ⟨time, since, fun entry => ?_⟩
  -- The copy and its temporary file are told apart; every other file is beside neither of them.
  by_cases copy : entry.1 = name
  · obtain ⟨own, item⟩ := entry
    obtain rfl : own = name := copy
    rw [mem_earlier, there]
    simp [eq_comm]
  by_cases temporary : entry.1 = temporaryName name
  · have missing : after.tree.item? (historyPlace home ++ [entry.1]) = none := by
      rw [temporary, temporaryName]
      rwa [Tree.node?_eq_item? _ (by simp), Option.map_eq_none_iff] at gone
    rw [mem_earlier, missing]
    constructor
    · intro found
      cases found
    · rintro (rfl | ⟨-, -, other⟩)
      · exact absurd rfl copy
      · exact absurd temporary other
  · have outside : ¬Disk.Beside (historyPlace home) name (historyPlace home ++ [entry.1]) := by
      rintro (same | same)
      · exact copy (by simpa using same)
      · exact temporary (by simpa [temporaryName] using same)
    rw [mem_earlier_of_spares touches dates.spares outside]
    constructor
    · exact fun listed => .inr ⟨listed, copy, temporary⟩
    · rintro (rfl | ⟨listed, -⟩)
      · exact absurd rfl copy
      · exact listed

/-! Removals -/

theorem remove_earlier (h : Shelf store home disk.tree) (isFile : IsFileName name)
    (history : isHistoryName name = true)
    (removed : Disk.remove (store.paths.historyDir.join name) disk = (.ok (), after)) (entry : String × Item) :
    entry ∈ earlier home after.tree ↔ entry ∈ earlier home disk.tree ∧ entry.1 ≠ name := by
  have seat := h.seat isFile
  have place : ∀ l, disk.tree.resolve (store.paths.historyDir.join name) false = .ok l →
      l = historyPlace home ++ [name] := fun l => Disk.beside_of_resolve seat
  have meets := Disk.remove_meets seat h.formed (h.unlinked name history)
  have dated := Disk.remove_dates place
  rw [removed] at meets dated
  obtain ⟨dates, l, led, gone⟩ := dated
  obtain rfl := place l led
  by_cases own : entry.1 = name
  · rw [mem_earlier, own, gone]
    simp
  · have outside : historyPlace home ++ [entry.1] ≠ historyPlace home ++ [name] := by simpa using own
    rw [mem_earlier_of_spares meets dates.spares outside]
    exact ⟨fun listed => ⟨listed, own⟩, And.left⟩

theorem removeAll_earlier (names : List String)
    (files : ∀ name ∈ names, IsFileName name ∧ isHistoryName name = true)
    (h : Shelf store home disk.tree) (removed : removeAll store.paths.historyDir names disk = (.ok (), after))
    (entry : String × Item) :
    entry ∈ earlier home after.tree ↔ entry ∈ earlier home disk.tree ∧ entry.1 ∉ names := by
  induction names generalizing disk with
  | nil =>
    cases removed
    simp
  | cons name rest ih =>
    obtain ⟨isFile, history⟩ := files name List.mem_cons_self
    have output := isOutputName_of_isHistoryName isFile history
    obtain ⟨_, between, first, removed⟩ := bind_ok removed
    have meets := Disk.remove_meets (h.seat isFile) h.formed (h.unlinked name history)
    rw [first] at meets
    have touches : Tree.Touches (historyPlace home) (HistoryOutput home) disk.tree between.tree :=
      Tree.Touches.mono meets (List.prefix_refl _) fun k here => ⟨name, isFile, output, here⟩
    have shelf := h.touches touches fun _ => HistoryOutput.summaryOutput
    rw [ih (fun name member => files name (List.mem_cons_of_mem _ member)) shelf removed,
      remove_earlier h isFile history first, List.mem_cons, not_or, and_assoc]

theorem pruneHistory_retains (h : Shelf store home disk.tree) (distinct : disk.tree.Distinct)
    (dated : Dated (earlier home disk.tree)) (pruned : store.pruneHistory disk = (.ok (), after)) :
    Retained store.historyRetention (earlier home disk.tree) (earlier home after.tree) := by
  have still := (keeps_pruneHistory store Tree.stable_distinct).tree disk distinct
  rw [pruned] at still
  -- What is listed is what stands there, so the names to remove are names of files.
  rw [pruneHistory_eq h] at pruned
  have removed := adapt_ok pruned
  exact retained_of_surplus (nodup_earlier distinct) dated (nodup_earlier still)
    (removeAll_earlier _ (h.files_of_surplus _) h removed)

/-! Archiving -/

/-- No two files of the history have one place, nothing is there of the present second, and the earlier
summaries changed one after the other, and all of them before now. -/
structure Ordered (home : Location) (now : Time) (disk : Disk) : Prop where
  distinct : disk.tree.Distinct
  fresh : ∀ version, disk.tree.node? (historyPlace home ++ [historyName version now]) = none
  past : ∀ entry ∈ earlier home disk.tree, isHistoryName entry.1 = true → entry.2.modified < disk.time
  apart : ∀ entry ∈ earlier home disk.tree, ∀ other ∈ earlier home disk.tree, isHistoryName entry.1 = true →
    isHistoryName other.1 = true → entry.2.modified = other.2.modified → entry.1 = other.1

/-- A file and what the history held, but for the temporary file of the same name. -/
def copied (name : String) (item : Item) (held : List (String × Item)) : List (String × Item) :=
  (name, item) :: held.filter fun entry => entry.1 != temporaryName name

namespace Ordered

variable {time : Nat} {node : Node} {between : Disk}

theorem older (ordered : Ordered home now disk) (since : disk.time ≤ time) :
    ∀ entry ∈ earlier home disk.tree, isHistoryName entry.1 = true → entry.2.modified < time :=
  fun entry listed history => Nat.lt_of_lt_of_le (ordered.past entry listed history) since

theorem ne_historyName (ordered : Ordered home now disk) (version : Version) {entry : String × Item}
    (listed : entry ∈ earlier home disk.tree) : entry.1 ≠ historyName version now := by
  intro same
  have missing := ordered.fresh version
  rw [← same, Tree.node?_eq_item? _ (by simp), mem_earlier.1 listed] at missing
  cases missing

theorem newer_copied (ordered : Ordered home now disk) (since : disk.time ≤ time) :
    newer (copied name ⟨node, time⟩ (earlier home disk.tree)) time = 0 := by
  refine newer_eq_zero fun entry among history => ?_
  rcases List.mem_cons.1 among with rfl | among
  · exact Nat.le_refl _
  · exact Nat.le_of_lt (ordered.older since entry (List.mem_filter.1 among).1 history)

theorem dated_copied (ordered : Ordered home now disk) (since : disk.time ≤ time) (history : isHistoryName name = true) :
    Dated (copied name ⟨node, time⟩ (earlier home disk.tree)) := by
  rw [Dated, copies, copied, List.filter_cons, if_pos history]
  refine List.pairwise_cons.2 ⟨fun entry among => ?_, ?_⟩
  · obtain ⟨among, history⟩ := List.mem_filter.1 among
    exact Nat.ne_of_gt (ordered.older since entry (List.mem_filter.1 among).1 history)
  · have named : (earlier home disk.tree).Pairwise fun entry other => entry.1 ≠ other.1 :=
      List.pairwise_map.1 (nodup_earlier ordered.distinct)
    refine ((named.filter _).filter _).imp_of_mem fun among among' differ same => differ ?_
    obtain ⟨among, history⟩ := List.mem_filter.1 among
    obtain ⟨among', history'⟩ := List.mem_filter.1 among'
    exact ordered.apart _ (List.mem_filter.1 among).1 _ (List.mem_filter.1 among').1 history history' same

theorem copied_perm (ordered : Ordered home now disk) (h : Shelf store home disk.tree)
    (distinct : between.tree.Distinct)
    (written : store.writeRaw (store.paths.historyDir.join (historyName version now)) raw disk = (.ok (), between)) :
    ∃ time, disk.time ≤ time ∧ (earlier home between.tree).Perm
      (copied (historyName version now) ⟨.file raw, time⟩ (earlier home disk.tree)) := by
  obtain ⟨time, since, entries⟩ := writeHistory_earlier h (isFileName_historyName version now)
    (isHistoryName_historyName version now) written
  refine ⟨time, since, (List.perm_ext_iff_of_nodup (List.Nodup.of_map _ (nodup_earlier distinct)) ?_).2 fun entry => ?_⟩
  · refine List.nodup_cons.2 ⟨fun among => ?_, (List.Nodup.of_map _ (nodup_earlier ordered.distinct)).filter _⟩
    exact ordered.ne_historyName version (List.mem_filter.1 among).1 rfl
  · rw [entries, copied, List.mem_cons, List.mem_filter, bne_iff_ne]
    refine or_congr_right (and_congr_right fun listed => ?_)
    exact and_iff_right (ordered.ne_historyName version listed)

end Ordered

/-- A copy that is newer than the earlier summaries is there if any of them are, the newest are left, and everything
else but the temporary file of the copy. -/
def Archived (retention : Nat) (copy : String) (raw : ByteArray) (old left : List (String × Item)) : Prop :=
  ∃ time, (∀ entry ∈ old, isHistoryName entry.1 = true → entry.2.modified < time) ∧
    (0 < retention → (copy, ⟨.file raw, time⟩) ∈ left) ∧ Retained retention (copied copy ⟨.file raw, time⟩ old) left

theorem archiveSummary_archives (h : Shelf store home disk.tree) (ordered : Ordered home now disk)
    (done : store.archiveSummary raw version now disk = (.ok (), after)) :
    Archived store.historyRetention (historyName version now) raw (earlier home disk.tree)
      (earlier home after.tree) := by
  obtain ⟨_, between, written, pruned⟩ := bind_ok done
  rw [historyPath_eq] at written
  have history := isHistoryName_historyName version now
  have touches := writeHistory_touches h (isFileName_historyName version now) history raw
  have distinct := (keeps_writeRaw store Tree.stable_distinct
    (store.paths.historyDir.join (historyName version now)) raw).tree disk ordered.distinct
  rw [written] at touches distinct
  obtain ⟨time, since, same⟩ := ordered.copied_perm h distinct written
  have shelf := h.touches touches fun _ => HistoryOutput.summaryOutput
  have dated : Dated (copied (historyName version now) ⟨.file raw, time⟩ (earlier home disk.tree)) :=
    ordered.dated_copied since history
  have retained := (pruneHistory_retains shelf distinct (dated.perm same.symm) pruned).perm same
  refine ⟨time, ordered.older since, fun some => (retained.kept _).2 ⟨List.mem_cons_self, fun _ => ?_⟩, retained⟩
  rwa [ordered.newer_copied since]

end Waymark.Store
