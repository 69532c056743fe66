import Waymark.Proofs.Disk.Replace
import Waymark.Proofs.Tree.Proper
import Waymark.Store.Basic

/-! What every call on a disk leaves alone: the script, and any property of the tree that stays when a node
is put or erased.
-/

set_option autoImplicit false

namespace Waymark

open OnDisk

namespace Tree

/-- Putting nodes and erasing them leaves a property alone. -/
structure Stable (Q : Tree → Prop) : Prop where
  put : ∀ tree l item, Q tree → Q (tree.put l item)
  erase : ∀ tree l, Q tree → Q (tree.erase l)

def Distinct (tree : Tree) : Prop := (tree.items.map Prod.fst).Nodup

theorem Distinct.erase {tree : Tree} (h : tree.Distinct) (l : Location) : (tree.erase l).Distinct := by
  have fewer : (tree.erase l).items.Sublist tree.items := List.filter_sublist
  exact List.Nodup.sublist (fewer.map Prod.fst) h

theorem stable_distinct : Stable Distinct where
  put tree l item h := by
    refine List.nodup_cons.2 ⟨fun among => ?_, h.erase l⟩
    obtain ⟨entry, kept, same⟩ := List.mem_map.1 among
    exact bne_iff_ne.1 (List.mem_filter.1 kept).2 same
  erase _ l h := h.erase l

variable {Q : Tree → Prop} {tree after : Tree} {path source target : Path} {content : ByteArray} {time : Nat}

namespace Stable

theorem write (stable : Stable Q) (written : tree.write path content time = .ok after) (h : Q tree) : Q after := by
  obtain ⟨l, -, written⟩ := Fallible.bind_ok written
  split at written
  · cases written
  · cases written
  · cases written
  · cases written
    exact stable.put _ _ _ h

theorem rename (stable : Stable Q) (renamed : tree.rename source target = .ok after) (h : Q tree) : Q after := by
  obtain ⟨origin, -, renamed⟩ := Fallible.bind_ok renamed
  obtain ⟨destination, -, renamed⟩ := Fallible.bind_ok renamed
  split at renamed
  · cases renamed
  · cases renamed
  · cases renamed
  · cases renamed
    exact stable.put _ _ _ (stable.erase _ _ h)

theorem remove (stable : Stable Q) (removed : tree.remove path = .ok after) (h : Q tree) : Q after := by
  obtain ⟨l, -, removed⟩ := Fallible.bind_ok removed
  split at removed
  · cases removed
  · cases removed
    exact stable.erase _ _ h
  · cases removed

theorem removeOptional (stable : Stable Q) (removed : tree.removeOptional path = .ok after) (h : Q tree) :
    Q after := by
  rcases removeOptional_ok removed with rfl | ⟨l, n, -, -, -, rfl⟩
  · exact h
  · exact stable.erase _ _ h

theorem makeDirectory (stable : Stable Q) (made : tree.makeDirectory path time = .ok after) (h : Q tree) :
    Q after := by
  obtain ⟨l, -, -, rfl⟩ := makeDirectory_ok made
  exact stable.put _ _ _ h

theorem makeDirectoriesWithin (stable : Stable Q) (time depth : Nat) (path : Path) (h : Q tree) :
    Q (makeDirectoriesWithin time depth tree path).2 :=
  makeDirectoriesWithin_keeps (fun _ _ _ there made => stable.makeDirectory made there) depth path h

end Stable

end Tree

namespace OnDisk

variable {ε δ α β : Type} {Q : Tree → Prop}

/-- A call that leaves the script alone, and a property of the tree. -/
structure Keeps (Q : Tree → Prop) (call : OnDisk ε α) : Prop where
  script : ∀ disk, (call disk).2.script = disk.script
  tree : ∀ disk, Q disk.tree → Q (call disk).2.tree

namespace Keeps

theorem of_same {call : OnDisk ε α} (same : ∀ disk, (call disk).2 = disk) : Keeps Q call where
  script disk := by rw [same]
  tree disk h := by rwa [same]

theorem pure (value : α) : Keeps Q (pure value : OnDisk ε α) := of_same fun _ => rfl

theorem ofResult (wrap : ε → δ) (result : Except ε α) : Keeps Q (OnDisk.ofResult wrap result) := of_same fun _ => rfl

theorem adapt {call : OnDisk ε α} (keeps : Keeps Q call) (wrap : ε → δ) :
    Keeps Q (call.adapt wrap : OnDisk δ α) where
  script := keeps.script
  tree := keeps.tree

theorem bind {call : OnDisk ε α} {next : α → OnDisk ε β} (first : Keeps Q call) (second : ∀ value, Keeps Q (next value)) :
    Keeps Q (call >>= next) := by
  constructor <;> intro disk
  · have script := first.script disk
    cases called : call disk with
    | mk outcome after =>
    rw [called] at script
    cases outcome with
    | error error => rwa [bind_of_error called]
    | ok value =>
      rw [bind_of_ok called]
      exact ((second value).script after).trans script
  · intro h
    have tree := first.tree disk h
    cases called : call disk with
    | mk outcome after =>
    rw [called] at tree
    cases outcome with
    | error error => rwa [bind_of_error called]
    | ok value =>
      rw [bind_of_ok called]
      exact (second value).tree after tree

end Keeps

end OnDisk

namespace Disk

variable {Q : Tree → Prop} {α : Type}

open Waymark.Tree (Stable)

theorem keeps_retry {call : OnDisk FileError α} (keeps : Keeps Q call) (attempts : Nat) :
    Keeps Q (retry attempts call) := by
  unfold retry
  induction attempts - 1 with
  | zero => exact keeps
  | succ more ih =>
    -- The disk is left by the first call, or by the attempts after it.
    have step : ∀ disk, (retryMore call (more + 1) disk).2 = (call disk).2 ∨
        (retryMore call (more + 1) disk).2 = (retryMore call more (call disk).2).2 := by
      intro disk
      rw [retryMore]
      dsimp only
      split
      · rename_i error after called
        rw [called]
        split
        · exact .inr rfl
        · exact .inl rfl
      · rename_i value after called
        rw [called]
        exact .inl rfl
    constructor <;> intro disk
    · rcases step disk with same | same <;> rw [same]
      · exact keeps.script disk
      · exact (ih.script _).trans (keeps.script disk)
    · intro h
      rcases step disk with same | same <;> rw [same]
      · exact keeps.tree disk h
      · exact ih.tree _ (keeps.tree disk h)

theorem settle_script (disk : Disk) (result : Except Fault Tree) : (disk.settle result).2.script = disk.script := by
  cases result <;> rfl

theorem settle_tree {disk : Disk} {result : Except Fault Tree} (ok : ∀ tree, result = .ok tree → Q tree)
    (h : Q disk.tree) : Q (disk.settle result).2.tree := by
  cases result with
  | ok tree => exact ok tree rfl
  | error fault => exact h

theorem keeps_write (stable : Stable Q) (path : Path) (content : ByteArray) : Keeps Q (write path content) := by
  constructor <;> intro disk
  · unfold write
    split
    · rename_i failed _
      unfold leave
      split
      · rfl
      · exact settle_script ..
    · exact settle_script ..
  · intro h
    unfold write
    split
    · rename_i failed _
      unfold leave
      split
      · exact h
      · exact settle_tree (fun tree written => stable.write written h) h
    · exact settle_tree (fun tree written => stable.write written h) h

theorem keeps_rename (stable : Stable Q) (source target : Path) : Keeps Q (rename source target) := by
  constructor <;> intro disk
  · unfold rename
    split
    · rfl
    · exact settle_script ..
  · intro h
    unfold rename
    split
    · exact h
    · exact settle_tree (fun tree renamed => stable.rename renamed h) h

theorem keeps_remove (stable : Stable Q) (path : Path) : Keeps Q (remove path) where
  script _ := settle_script ..
  tree _ h := settle_tree (fun _ removed => stable.remove removed h) h

theorem keeps_removeOptional (stable : Stable Q) (path : Path) : Keeps Q (removeOptional path) where
  script _ := settle_script ..
  tree _ h := settle_tree (fun _ removed => stable.removeOptional removed h) h

theorem keeps_ensureParent (stable : Stable Q) (path : Path) : Keeps Q (ensureParent path) := by
  constructor <;> intro disk
  · unfold ensureParent
    split <;> rfl
  · intro h
    unfold ensureParent
    split
    · exact h
    · exact stable.makeDirectoriesWithin _ _ _ h

theorem keeps_replace (stable : Stable Q) (attempts : Nat) (path : Path) (content : ByteArray) :
    Keeps Q (replace attempts path content) := by
  have written : Keeps Q (writeTemporary attempts path content >>= fun _ => renameTemporary attempts path) :=
    .bind (keeps_retry (keeps_write stable _ content) attempts) fun _ => keeps_retry (keeps_rename stable _ _) attempts
  have cleared := keeps_removeOptional stable path.temporary
  refine .bind (keeps_ensureParent stable path) fun _ => ?_
  constructor <;> intro disk
  · have script := written.script disk
    dsimp only
    split
    · rename_i after done
      rwa [done] at script
    · rename_i error after failed
      rw [failed] at script
      exact (cleared.script after).trans script
  · intro h
    have tree := written.tree disk h
    dsimp only
    split
    · rename_i after done
      rwa [done] at tree
    · rename_i error after failed
      rw [failed] at tree
      exact cleared.tree after tree

end Disk

namespace Store

variable {Q : Tree → Prop} {α : Type} (store : Store)

open Waymark.Tree (Stable)

theorem keeps_ask (question : Tree → Except StoreError α) : Keeps Q (ask question) := .of_same fun _ => rfl

theorem keeps_writeRaw (stable : Stable Q) (path : Path) (content : ByteArray) :
    Keeps Q (store.writeRaw path content) := (Disk.keeps_replace stable _ path content).adapt _

theorem keeps_removeAll (stable : Stable Q) (directory : Path) (names : List String) :
    Keeps Q (removeAll directory names) := by
  induction names with
  | nil => exact .pure ()
  | cons name rest ih => exact .bind (Disk.keeps_remove stable _) fun _ => ih

theorem keeps_pruneHistory (stable : Stable Q) : Keeps Q store.pruneHistory :=
  .bind (keeps_ask _) fun _ => (keeps_removeAll stable _ _).adapt _

theorem keeps_archiveSummary (stable : Stable Q) (raw : ByteArray) (version : Version) (now : Time) :
    Keeps Q (store.archiveSummary raw version now) :=
  .bind (keeps_writeRaw store stable _ raw) fun _ => keeps_pruneHistory store stable

theorem keeps_snapshotSummary (stable : Stable Q) (now : Time) : Keeps Q (store.snapshotSummary now) := by
  refine .bind (keeps_ask _) fun prior => ?_
  cases prior with
  | none => exact .pure _
  | some raw =>
    refine .bind (keeps_ask _) fun prior => ?_
    exact .bind (keeps_archiveSummary store stable _ _ now) fun _ => .pure _

theorem keeps_saveSummary (stable : Stable Q) (summary : Summary) (now : Time) :
    Keeps Q (store.saveSummary summary now) := by
  refine .bind (keeps_ask _) fun prior => ?_
  dsimp only
  split
  · split
    · exact .bind (keeps_archiveSummary store stable _ _ now) fun _ => keeps_writeRaw store stable _ _
    · exact keeps_writeRaw store stable _ _
  · exact keeps_writeRaw store stable _ _

end Store

end Waymark
