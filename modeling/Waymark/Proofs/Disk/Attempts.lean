import Waymark.Proofs.Disk.Effect

/-! Calls that are made again, one by one. They go on as long as they fail in passing and the limit is not
used up, each comes out as the script and the disk have it, and all of them are on record.
-/

set_option autoImplicit false

namespace Waymark.Disk

open OnDisk

variable {outcome : Nat → Option FileError} {limit i j n : Nat} {disk based : Disk} {path source target : Path}
  {content : ByteArray} {time : Nat} {x : Slot}

/-- Attempts end with the one of an index: all before it fail in passing, and it does not, or it is the last one
that the limit allows. -/
structure LastTry (outcome : Nat → Option FileError) (limit index : Nat) : Prop where
  within : index < limit
  passing : ∀ i < index, ∃ error ∈ outcome i, error.fault.isTransient = true
  ends : (∀ error ∈ outcome index, error.fault.isTransient = false) ∨ index + 1 = limit

namespace LastTry

theorem le (first : LastTry outcome limit i) (second : LastTry outcome limit j) : j ≤ i := by
  apply Nat.le_of_not_lt
  intro later
  rcases first.ends with lasting | full
  · obtain ⟨error, failed, passing⟩ := second.passing i later
    rw [lasting error failed] at passing
    cases passing
  · have within := second.within
    omega

theorem unique (first : LastTry outcome limit i) (second : LastTry outcome limit j) : i = j :=
  Nat.le_antisymm (second.le first) (first.le second)

end LastTry

/-- The result of a call that comes out with an error or with none. -/
def verdict : Option FileError → Except FileError Unit
  | none => .ok ()
  | some error => .error error

/-- Attempts that lead from stage to stage are as many as their outcomes say, and end as the last of them does. -/
theorem retryMore_tries {call : OnDisk FileError Unit} {Stage Done : Nat → Disk → Prop}
    (step : ∀ i disk, Stage i disk → (call disk).1 = verdict (outcome i) ∧
      Meets (fun _ => Done (i + 1)) (fun _ => Stage (i + 1)) (call disk))
    (more : Nat) (stage : Stage n disk) (before : ∀ i < n, ∃ error ∈ outcome i, error.fault.isTransient = true) :
    ∃ index, LastTry outcome (n + more + 1) index ∧ (retryMore call more disk).1 = verdict (outcome index) ∧
      Meets (fun _ => Done (index + 1)) (fun _ => Stage (index + 1)) (retryMore call more disk) := by
  -- By induction on the attempts that are left; the stage counts those that were made, so the limit stays.
  induction more generalizing n disk with
  | zero => exact ⟨n, ⟨Nat.lt_succ_self n, before, .inr rfl⟩, step n disk stage⟩
  | succ more ih =>
    have first := step n disk stage
    unfold retryMore
    cases called : call disk with
    | mk result after =>
    rw [called] at first
    cases out : outcome n with
    | none =>
      obtain rfl : result = .ok () := by simpa [out, verdict] using first.1
      exact ⟨n, ⟨by omega, before, .inl (by simp [out])⟩, first⟩
    | some error =>
      obtain rfl : result = .error error := by simpa [out, verdict] using first.1
      dsimp only
      split
      · rename_i passing
        have before : ∀ i < n + 1, ∃ error ∈ outcome i, error.fault.isTransient = true := by
          intro i earlier
          rcases Nat.lt_succ_iff_lt_or_eq.1 earlier with earlier | rfl
          · exact before i earlier
          · exact ⟨error, out, passing⟩
        have tries := ih first.2 before
        rwa [Nat.add_right_comm n 1 more] at tries
      · rename_i lasting
        have ends : ∀ other ∈ outcome n, other.fault.isTransient = false := by
          intro other member
          rw [out, Option.mem_some_iff] at member
          rw [← member]
          exact Bool.eq_false_iff.2 lasting
        exact ⟨n, ⟨by omega, before, .inl ends⟩, first⟩

theorem retry_tries {call : OnDisk FileError Unit} {Stage Done : Nat → Disk → Prop}
    (step : ∀ i disk, Stage i disk → (call disk).1 = verdict (outcome i) ∧
      Meets (fun _ => Done (i + 1)) (fun _ => Stage (i + 1)) (call disk))
    (attempts : Nat) (stage : Stage 0 disk) :
    ∃ index, LastTry outcome (max attempts 1) index ∧ (retry attempts call disk).1 = verdict (outcome index) ∧
      Meets (fun _ => Done (index + 1)) (fun _ => Stage (index + 1)) (retry attempts call disk) := by
  have limit : 0 + (attempts - 1) + 1 = max attempts 1 := by omega
  have tries := retryMore_tries step (attempts - 1) stage fun i none => absurd none (Nat.not_lt_zero i)
  rwa [limit] at tries

/-! Calls on record -/

def record (calls : Nat → Call) (count : Nat) : List Call := ((List.range count).map calls).reverse

theorem record_succ (calls : Nat → Call) (count : Nat) :
    record calls (count + 1) = calls count :: record calls count := by
  simp [record, List.range_succ]

theorem countP_record {calls : Nat → Call} {kind : Call → Bool} (same : ∀ i, kind (calls i) = true) (count : Nat) :
    (record calls count).countP kind = count := by
  rw [List.countP_eq_length.2] <;> simp [record, same]

/-! Writes -/

def refusal : Except Fault Tree → Option FileError
  | .ok _ => none
  | .error fault => some (.ofFault fault)

theorem settle_result (disk : Disk) (result : Except Fault Tree) :
    (disk.settle result).1 = verdict (refusal result) := by
  cases result <;> rfl

/-- How the next writes come out, counted from zero. The script is asked first, then the disk. -/
def writeOutcome (disk : Disk) (path : Path) (content : ByteArray) (i : Nat) : Option FileError :=
  match disk.script.write (disk.nextWrite + i) with
  | some failed => some ⟨failed.fault, writeFailure⟩
  | none => refusal (disk.tree.write path content disk.time)

def writeCall (disk : Disk) (path : Path) (i : Nat) : Call :=
  .write path (disk.script.write (disk.nextWrite + i)).isSome

/-- The disk after a number of writes to one path. Whatever they left behind, what the disk refuses stays the same. -/
structure Writing (based : Disk) (path : Path) (slot : Slot) (count : Nat) (disk : Disk) : Prop where
  script : disk.script = based.script
  calls : disk.calls = record (based.writeCall path) count ++ based.calls
  laid : based.tree.Laid [(path, slot)] disk.tree
  refuses : ∀ content time, refusal (disk.tree.write path content time) =
    refusal (based.tree.write path content based.time)

theorem refusal_write (tree : Tree) (path : Path) (content other : ByteArray) (time again : Nat) :
    refusal (tree.write path content time) = refusal (tree.write path other again) := by
  unfold Tree.write
  cases tree.resolve path true with
  | error fault => rfl
  | ok l =>
    simp only [bind, Except.bind]
    cases tree.node? l with
    | none => rfl
    | some node => cases node <;> rfl

theorem refusal_write_again {tree after : Tree} (unlinked : tree.Unlinked path)
    (written : tree.write path content time = .ok after) (other : ByteArray) (again : Nat) :
    refusal (after.write path other again) = none := by
  obtain ⟨l, followed, change, was⟩ := Tree.write_ok written
  have ways : tree.SameWays after := .sets change was (by simp [Node.isWay])
  have led := ways.resolve.1 (Tree.resolve_unlinked unlinked followed)
  have followed := Tree.resolve_follow (by simp [change.same]) led
  unfold Tree.write
  rw [followed]
  simp only [bind, Except.bind, change.same]
  rfl

namespace Writing

theorem start {base : Disk} (unlinked : base.tree.Unlinked path) : Writing base path .unknown 0 base where
  script := rfl
  calls := rfl
  laid := ⟨.refl _, ⟨by simpa using unlinked, by simp⟩, by simp [Slot.Is], fun _ _ => rfl⟩
  refuses _ _ := refusal_write ..

theorem slot (h : Writing based path x n disk) : based.tree.Laid ([] ++ (path, x) :: []) disk.tree := h.laid

theorem tell (h : Writing based path x n disk) : Writing based path .unknown n disk where
  script := h.script
  calls := h.calls
  laid := h.slot.tell trivial
  refuses := h.refuses

theorem nextWrite (h : Writing based path x n disk) : disk.nextWrite = based.nextWrite + n := by
  unfold Disk.nextWrite
  rw [h.calls, List.countP_append, countP_record fun _ => rfl]
  omega

theorem call (h : Writing based path x n disk) :
    Writing based path x (n + 1) { disk with calls := based.writeCall path n :: disk.calls } where
  script := h.script
  calls := by rw [h.calls, record_succ, List.cons_append]
  laid := h.laid
  refuses := h.refuses

theorem put {after : Tree} (h : Writing based path x n disk)
    (written : disk.tree.write path content time = .ok after) (later : Nat) :
    Writing based path (.holds content) n { disk with tree := after, time := later } where
  script := h.script
  calls := h.calls
  laid := laid_of_write h.slot written
  refuses other again := by
    -- A write that was taken is taken again, so the disk refused none of them from the start.
    rw [← h.refuses other again, refusal_write disk.tree path other content again time, written]
    exact refusal_write_again h.slot.unlinked written other again

theorem settle (h : Writing based path x n disk) (content : ByteArray) (time : Nat) :
    Meets (fun _ => Writing based path (.holds content) n) (fun _ => Writing based path x n)
      (disk.settle (disk.tree.write path content time)) := by
  cases written : disk.tree.write path content time with
  | ok after => exact h.put written _
  | error fault => exact h

theorem leave (h : Writing based path .unknown n disk) (left : Option ByteArray) :
    Writing based path .unknown n (disk.leave path left) := by
  cases left with
  | none => exact h
  | some content => exact meets_always.1 ((h.settle content disk.time).mono (fun _ _ => tell) fun _ _ => id)

/-- The next write comes out as the script and the disk before all writes have it. -/
theorem write (h : Writing based path .unknown n disk) (content : ByteArray) :
    (Disk.write path content disk).1 = verdict (based.writeOutcome path content n) ∧
      Meets (fun _ => Writing based path (.holds content) (n + 1)) (fun _ => Writing based path .unknown (n + 1))
        (Disk.write path content disk) := by
  have called := h.call
  have next := h.nextWrite
  have refused := h.refuses content disk.time
  obtain ⟨tree, script, calls, time⟩ := disk
  obtain rfl : script = based.script := h.script
  unfold writeCall at called
  unfold Disk.write writeOutcome
  rw [next]
  dsimp only at called refused ⊢
  cases scripted : based.script.write (based.nextWrite + n) with
  | some failed =>
    rw [scripted] at called
    exact ⟨rfl, called.leave failed.left⟩
  | none =>
    rw [scripted] at called
    exact ⟨by rw [settle_result, refused], called.settle content time⟩

end Writing

/-- The writes of a temporary file end with the last attempt, and if that succeeds the file holds the content. -/
theorem writeTemporary_tries (attempts : Nat) (content : ByteArray) (unlinked : based.tree.Unlinked path.temporary) :
    ∃ writes, LastTry (based.writeOutcome path.temporary content) (max attempts 1) writes ∧
      (writeTemporary attempts path content based).1 = verdict (based.writeOutcome path.temporary content writes) ∧
      Meets (fun _ => Writing based path.temporary (.holds content) (writes + 1))
        (fun _ => Writing based path.temporary .unknown (writes + 1)) (writeTemporary attempts path content based) :=
  retry_tries (fun _ _ tried => tried.write content) attempts (.start unlinked)

/-! Renamings -/

def renameOutcome (disk : Disk) (source target : Path) (i : Nat) : Option FileError :=
  match disk.script.rename (disk.nextRename + i) with
  | some fault => some ⟨fault, renameFailure⟩
  | none => refusal (disk.tree.rename source target)

def renameCall (disk : Disk) (target : Path) (i : Nat) : Call :=
  .rename target (disk.script.rename (disk.nextRename + i)).isSome

/-- The disk after a number of renamings to one path, and what they have changed in the tree. -/
structure Renaming (based : Disk) (target : Path) (changed : Tree → Prop) (count : Nat) (disk : Disk) : Prop where
  script : disk.script = based.script
  calls : disk.calls = record (based.renameCall target) count ++ based.calls
  tree : changed disk.tree

theorem Renaming.rename (h : Renaming based target (· = based.tree) n disk) (source : Path) :
    (Disk.rename source target disk).1 = verdict (based.renameOutcome source target n) ∧
      Meets (fun _ => Renaming based target (based.tree.rename source target = .ok ·) (n + 1))
        (fun _ => Renaming based target (· = based.tree) (n + 1)) (Disk.rename source target disk) := by
  have next : disk.nextRename = based.nextRename + n := by
    unfold nextRename
    rw [h.calls, List.countP_append, countP_record fun _ => rfl]
    omega
  have called : Renaming based target (· = based.tree) (n + 1)
      { disk with calls := based.renameCall target n :: disk.calls } :=
    ⟨h.script, by rw [h.calls, record_succ, List.cons_append], h.tree⟩
  obtain ⟨tree, script, calls, time⟩ := disk
  obtain rfl : script = based.script := h.script
  obtain rfl : tree = based.tree := h.tree
  unfold renameCall at called
  unfold Disk.rename renameOutcome
  rw [next]
  dsimp only at called ⊢
  -- The script is asked before the disk.
  cases scripted : based.script.rename (based.nextRename + n) with
  | some fault =>
    rw [scripted] at called
    exact ⟨rfl, called⟩
  | none =>
    rw [scripted] at called
    cases renamed : based.tree.rename source target with
    | error fault => exact ⟨rfl, called⟩
    | ok after => exact ⟨rfl, called.script, called.calls, rfl⟩

/-- The renamings of a temporary file end with the last attempt. Those that fail change nothing. -/
theorem renameTemporary_tries (attempts : Nat) (path : Path) (based : Disk) :
    ∃ renames, LastTry (based.renameOutcome path.temporary path) (max attempts 1) renames ∧
      (renameTemporary attempts path based).1 = verdict (based.renameOutcome path.temporary path renames) ∧
      Meets (fun _ => Renaming based path (based.tree.rename path.temporary path = .ok ·) (renames + 1))
        (fun _ => Renaming based path (· = based.tree) (renames + 1)) (renameTemporary attempts path based) :=
  retry_tries (fun _ _ tried => tried.rename path.temporary) attempts ⟨rfl, rfl, rfl⟩

end Waymark.Disk
