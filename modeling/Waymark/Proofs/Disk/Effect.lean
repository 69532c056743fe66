import Waymark.Disk.Retry
import Waymark.Proofs.Tree.Prior
import Waymark.Proofs.Tree.Slot

/-! What calls on a disk do to the places of the paths they are given, whatever the script lets fail. A
failed write may have filled its file; a failed renaming has changed nothing.
-/

set_option autoImplicit false

namespace Waymark

@[simp] theorem Disk.tree_ofTree (tree : Tree) (time : Nat) : (Disk.ofTree tree time).tree = tree := rfl

namespace OnDisk

variable {ε δ α β : Type} {P : α → Disk → Prop} {Q : ε → Disk → Prop} {disk : Disk}

/-- What holds after a call, by how it ended. -/
def Meets (P : α → Disk → Prop) (Q : ε → Disk → Prop) : Except ε α × Disk → Prop
  | (.ok value, disk) => P value disk
  | (.error error, disk) => Q error disk

theorem Meets.mono {P' : α → Disk → Prop} {Q' : ε → Disk → Prop} {result : Except ε α × Disk}
    (h : Meets P Q result) (ok : ∀ value disk, P value disk → P' value disk)
    (error : ∀ error disk, Q error disk → Q' error disk) : Meets P' Q' result := by
  obtain ⟨result, disk⟩ := result
  cases result with
  | ok value => exact ok value disk h
  | error e => exact error e disk h

theorem meets_always {P : Disk → Prop} {result : Except ε α × Disk} :
    Meets (fun _ => P) (fun _ => P) result ↔ P result.2 := by
  obtain ⟨outcome, after⟩ := result
  cases outcome <;> exact .rfl

theorem bind_of_ok {call : OnDisk ε α} {next : α → OnDisk ε β} {value : α} {after : Disk}
    (h : call disk = (.ok value, after)) : (call >>= next) disk = next value after := by
  change ExceptT.bindCont next (call disk).1 (call disk).2 = _
  rw [h]
  rfl

theorem bind_of_error {call : OnDisk ε α} {next : α → OnDisk ε β} {error : ε} {after : Disk}
    (h : call disk = (.error error, after)) : (call >>= next) disk = (.error error, after) := by
  change ExceptT.bindCont next (call disk).1 (call disk).2 = _
  rw [h]
  rfl

theorem Meets.pure {value : α} (h : P value disk) : Meets P Q ((pure value : OnDisk ε α) disk) := h

theorem Meets.adapt {Q' : δ → Disk → Prop} {call : OnDisk ε α} {wrap : ε → δ}
    (h : Meets P (fun error after => Q' (wrap error) after) (call disk)) :
    Meets P Q' ((call.adapt wrap : OnDisk δ α) disk) := by
  change Meets P Q' ((call disk).1.mapError wrap, (call disk).2)
  cases result : call disk with
  | mk outcome after =>
    rw [result] at h
    cases outcome with
    | ok value => exact h
    | error error => exact h

theorem Meets.bind {P' : β → Disk → Prop} {call : OnDisk ε α} {next : α → OnDisk ε β}
    (first : Meets P Q (call disk)) (second : ∀ value after, P value after → Meets P' Q (next value after)) :
    Meets P' Q ((call >>= next) disk) := by
  cases result : call disk with
  | mk outcome after =>
    rw [result] at first
    cases outcome with
    | ok value => rw [bind_of_ok result]; exact second value after first
    | error error => rw [bind_of_error result]; exact first

end OnDisk

open OnDisk

namespace Disk

variable {α : Type} {disk : Disk} {base : Tree} {before later : List (Path × Slot)} {path target : Path}
  {x y : Slot}

theorem retryMore_meets {P : Disk → Prop} {Q : α → Disk → Prop} {call : OnDisk FileError α}
    (step : ∀ disk, P disk → Meets Q (fun _ => P) (call disk)) (more : Nat) (h : P disk) :
    Meets Q (fun _ => P) (retryMore call more disk) := by
  induction more generalizing disk with
  | zero => exact step disk h
  | succ more ih =>
    have first := step disk h
    unfold retryMore
    cases result : call disk with
    | mk outcome after =>
      rw [result] at first
      cases outcome with
      | ok value => exact first
      | error error =>
        simp only
        split
        · exact ih first
        · exact first

theorem retry_meets {P : Disk → Prop} {Q : α → Disk → Prop} {call : OnDisk FileError α}
    (step : ∀ disk, P disk → Meets Q (fun _ => P) (call disk)) (attempts : Nat) (h : P disk) :
    Meets Q (fun _ => P) (retry attempts call disk) :=
  retryMore_meets step (attempts - 1) h

theorem laid_of_write {tree after : Tree} {content : ByteArray} {time : Nat}
    (h : base.Laid (before ++ (path, x) :: later) tree) (written : tree.write path content time = .ok after) :
    base.Laid (before ++ (path, .holds content) :: later) after := by
  obtain ⟨l, followed, change, was⟩ := Tree.write_ok written
  have led := h.resolve.1 (Tree.resolve_unlinked h.unlinked followed)
  exact h.sets led change was (by simp [Node.isWay]) ⟨l, led, change.same⟩

theorem write_meets (content : ByteArray) (h : base.Laid (before ++ (path, x) :: later) disk.tree) :
    Meets (fun _ after => base.Laid (before ++ (path, .holds content) :: later) after.tree)
      (fun _ after => base.Laid (before ++ (path, .unknown) :: later) after.tree)
      (write path content disk) := by
  have unknown := h.tell (y := .unknown) trivial
  unfold write
  split
  -- A write that fails in the script may have left something in the place.
  · rename_i failed _
    change base.Laid _ (leave _ path failed.left).tree
    unfold leave
    split
    · exact unknown
    · rename_i content _
      unfold settle
      split
      · rename_i written
        exact (laid_of_write h written).tell trivial
      · exact unknown
  · unfold settle
    simp only
    split
    · rename_i written
      exact laid_of_write h written
    · exact unknown

theorem writeTemporary_meets (attempts : Nat) (content : ByteArray)
    (h : base.Laid (before ++ (path.temporary, x) :: later) disk.tree) :
    Meets (fun _ after => base.Laid (before ++ (path.temporary, .holds content) :: later) after.tree)
      (fun _ after => base.Laid (before ++ (path.temporary, .unknown) :: later) after.tree)
      (writeTemporary attempts path content disk) :=
  retry_meets (P := fun disk => base.Laid (before ++ (path.temporary, .unknown) :: later) disk.tree)
    (fun _ => write_meets content) attempts (h.tell trivial)

theorem laid_of_rename {tree after : Tree} {content : ByteArray} {source : Path}
    (h : base.Laid (before ++ (target, x) :: (source, .holds content) :: later) tree)
    (renamed : tree.rename source target = .ok after) :
    base.Laid (before ++ (target, .holds content) :: (source, .gone) :: later) after := by
  have slots : ∀ y, before ++ (target, x) :: (source, y) :: later =
      (before ++ [(target, x)]) ++ (source, y) :: later := by simp
  have atSource := h
  rw [slots] at atSource
  obtain ⟨l, led, there⟩ := atSource.here
  obtain ⟨d, taken, leads, notDirectory, take, put⟩ := Tree.rename_ok renamed (atSource.resolve.2 led) there
  have leads := h.resolve.1 leads
  -- The file is taken out of one place before it is put into the other.
  have without : base.Laid (before ++ (target, x) :: (source, .gone) :: later) taken := by
    rw [slots]
    exact atSource.sets led take (by simp [there, Node.isWay]) (by simp) ⟨l, led, take.same⟩
  refine without.sets leads put ?_ (by simp [Node.isWay]) ⟨d, leads, put.same⟩
  intro n standing
  have elsewhere : d ≠ l := by
    rintro rfl
    exact atSource.elsewhere led (target, x) (by simp) leads
  rw [take.other elsewhere] at standing
  cases n with
  | directory => exact absurd standing notDirectory
  | link link => exact absurd standing (h.unlinked d (h.resolve.2 leads) link)
  | file _ => rfl
  | locked _ => rfl

theorem renameTemporary_meets {content : ByteArray} (attempts : Nat)
    (h : base.Laid (before ++ (path, x) :: (path.temporary, .holds content) :: later) disk.tree) :
    Meets
      (fun _ after =>
        base.Laid (before ++ (path, .holds content) :: (path.temporary, .gone) :: later) after.tree)
      (fun _ after =>
        base.Laid (before ++ (path, x) :: (path.temporary, .holds content) :: later) after.tree)
      (renameTemporary attempts path disk) := by
  refine retry_meets (P := fun disk =>
    base.Laid (before ++ (path, x) :: (path.temporary, .holds content) :: later) disk.tree)
    (fun disk h => ?_) attempts h
  unfold rename
  split
  · exact h
  · unfold settle
    simp only
    split
    · rename_i renamed
      exact laid_of_rename h renamed
    · exact h

theorem laid_erase {tree : Tree} {l : Location} {n : Node} (h : base.Laid (before ++ (path, x) :: later) tree)
    (led : tree.resolve path false = .ok l) (there : tree.node? l = some n) (notDirectory : n ≠ .directory) :
    base.Laid (before ++ (path, .gone) :: later) (tree.erase l) := by
  have inside : l ≠ [] := by
    rintro rfl
    exact notDirectory (by simpa using there.symm)
  have was : n.isWay = false := by
    cases n with
    | directory => exact absurd rfl notDirectory
    | link target => exact absurd there (h.unlinked l led target)
    | file _ | locked _ => rfl
  have change := Tree.Sets.erase tree inside
  exact h.sets (h.resolve.1 led) change (by simp [there, was]) (by simp) ⟨l, h.resolve.1 led, change.same⟩

theorem removeOptional_meets {content : ByteArray}
    (h : base.Laid (before ++ (path, .holds content) :: later) disk.tree) :
    Meets (fun _ after => base.Laid (before ++ (path, .gone) :: later) after.tree) (fun _ _ => False)
      (removeOptional path disk) := by
  obtain ⟨l, led, there⟩ := h.here
  have led := h.resolve.2 led
  unfold removeOptional settle
  rw [Tree.removeOptional_of_node led there (by simp)]
  exact laid_erase h led there (by simp)

theorem laid_removeOptional (h : base.Laid (before ++ (path, x) :: later) disk.tree) :
    base.Laid (before ++ (path, .cleared) :: later) (removeOptional path disk).2.tree := by
  by_cases standing : ∃ l n, disk.tree.resolve path false = .ok l ∧ disk.tree.node? l = some n ∧
      n ≠ .directory
  · obtain ⟨l, n, led, there, notDirectory⟩ := standing
    unfold removeOptional settle
    rw [Tree.removeOptional_of_node led there notDirectory]
    have gone := laid_erase h led there notDirectory
    exact gone.tell (Slot.Is.cleared_of_gone gone.here)
  · have same : (removeOptional path disk).2.tree = disk.tree := by
      unfold removeOptional settle
      split
      · rename_i after removed
        rcases Tree.removeOptional_ok removed with same | ⟨l, n, led, there, notDirectory, -⟩
        · exact same
        · exact absurd ⟨l, n, led, there, notDirectory⟩ standing
      · rfl
    rw [same]
    -- Nothing was removed, so nothing stands there or the directory that stood there before.
    refine h.tell fun k led => ?_
    cases there : disk.tree.node? k with
    | none => exact .inl rfl
    | some n =>
      by_cases directory : n = .directory
      · subst directory
        exact .inr ((h.ways.look k _ rfl).2 there).symm
      · exact absurd ⟨k, n, h.resolve.2 led, there, directory⟩ standing

theorem ask_meets (question : Tree → Except Fault α) (disk : Disk) :
    Meets (fun value after => after = disk ∧ question disk.tree = .ok value) (fun _ after => after = disk)
      (ask question disk) := by
  unfold ask
  cases question disk.tree with
  | ok value => exact ⟨rfl, rfl⟩
  | error fault => exact rfl

theorem ensureParent_meets (path : Path) (disk : Disk) :
    Meets (fun _ after => Tree.Grows disk.tree after.tree ∧ after.tree.HasParent path)
      (fun _ after => Tree.Grows disk.tree after.tree) (ensureParent path disk) := by
  unfold ensureParent
  split
  · rename_i none
    exact ⟨Tree.Grows.refl _, fun parent above => by rw [none] at above; cases above⟩
  · rename_i parent above
    obtain ⟨grows, made⟩ := Tree.makeDirectoriesWithin_spec disk.time (parent.text.length + 1) disk.tree parent
    unfold Tree.makeDirectories
    simp only
    cases result : (Tree.makeDirectoriesWithin disk.time (parent.text.length + 1) disk.tree parent).1 with
    | error fault => exact grows
    | ok value =>
      refine ⟨grows, fun parent' above' some => ?_⟩
      rw [above] at above'
      cases above'
      exact made result some

end Disk

end Waymark
