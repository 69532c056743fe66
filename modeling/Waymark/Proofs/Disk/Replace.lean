import Waymark.Proofs.Tree.Seat

/-! What replacing a file and removing one leave alone. A replaced file stands in its place, or what stood
there stands there still, and whatever the script lets fail nothing else has changed but the temporary
file and directories that were made.
-/

set_option autoImplicit false

namespace Waymark

open OnDisk

variable {a b c tree : Tree} {dir outer k : Location} {places wider : Location → Prop} {path : Path}
  {name : String} {disk : Disk}

namespace OnDisk

variable {ε δ α β : Type}

theorem bind_cases {call : OnDisk ε α} {next : α → OnDisk ε β} {outcome : Except ε β} {after : Disk}
    (h : (call >>= next) disk = (outcome, after)) :
    (∃ error, call disk = (.error error, after) ∧ outcome = .error error) ∨
      ∃ value between, call disk = (.ok value, between) ∧ next value between = (outcome, after) := by
  cases called : call disk with
  | mk first between =>
  cases first with
  | error error =>
    rw [bind_of_error called] at h
    cases h
    exact .inl ⟨error, rfl, rfl⟩
  | ok value =>
    rw [bind_of_ok called] at h
    exact .inr ⟨value, between, rfl, h⟩

theorem adapt_cases {call : OnDisk ε α} {wrap : ε → δ} {outcome : Except δ α} {after : Disk}
    (h : (call.adapt wrap : OnDisk δ α) disk = (outcome, after)) :
    ∃ first, call disk = (first, after) ∧ outcome = first.mapError wrap := by
  cases called : call disk with
  | mk first between =>
  have adapted : (call.adapt wrap : OnDisk δ α) disk = ((call disk).1.mapError wrap, (call disk).2) := rfl
  rw [adapted, called] at h
  cases h
  exact ⟨first, rfl, rfl⟩

theorem bind_ok {call : OnDisk ε α} {next : α → OnDisk ε β} {value : β} {after : Disk}
    (h : (call >>= next) disk = (.ok value, after)) :
    ∃ first between, call disk = (.ok first, between) ∧ next first between = (.ok value, after) := by
  rcases bind_cases h with ⟨error, -, failed⟩ | succeeds
  · cases failed
  · exact succeeds

theorem adapt_ok {call : OnDisk ε α} {wrap : ε → δ} {value : α} {after : Disk}
    (h : (call.adapt wrap : OnDisk δ α) disk = (.ok value, after)) : call disk = (.ok value, after) := by
  obtain ⟨result, called, done⟩ := adapt_cases h
  cases result with
  | error error => cases done
  | ok first =>
    cases done
    exact called

theorem adapt_of_ok {call : OnDisk ε α} {wrap : ε → δ} {value : α} {after : Disk}
    (succeeds : call disk = (.ok value, after)) : (call.adapt wrap : OnDisk δ α) disk = (.ok value, after) := by
  change ((call disk).1.mapError wrap, (call disk).2) = _
  rw [succeeds]
  rfl

theorem adapt_of_error {call : OnDisk ε α} {wrap : ε → δ} {error : ε} {after : Disk}
    (fails : call disk = (.error error, after)) :
    (call.adapt wrap : OnDisk δ α) disk = (.error (wrap error), after) := by
  change ((call disk).1.mapError wrap, (call disk).2) = _
  rw [fails]
  rfl

end OnDisk

namespace Tree

/-- Other files may stand in the places, and where nothing was directories were made on the way to one
of them. -/
structure Touches (dir : Location) (places : Location → Prop) (before after : Tree) : Prop where
  formed : after.Formed
  workingDir : after.workingDir = before.workingDir
  ways : ∀ k n, n.isWay = true → before.node? k = some n → after.node? k = some n
  links : ∀ k target, after.node? k = some (.link target) → before.node? k = some (.link target)
  kept : ∀ k, ¬places k → after.node? k = before.node? k ∨
    k <+: dir ∧ before.node? k = none ∧ after.node? k = some .directory

namespace Touches

theorem refl (dir : Location) (places : Location → Prop) (formed : tree.Formed) :
    Touches dir places tree tree :=
  ⟨formed, rfl, fun _ _ _ there => there, fun _ _ link => link, fun _ _ => .inl rfl⟩

theorem trans (first : Touches dir places a b) (second : Touches dir places b c) :
    Touches dir places a c where
  formed := second.formed
  workingDir := second.workingDir.trans first.workingDir
  ways k n way there := second.ways k n way (first.ways k n way there)
  links k target link := first.links k target (second.links k target link)
  kept k outside := by
    rcases second.kept k outside with same | ⟨above, missing, made⟩
    · rw [same]
      exact first.kept k outside
    · rcases first.kept k outside with same | ⟨-, -, there⟩
      · exact .inr ⟨above, same ▸ missing, made⟩
      · rw [missing] at there
        cases there

theorem mono (h : Touches dir places a b) (above : dir <+: outer) (more : ∀ k, places k → wider k) :
    Touches outer wider a b where
  formed := h.formed
  workingDir := h.workingDir
  ways := h.ways
  links := h.links
  kept k outside := by
    rcases h.kept k fun inside => outside (more k inside) with same | ⟨on, missing, made⟩
    · exact .inl same
    · exact .inr ⟨on.trans above, missing, made⟩

theorem same (h : Touches dir places a b) (outside : ¬places k) (off : ¬k <+: dir) : b.node? k = a.node? k := by
  rcases h.kept k outside with same | ⟨on, -⟩
  · exact same
  · exact absurd on off

theorem keeps (h : Touches dir places a b) (outside : ¬places k) : Tree.Kept a b k :=
  (h.kept k outside).imp_right And.right

theorem free (h : Touches dir places a b) (outside : ¬places k)
    (free : a.node? k = none ∨ a.node? k = some .directory) : b.node? k = none ∨ b.node? k = some .directory := by
  rcases free with missing | directory
  · rcases h.keeps outside with same | ⟨-, made⟩
    · exact .inl (same.trans missing)
    · exact .inr made
  · exact .inr (h.ways k _ rfl directory)

theorem bind {ε α β : Type} {call : OnDisk ε α} {next : α → OnDisk ε β}
    (first : Touches dir places disk.tree (call disk).2.tree)
    (second : ∀ value after, Touches dir places disk.tree after.tree →
      Touches dir places after.tree (next value after).2.tree) :
    Touches dir places disk.tree ((call >>= next) disk).2.tree := by
  cases result : (call >>= next) disk with
  | mk outcome after =>
  rcases bind_cases result with ⟨error, called, -⟩ | ⟨value, between, called, onward⟩
  · rwa [called] at first
  · rw [called] at first
    have rest := second value between first
    rw [onward] at rest
    exact first.trans rest

theorem reaches (h : Touches dir places a b) (reaches : a.Reaches path k)
    (apart : ∀ l, l <+: k → ¬places l) : b.Reaches path k := by
  refine reaches.change h.workingDir h.ways fun l above missing => ?_
  rcases h.keeps (apart l above) with same | ⟨-, made⟩
  · exact .inl (same.trans missing)
  · exact .inr made

end Touches

theorem Within.touches (within : Within dir a b) (grows : Grows a b) : Touches dir places a b where
  formed := within.formed
  workingDir := grows.workingDir
  ways _ _ _ there := grows.keeps there
  links _ _ link := grows.kept link (by simp)
  kept k _ := by
    rcases within.same k with same | above
    · exact .inl same
    · exact (grows.look k).imp_right fun made => ⟨above, made⟩

theorem Laid.touches {slots : List (Path × Slot)} (laid : a.Laid slots b) (formed : a.Formed)
    (inside : ∀ slot ∈ slots, slot.2 ≠ .kept → ∀ k, a.resolve slot.1 false = .ok k → places k) :
    Touches dir places a b where
  formed := laid.formed formed
  workingDir := laid.ways.workingDir
  ways k n way := (laid.ways.look k n way).1
  links k _ := (laid.ways.look k _ rfl).2
  kept k outside := by
    left
    by_cases led : ∃ slot ∈ slots, a.resolve slot.1 false = .ok k
    · obtain ⟨slot, member, led⟩ := led
      have kept : slot.2 = .kept := Classical.byContradiction fun changed =>
        outside (inside slot member changed k led)
      have is := laid.is slot member
      rw [kept] at is
      exact is k led
    · refine laid.frame k fun path member leads => led ?_
      obtain ⟨slot, among, rfl⟩ := List.mem_map.1 member
      exact ⟨slot, among, leads⟩

end Tree

namespace Disk

def Beside (dir : Location) (name : String) (k : Location) : Prop :=
  k = dir ++ [name] ∨ k = dir ++ [name ++ ".tmp"]

theorem beside_of_resolve (seat : tree.Seats path dir name) (led : tree.resolve path false = .ok k) :
    k = dir ++ [name] := by
  have place := (Tree.Grows.refl tree).place? led
  rw [seat.place] at place
  exact (Option.some.inj place).symm

theorem temporary_of_resolve (seat : tree.Seats path dir name)
    (led : tree.resolve path.temporary false = .ok k) : k = dir ++ [name ++ ".tmp"] := by
  have place := (Tree.Grows.refl tree).place? led
  rw [seat.place_temporary] at place
  exact (Option.some.inj place).symm

theorem ne_temporary (dir : Location) (name : String) : dir ++ [name] ≠ dir ++ [name ++ ".tmp"] := by
  intro same
  have same : name = name ++ ".tmp" := by simpa using same
  have length := congrArg (fun text => text.toList.length) same
  simp [String.toList_append] at length

theorem laid_beside (seat : tree.Seats path dir name)
    (unlinked : ∀ k, Beside dir name k → ∀ target, tree.node? k ≠ some (.link target)) :
    tree.Laid [(path, .kept), (path.temporary, .kept)] tree where
  ways := .refl tree
  separate := by
    constructor
    · intro p member k led
      simp only [List.map_cons, List.map_nil, List.mem_cons, List.not_mem_nil, or_false] at member
      rcases member with rfl | rfl
      · exact unlinked k (.inl (beside_of_resolve seat led))
      · exact unlinked k (.inr (temporary_of_resolve seat led))
    · have apart : tree.Apart path path.temporary := by
        intro k led led'
        apply ne_temporary dir name
        rw [← beside_of_resolve seat led, ← temporary_of_resolve seat led']
      simpa using apart
  is slot member := by
    simp only [List.mem_cons, List.not_mem_nil, or_false] at member
    rcases member with rfl | rfl <;> exact fun _ _ => rfl
  frame _ _ := rfl

theorem replaced_meets {base : Tree} (attempts : Nat) (content : ByteArray)
    (laid : base.Laid [(path, .kept), (path.temporary, .kept)] disk.tree) :
    Meets (fun _ after => base.Laid [(path, .holds content), (path.temporary, .gone)] after.tree)
      (fun _ after => base.Laid [(path, .kept), (path.temporary, .unknown)] after.tree)
      ((writeTemporary attempts path content >>= fun _ => renameTemporary attempts path) disk) := by
  have laid : base.Laid ([(path, .kept)] ++ (path.temporary, .kept) :: []) disk.tree := laid
  refine (writeTemporary_meets attempts content laid).bind fun _ after written => ?_
  have written : base.Laid ([] ++ (path, .kept) :: (path.temporary, .holds content) :: []) after.tree := written
  refine (renameTemporary_meets attempts written).mono (fun _ _ renamed => renamed) fun _ after refused => ?_
  have refused : base.Laid ([(path, .kept)] ++ (path.temporary, .holds content) :: []) after.tree := refused
  exact refused.tell trivial

/-- How a replacement ends follows from how the directory is made and from how the file is put in place. What a failure
leaves of the temporary file is removed. -/
theorem replace_ends {P : Unit → Disk → Prop} {Q : FileError → Disk → Prop} {attempts : Nat} {content : ByteArray}
    (refused : ∀ error based, ensureParent path disk = (.error error, based) → Q error based)
    (written : ∀ based, ensureParent path disk = (.ok (), based) →
      Meets P (fun error after => Q error (removeOptional path.temporary after).2)
        ((writeTemporary attempts path content >>= fun _ => renameTemporary attempts path) based)) :
    Meets P Q (replace attempts path content disk) := by
  unfold replace
  cases parent : ensureParent path disk with
  | mk outcome based =>
  cases outcome with
  | error error =>
    rw [bind_of_error parent]
    exact refused error based parent
  | ok value =>
    rw [bind_of_ok parent]
    have ends := written based parent
    dsimp only
    split
    · rename_i after result
      rwa [result] at ends
    · rename_i error after result
      rwa [result] at ends

theorem replace_of_stuck {error : FileError} {attempts : Nat} {content : ByteArray}
    (stuck : ensureParent path disk = (.error error, disk)) :
    replace attempts path content disk = (.error error, disk) :=
  bind_of_error stuck

/-- A file that cannot be replaced is as it was, and one that is leaves no temporary file. -/
theorem replace_meets (attempts : Nat) (content : ByteArray) (seat : disk.tree.Seats path dir name)
    (formed : disk.tree.Formed)
    (unlinked : ∀ k, Beside dir name k → ∀ target, disk.tree.node? k ≠ some (.link target)) :
    Meets
      (fun _ after => Tree.Touches dir (Beside dir name) disk.tree after.tree ∧
        after.tree.node? (dir ++ [name]) = some (.file content) ∧
        after.tree.node? (dir ++ [name ++ ".tmp"]) = none)
      (fun _ after => Tree.Touches dir (· = dir ++ [name ++ ".tmp"]) disk.tree after.tree)
      (replace attempts path content disk) := by
  have within := ensureParent_within seat formed
  have made := ensureParent_meets path disk
  refine replace_ends (fun error based parent => ?_) fun based parent => ?_ <;> rw [parent] at within made
  · exact within.touches made
  · obtain ⟨grows, -⟩ := made
    have seat' := seat.grows grows
    have laid := laid_beside seat' fun k beside target link =>
      unlinked k beside target (grows.kept link (by simp))
    refine (replaced_meets attempts content laid).mono (fun _ after written => ?_) fun _ after left => ?_
    · have touched : Tree.Touches dir (Beside dir name) based.tree after.tree := by
        refine written.touches within.formed fun slot member _ k led => ?_
        simp only [List.mem_cons, List.not_mem_nil, or_false] at member
        rcases member with rfl | rfl
        · exact .inl (beside_of_resolve seat' led)
        · exact .inr (temporary_of_resolve seat' led)
      obtain ⟨k, led, there⟩ := written.is (path, .holds content) List.mem_cons_self
      obtain ⟨l, leads, missing⟩ := written.is (path.temporary, .gone) (by simp)
      rw [beside_of_resolve seat' led] at there
      rw [temporary_of_resolve seat' leads] at missing
      exact ⟨(within.touches grows).trans touched, there, missing⟩
    -- After a failure nothing is known of the temporary file, but it is removed.
    · have left : based.tree.Laid ([(path, .kept)] ++ (path.temporary, .unknown) :: []) after.tree := left
      have cleared := laid_removeOptional left
      refine (within.touches grows).trans (cleared.touches within.formed fun slot member changed k led => ?_)
      simp only [List.cons_append, List.nil_append, List.mem_cons, List.not_mem_nil, or_false] at member
      rcases member with rfl | rfl
      · exact absurd rfl changed
      · exact temporary_of_resolve seat' led

theorem remove_meets (seat : disk.tree.Seats path dir name) (formed : disk.tree.Formed)
    (unlinked : ∀ k, Beside dir name k → ∀ target, disk.tree.node? k ≠ some (.link target)) :
    Meets (fun _ after => Tree.Touches dir (· = dir ++ [name]) disk.tree after.tree)
      (fun _ after => after = disk) (remove path disk) := by
  have laid := laid_beside seat unlinked
  unfold remove settle
  split
  · rename_i after removed
    obtain ⟨l, n, led, there, plain, rfl⟩ := Tree.remove_ok removed
    have laid : disk.tree.Laid ([] ++ (path, .kept) :: [(path.temporary, .kept)]) disk.tree := laid
    have gone := laid_erase laid led there plain
    refine gone.touches formed fun slot member changed k led => ?_
    simp only [List.nil_append, List.mem_cons, List.not_mem_nil, or_false] at member
    rcases member with rfl | rfl
    · exact beside_of_resolve seat led
    · exact absurd rfl changed
  · rfl

end Disk

end Waymark
