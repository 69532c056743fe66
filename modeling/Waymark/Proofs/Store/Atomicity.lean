import Mathlib.Control.Monad.Basic
import Mathlib.Data.List.Pairwise
import Waymark.Proofs.Store.Transaction

/-! What a commit leaves of the tree that it started from, for every script of failures. -/

set_option autoImplicit false

namespace Waymark.Transaction

/-- The targets and their temporary files are files of their own: no two of these paths lead to one
place, and none of them to a link. -/
structure Apart (tree : Tree) (staged : List Staged) : Prop where
  grounded : tree.node? tree.workingDir = some .directory
  distinct : ((paths staged).filterMap tree.place?).Nodup
  unlinked : ∀ path ∈ paths staged, ∀ k ∈ tree.place? path, ∀ target, tree.node? k ≠ some (.link target)

def Passed (tree : Tree) (staged : List Staged) (k : Location) : Prop :=
  ∃ file ∈ staged, ∃ dir, Tree.Above dir file.target ∧ tree.place? dir = some k

/-- A place is as before, unless nothing stood there and a directory was made on the way to a target. -/
def Stays (before : Tree) (staged : List Staged) (after : Tree) (k : Location) : Prop :=
  after.node? k = before.node? k ∨
    before.node? k = none ∧ after.node? k = some .directory ∧ Passed before staged k

/-- Every target has its content, and no temporary file is left. -/
structure Committed (before : Tree) (staged : List Staged) (after : Tree) : Prop where
  targets : ∀ file ∈ staged, after.read file.target = .ok file.content
  temporaries : ∀ file ∈ staged, ∀ k ∈ before.place? file.target.temporary, after.node? k = none
  others : ∀ k, (∀ path ∈ paths staged, before.place? path ≠ some k) → Stays before staged after k

/-- Everything is as before, but for temporary files that are no longer there. -/
structure Undone (before : Tree) (staged : List Staged) (after : Tree) : Prop where
  kept : ∀ k, (∀ file ∈ staged, before.place? file.target.temporary ≠ some k) →
    Stays before staged after k
  temporaries : ∀ file ∈ staged, ∀ k ∈ before.place? file.target.temporary,
    Stays before staged after k ∨ after.node? k = none

/-- Every target is as before or has its content, and only temporary files differ besides. -/
structure Torn (before : Tree) (staged : List Staged) (after : Tree) : Prop where
  targets : ∀ file ∈ staged, ∀ k ∈ before.place? file.target,
    Stays before staged after k ∨ after.node? k = some (.file file.content)
  others : ∀ k, (∀ path ∈ paths staged, before.place? path ≠ some k) → Stays before staged after k

inductive Outcome (before : Tree) (staged : List Staged) : Except StoreError Unit × Disk → Prop where
  | committed {after : Disk} (left : Committed before staged after.tree) :
    Outcome before staged (.ok (), after)
  /-- Only directories were made. -/
  | unstaged {cause : FileError} {after : Disk} (left : ∀ k, Stays before staged after.tree k) :
    Outcome before staged (.error (.io cause), after)
  | undone {path : Path} {cause : FileError} {after : Disk} (left : Undone before staged after.tree) :
    Outcome before staged (.error (.transaction path cause true), after)
  | torn {path : Path} {cause : FileError} {after : Disk} (left : Torn before staged after.tree) :
    Outcome before staged (.error (.transaction path cause false), after)

variable {tree base after : Tree} {staged : List Staged} {k : Location}

theorem Apart.separate (apart : Apart tree staged) (grows : tree.Grows base) :
    base.Separate (paths staged) where
  unlinked path member k led target link :=
    apart.unlinked path member k (grows.place? led) target (grows.kept link (by simp))
  apart := by
    have distinct := List.pairwise_filterMap.1 apart.distinct
    refine distinct.imp fun differ k led led' => ?_
    exact differ k (grows.place? led) k (grows.place? led') rfl

theorem stays_makeDirectory {dir : Path} {file : Staged} {time : Nat} (member : file ∈ staged)
    (above : Tree.Above dir file.target) (grows : tree.Grows base) (stays : ∀ k, Stays tree staged base k)
    (made : base.makeDirectory dir time = .ok after) : tree.Grows after ∧ ∀ k, Stays tree staged after k := by
  obtain ⟨l, led, missing, rfl⟩ := Tree.makeDirectory_ok made
  have inside : l ≠ [] := by
    rintro rfl
    cases missing
  refine ⟨grows.trans (.put base missing), fun k => ?_⟩
  rw [Stays, Tree.node?_put base l k _ inside]
  split
  · rename_i here
    have before : tree.node? l = none := by
      rcases stays l with same | ⟨before, -⟩
      · exact same.symm.trans missing
      · exact before
    rw [here]
    exact .inr ⟨before, rfl, file, member, dir, above, grows.place? led⟩
  · exact stays k

theorem stays_captured (staged : List Staged) (disk : Disk) :
    ∀ k, Stays disk.tree staged (captured staged disk) k := by
  suffices kept : disk.tree.Grows (captured staged disk) ∧ ∀ k, Stays disk.tree staged (captured staged disk) k from
    kept.2
  refine captured_keeps (I := fun tree => disk.tree.Grows tree ∧ ∀ k, Stays disk.tree staged tree k)
    (fun file member between start => ?_) ⟨.refl _, fun _ => .inl rfl⟩
  unfold Disk.ensureParent
  split
  · exact start
  · rename_i parent up
    exact Tree.makeDirectoriesWithin_along (P := fun dir => Tree.Above dir file.target)
      (fun _ _ above => above.further) (fun _ _ _ above start => stays_makeDirectory member above start.1 start.2) _
      (.parent up) start

theorem Stays.of_same (stays : Stays tree staged base k) (same : after.node? k = base.node? k) :
    Stays tree staged after k := by
  unfold Stays at stays ⊢
  rwa [same]

theorem stays_or_slot {slots : List (Path × Slot)} (stays : ∀ k, Stays tree staged base k)
    (laid : base.Laid slots after) (k : Location) :
    Stays tree staged after k ∨ ∃ slot ∈ slots, base.resolve slot.1 false = .ok k := by
  by_cases led : ∃ slot ∈ slots, base.resolve slot.1 false = .ok k
  · exact .inr led
  · refine .inl ((stays k).of_same (laid.frame k fun path member leads => led ?_))
    obtain ⟨slot, inside, rfl⟩ := List.mem_map.1 member
    exact ⟨slot, inside, leads⟩

theorem stays_outside {target temporary : Staged → Slot} (grows : tree.Grows base)
    (stays : ∀ k, Stays tree staged base k) (laid : base.Laid (slots target temporary staged) after)
    (outside : ∀ path ∈ paths staged, tree.place? path ≠ some k) : Stays tree staged after k := by
  rcases stays_or_slot stays laid k with kept | ⟨slot, member, led⟩
  · exact kept
  · have member : slot.1 ∈ paths staged := paths_slots ▸ List.mem_map_of_mem member
    exact absurd (grows.place? led) (outside slot.1 member)

theorem slot_unique {slots : List (Path × Slot)} {x y : Path × Slot}
    (distinct : ((slots.map Prod.fst).filterMap tree.place?).Nodup) (here : x ∈ slots) (there : y ∈ slots)
    (place : tree.place? x.1 = some k) (place' : tree.place? y.1 = some k) : x = y := by
  have apart := List.pairwise_map.1 (List.pairwise_filterMap.1 distinct)
  have : Std.Symm fun x y : Path × Slot => ∀ k, tree.place? x.1 = some k →
      ∀ k', tree.place? y.1 = some k' → k ≠ k' := ⟨fun _ _ differ k led k' led' => (differ k' led' k led).symm⟩
  by_contra differ
  exact apart.forall here there differ k place k place' rfl

theorem committed_of_laid (grows : tree.Grows base) (stays : ∀ k, Stays tree staged base k)
    (laid : base.Laid (slots content (fun _ => .gone) staged) after) : Committed tree staged after where
  targets file member := by
    obtain ⟨k, led, there⟩ := laid.is (file.target, content file) (mem_slots.2 ⟨file, member, .inl rfl⟩)
    have stays := laid.ways.resolve.1 led
    exact Tree.read_of_node (Tree.resolve_follow (by simp [there]) stays) there
  temporaries file member k place := by
    obtain ⟨k', led, missing⟩ := laid.is (file.target.temporary, .gone) (mem_slots.2 ⟨file, member, .inr rfl⟩)
    rw [Option.mem_def, grows.place? led] at place
    cases place
    exact missing
  others k outside := stays_outside grows stays laid outside

theorem undone_of_laid (grows : tree.Grows base) (stays : ∀ k, Stays tree staged base k)
    (laid : base.Laid (slots (fun _ => .kept) (fun _ => .cleared) staged) after) :
    Undone tree staged after := by
  have cases : ∀ k, Stays tree staged after k ∨ (after.node? k = none ∧
      ∃ file ∈ staged, tree.place? file.target.temporary = some k) := by
    intro k
    rcases stays_or_slot stays laid k with kept | ⟨slot, member, led⟩
    · exact .inl kept
    obtain ⟨file, staged, rfl | rfl⟩ := mem_slots.1 member
    · exact .inl ((stays k).of_same (laid.is _ member k led))
    · rcases laid.is _ member k led with gone | same
      · exact .inr ⟨gone, file, staged, grows.place? led⟩
      · exact .inl ((stays k).of_same same)
  constructor
  · intro k outside
    rcases cases k with kept | ⟨-, file, member, place⟩
    · exact kept
    · exact absurd place (outside file member)
  · exact fun file member k place => (cases k).imp_right And.left

theorem torn_of_laid {temporary : Staged → Slot} (grows : tree.Grows base) (stays : ∀ k, Stays tree staged base k)
    (distinct : ((paths staged).filterMap tree.place?).Nodup)
    (laid : base.Laid (slots (fun file => .either file.content) temporary staged) after) :
    Torn tree staged after where
  targets file member k place := by
    rcases stays_or_slot stays laid k with kept | ⟨slot, other, led⟩
    · exact .inl kept
    have here : (file.target, Slot.either file.content) ∈
        slots (fun file => .either file.content) temporary staged :=
      mem_slots.2 ⟨file, member, .inl rfl⟩
    obtain rfl := slot_unique (by rwa [paths_slots]) other here (grows.place? led) place
    exact (laid.is _ other k led).imp_left (stays k).of_same
  others k outside := stays_outside grows stays laid outside

/-- A commit is all or nothing, whichever writes and renamings fail and however often. -/
theorem commit_atomic (attempts : Nat) (staged : List Staged) (disk : Disk)
    (apart : Apart disk.tree staged) : Outcome disk.tree staged (commit attempts staged disk) := by
  have grows := grows_captured staged disk
  have stays := stays_captured staged disk
  have ends := commit_meets attempts apart.grounded (apart.separate grows)
  cases result : commit attempts staged disk with
  | mk outcome after =>
    rw [result] at ends
    cases outcome with
    | ok value => exact .committed (committed_of_laid grows stays ends)
    | error error =>
      rcases ends with ⟨⟨cause, rfl⟩, same⟩ | ⟨path, cause, restored, rfl, laid⟩
      · exact .unstaged (same ▸ stays)
      · cases restored with
        | true => exact .undone (undone_of_laid grows stays laid)
        | false => exact .torn (torn_of_laid grows stays apart.distinct laid)

def twoFiles : List Staged := [⟨⟨"a"⟩, ⟨#[2]⟩⟩, ⟨⟨"d/b"⟩, ⟨#[3]⟩⟩]

def secondRenameFails : Disk :=
  ⟨⟨[(["a"], ⟨.file ⟨#[1]⟩, 0⟩)], []⟩, .ofNumbers [] [2] .permissionDenied, [], 0⟩

theorem commit_atomic_second_rename : Apart secondRenameFails.tree twoFiles ∧
    Outcome secondRenameFails.tree twoFiles (commit 3 twoFiles secondRenameFails) := by
  have apart : Apart secondRenameFails.tree twoFiles := by
    refine ⟨rfl, by decide +kernel, fun path _ k _ target link => ?_⟩
    by_cases root : k = []
    · subst root; cases link
    · simp only [Tree.node?_eq_item? _ root, Tree.item?, secondRenameFails, List.lookup_cons] at link
      split at link <;> cases link
  exact ⟨apart, commit_atomic 3 twoFiles secondRenameFails apart⟩

/-- A disk on which a link leads from the temporary file of one target to another one. -/
def crossed : Disk :=
  ⟨⟨[(["b"], ⟨.file ⟨#[1]⟩, 0⟩), (["a.tmp"], ⟨.link ⟨"b"⟩, 0⟩)], []⟩, .ofNumbers [2] [] .permissionDenied, [], 0⟩

/-- A disk on which a target is a link to its own temporary file. -/
def knotted : Disk :=
  ⟨⟨[(["a.tmp"], ⟨.file ⟨#[1]⟩, 0⟩), (["a"], ⟨.link ⟨"a.tmp"⟩, 0⟩)], []⟩, .ofNumbers [1] [] .permissionDenied, [], 0⟩

/-- Links are not looked for. What goes to a temporary file goes through a link in its place, and a target that
leads to a temporary file goes with it, so a commit that is rolled back can leave another target. And where one
target lies below another, the directory that is made for it stays. -/
theorem rollback_changes_targets :
    ((commit 3 [⟨⟨"a"⟩, ⟨#[2]⟩⟩, ⟨⟨"b"⟩, ⟨#[3]⟩⟩] crossed).1 =
        .error (.transaction ⟨"b"⟩ ⟨.permissionDenied, some Disk.writeFailure⟩ true) ∧
      crossed.tree.read ⟨"b"⟩ = .ok ⟨#[1]⟩ ∧
      (commit 3 [⟨⟨"a"⟩, ⟨#[2]⟩⟩, ⟨⟨"b"⟩, ⟨#[3]⟩⟩] crossed).2.tree.read ⟨"b"⟩ = .ok ⟨#[2]⟩) ∧
    ((commit 3 [⟨⟨"a"⟩, ⟨#[2]⟩⟩] knotted).1 =
        .error (.transaction ⟨"a"⟩ ⟨.permissionDenied, some Disk.writeFailure⟩ true) ∧
      knotted.tree.read ⟨"a"⟩ = .ok ⟨#[1]⟩ ∧
      (commit 3 [⟨⟨"a"⟩, ⟨#[2]⟩⟩] knotted).2.tree.read ⟨"a"⟩ = .error .notFound) ∧
    (commit 3 [⟨⟨"d"⟩, ⟨#[2]⟩⟩, ⟨⟨"d/b"⟩, ⟨#[3]⟩⟩] (.ofTree .empty 0)).1 =
        .error (.transaction ⟨"d"⟩ (.ofFault .isDirectory) true) ∧
      (commit 3 [⟨⟨"d"⟩, ⟨#[2]⟩⟩, ⟨⟨"d/b"⟩, ⟨#[3]⟩⟩] (.ofTree .empty 0)).2.tree.node? ["d"] = some .directory := by
  decide +kernel

end Waymark.Transaction
