import Waymark.Proofs.Disk.Attempts
import Waymark.Proofs.Tree.Proper
import Waymark.Proofs.Tree.Seat

/-! How a file is replaced, call by call: the temporary file is written until a write succeeds, fails for good
or is the last one allowed, and if it was written it is given its name in the same way. Either the file is replaced
or nothing has changed, and no temporary file is left.
-/

set_option autoImplicit false

namespace Waymark

open OnDisk

variable {base tree after : Tree} {path : Path} {l : Location} {content : ByteArray} {x : Slot} {attempts : Nat}
  {disk based written : Disk} {result : Except FileError Unit × Disk}

namespace Tree

/-- Neither a link nor a directory stands in the place of a path. -/
def Bare (tree : Tree) (path : Path) : Prop :=
  ∀ k, tree.resolve path false = .ok k → ∀ n ∈ tree.node? k, n.isWay = false

theorem Bare.unlinked (bare : tree.Bare path) : tree.Unlinked path := by
  intro k led target link
  cases bare k led _ link

/-- The temporary file of a path is gone, and all else is as it was. -/
structure Cleared (base : Tree) (path : Path) (after : Tree) : Prop where
  temporary : ∀ k, base.resolve path.temporary false = .ok k → after.node? k = none
  target : ∀ k, base.resolve path false = .ok k → after.node? k = base.node? k
  other : ∀ k, base.resolve path.temporary false ≠ .ok k → after.node? k = base.node? k

/-- A path has a content, its temporary file is gone, and all else is as it was. -/
structure Replaced (base : Tree) (path : Path) (content : ByteArray) (after : Tree) : Prop where
  target : ∃ k, base.resolve path false = .ok k ∧ after.node? k = some (.file content)
  /-- A link in the place of the path is replaced like a file. -/
  read : base.Unlinked path → after.read path = .ok content
  temporary : ∀ k, base.resolve path.temporary false = .ok k → after.node? k = none
  other : ∀ k, base.resolve path false ≠ .ok k → base.resolve path.temporary false ≠ .ok k →
    after.node? k = base.node? k

theorem Formed.ne_temporary (formed : base.Formed) (bare : base.Bare path.temporary) {d : Location}
    (led : base.resolve path.temporary false = .ok l) (leads : base.resolve path false = .ok d) : d ≠ l := by
  rintro rfl
  by_cases named : ∃ name, path.steps.getLast? = some name ∧ IsName name
  · obtain ⟨name, ends, isName⟩ := named
    have isFile := Path.isFileName_of_fileName? (Path.fileName?_of_getLast? isName ends)
    have first := getLast?_of_walkWithin isName ends (locate_ok.1 leads).2
    have second := getLast?_of_walkWithin (Path.isFileName_temporary isFile).isName
      (Path.getLast?_steps_temporary_of_name isName ends) (locate_ok.1 led).2
    rw [first, Option.some.injEq] at second
    have length := congrArg (fun text => text.toList.length) second
    simp [String.toList_append] at length
  · have directory := formed.directory_of_resolve (fun last ends isName => named ⟨last, ends, isName⟩) leads
    cases bare d led _ directory

theorem Replaced.of_rename (formed : base.Formed) (bare : base.Bare path.temporary)
    (laid : base.Laid [(path.temporary, .holds content)] tree)
    (renamed : tree.rename path.temporary path = .ok after) : base.Replaced path content after := by
  have slot : base.Laid ([] ++ (path.temporary, .holds content) :: []) tree := laid
  obtain ⟨l, led, there⟩ := slot.here
  have here := slot.resolve.2 led
  obtain ⟨d, taken, leads, notDirectory, take, put⟩ := Tree.rename_ok renamed here there
  have leads := laid.ways.resolve.2 leads
  have apart := formed.ne_temporary bare led leads
  refine ⟨⟨d, leads, put.same⟩, fun unlinked => ?_, fun k led' => ?_, fun k notTarget notTemporary => ?_⟩
  · have was : ∀ n ∈ taken.node? d, n.isWay = false := by
      intro n standing
      rw [take.other apart] at standing
      cases n with
      | directory => exact absurd standing notDirectory
      | link link => exact absurd ((laid.ways.look d _ rfl).2 standing) (unlinked d leads link)
      | file _ | locked _ => rfl
    -- No link and no directory has come or gone, so the path still leads to its place.
    have ways : base.SameWays after :=
      laid.ways.trans ((SameWays.sets take (by simp [there, Node.isWay]) (by simp)).trans
        (SameWays.sets put was (by simp [Node.isWay])))
    exact read_of_node (resolve_follow (by simp [put.same]) (ways.resolve.1 leads)) put.same
  · rw [led, Except.ok.injEq] at led'
    rw [← led', put.other apart.symm, take.same]
  · have ne : k ≠ d ∧ k ≠ l := ⟨fun same => notTarget (same ▸ leads), fun same => notTemporary (same ▸ led)⟩
    rw [put.other ne.1, take.other ne.2]
    exact laid.frame k (by simpa using notTemporary)

end Tree

namespace Disk

open Waymark.Tree (Cleared Replaced)

theorem node_of_removeOptional (led : disk.tree.resolve path false = .ok l)
    (was : ∀ n ∈ disk.tree.node? l, n.isWay = false) : (removeOptional path disk).2.tree.node? l = none := by
  unfold removeOptional settle
  cases there : disk.tree.node? l with
  | some n =>
    have notDirectory : n ≠ .directory := by
      rintro rfl
      cases was _ there
    have inside : l ≠ [] := by
      rintro rfl
      rw [Tree.node?_root] at there
      exact notDirectory (Option.some.inj there).symm
    rw [Tree.removeOptional_of_node led there notDirectory]
    exact (Tree.Sets.erase disk.tree inside).same
  | none =>
    cases removed : disk.tree.removeOptional path with
    | error fault => exact there
    | ok after =>
      rcases Tree.removeOptional_ok removed with rfl | ⟨k, n, leads, standing, -⟩
      · exact there
      · rw [led, Except.ok.injEq] at leads
        rw [← leads, there] at standing
        cases standing

theorem calls_removeOptional (path : Path) (disk : Disk) : (removeOptional path disk).2.calls = disk.calls := by
  unfold removeOptional settle
  split <;> rfl

theorem cleared_of_removeOptional (formed : base.Formed) (bare : base.Bare path.temporary)
    (laid : base.Laid [(path.temporary, x)] disk.tree) :
    base.Cleared path (removeOptional path.temporary disk).2.tree := by
  have slot : base.Laid ([] ++ (path.temporary, x) :: []) disk.tree := laid
  have frame := (laid_removeOptional slot).frame
  have other : ∀ k, base.resolve path.temporary false ≠ .ok k →
      (removeOptional path.temporary disk).2.tree.node? k = base.node? k :=
    fun k notTemporary => frame k (by simpa using notTemporary)
  refine ⟨fun k led => ?_, fun k leads => other k fun led => formed.ne_temporary bare led leads rfl, other⟩
  refine node_of_removeOptional (laid.ways.resolve.1 led) fun n there => ?_
  cases way : n.isWay with
  | false => rfl
  | true => exact way ▸ bare k led n ((laid.ways.look k n way).2 there)

structure Written (attempts : Nat) (path : Path) (content : ByteArray) (based written : Disk) : Prop where
  ends : writeTemporary attempts path content based = (.ok (), written)
  last : ∃ writes, LastTry (based.writeOutcome path.temporary content) (max attempts 1) writes ∧
    based.writeOutcome path.temporary content writes = none ∧
    written.calls = record (based.writeCall path.temporary) (writes + 1) ++ based.calls
  script : written.script = based.script
  laid : based.tree.Laid [(path.temporary, .holds content)] written.tree

/-- How a file is replaced on a disk, with the calls that are made. -/
inductive Course (attempts : Nat) (path : Path) (content : ByteArray) (based : Disk) :
    Except FileError Unit × Disk → Prop where
  /-- The last write fails. -/
  | unwritten {writes : Nat} {error : FileError} {after : Disk}
    (last : LastTry (based.writeOutcome path.temporary content) (max attempts 1) writes)
    (failed : based.writeOutcome path.temporary content writes = some error)
    (calls : after.calls = record (based.writeCall path.temporary) (writes + 1) ++ based.calls)
    (cleared : Cleared based.tree path after.tree) : Course attempts path content based (.error error, after)
  /-- The last renaming fails. -/
  | unnamed {renames : Nat} {error : FileError} {written after : Disk}
    (done : Written attempts path content based written)
    (last : LastTry (written.renameOutcome path.temporary path) (max attempts 1) renames)
    (failed : written.renameOutcome path.temporary path renames = some error)
    (calls : after.calls = record (written.renameCall path) (renames + 1) ++ written.calls)
    (cleared : Cleared based.tree path after.tree) : Course attempts path content based (.error error, after)
  | replaced {renames : Nat} {written after : Disk}
    (done : Written attempts path content based written)
    (last : LastTry (written.renameOutcome path.temporary path) (max attempts 1) renames)
    (named : written.renameOutcome path.temporary path renames = none)
    (calls : after.calls = record (written.renameCall path) (renames + 1) ++ written.calls)
    (replaced : Replaced based.tree path content after.tree) : Course attempts path content based (.ok (), after)

def Succeeds (outcome : Nat → Option FileError) (attempts : Nat) : Prop :=
  ∃ index, LastTry outcome (max attempts 1) index ∧ outcome index = none

/-- Nothing but the outcomes of the last attempts decides whether the file is replaced. -/
theorem Course.ok_iff (course : Course attempts path content based result) : result.1 = .ok () ↔
    Succeeds (based.writeOutcome path.temporary content) attempts ∧
      ∃ written, Written attempts path content based written ∧
        Succeeds (written.renameOutcome path.temporary path) attempts := by
  constructor
  · intro ok
    cases course with
    | unwritten _ _ _ _ | unnamed _ _ _ _ _ => cases ok
    | replaced done last named _ _ =>
      obtain ⟨writes, first, succeeds, -⟩ := done.last
      exact ⟨⟨writes, first, succeeds⟩, _, done, _, last, named⟩
  · -- The last attempts are determined, and so is the disk between the writes and the renamings.
    rintro ⟨⟨writes, first, succeeds⟩, other, done', renames', second, named⟩
    cases course with
    | unwritten last failed _ _ =>
      rw [last.unique first, succeeds] at failed
      cases failed
    | unnamed done last failed _ _ =>
      obtain rfl : _ = other := congrArg Prod.snd (done.ends.symm.trans done'.ends)
      rw [last.unique second, named] at failed
      cases failed
    | replaced => rfl

theorem ensureParent_leaves (path : Path) (disk : Disk) :
    (ensureParent path disk).2.script = disk.script ∧ (ensureParent path disk).2.calls = disk.calls := by
  unfold ensureParent
  split <;> exact ⟨rfl, rfl⟩

theorem replace_based (made : ensureParent path disk = (.ok (), based)) :
    replace attempts path content disk =
      match (writeTemporary attempts path content >>= fun _ => renameTemporary attempts path) based with
      | (.ok (), after) => (.ok (), after)
      | (.error error, after) => (.error error, (removeOptional path.temporary after).2) := by
  unfold replace
  exact bind_of_ok made

theorem course_of_replace (formed : based.tree.Formed) (bare : based.tree.Bare path.temporary)
    (made : ensureParent path disk = (.ok (), based)) :
    Course attempts path content based (replace attempts path content disk) := by
  rw [replace_based made]
  obtain ⟨writes, lastWrite, result, ends⟩ := writeTemporary_tries attempts content bare.unlinked
  cases wrote : writeTemporary attempts path content based with
  | mk outcome written =>
  rw [wrote] at result ends
  -- The last write decides whether there is anything to rename, and the last renaming whether it is in place.
  cases out : based.writeOutcome path.temporary content writes with
  | some error =>
    rw [out] at result
    obtain rfl : outcome = .error error := result
    rw [bind_of_error wrote]
    refine .unwritten lastWrite out ?_ (cleared_of_removeOptional formed bare ends.laid)
    rw [calls_removeOptional, ends.calls]
  | none =>
    rw [out] at result
    obtain rfl : outcome = .ok () := result
    rw [bind_of_ok wrote]
    have done : Written attempts path content based written :=
      ⟨wrote, ⟨writes, lastWrite, out, ends.calls⟩, ends.script, ends.laid⟩
    obtain ⟨renames, lastRename, result, ends⟩ := renameTemporary_tries attempts path written
    cases named : renameTemporary attempts path written with
    | mk outcome after =>
    rw [named] at result ends
    cases out : written.renameOutcome path.temporary path renames with
    | some error =>
      rw [out] at result
      obtain rfl : outcome = .error error := result
      have laid : based.tree.Laid [(path.temporary, .holds content)] after.tree := ends.tree ▸ done.laid
      refine .unnamed done lastRename out ?_ (cleared_of_removeOptional formed bare laid)
      rw [calls_removeOptional, ends.calls]
    | none =>
      rw [out] at result
      obtain rfl : outcome = .ok () := result
      exact .replaced done lastRename out ends.calls (.of_rename formed bare done.laid ends.tree)

/-- Replacing a file makes no more calls than are allowed. It succeeds if the last write and the last renaming do, and
otherwise its error is that of the last call. -/
theorem replace_bounded (attempts : Nat) (content : ByteArray) (formed : disk.tree.Formed)
    (made : ensureParent path disk = (.ok (), based)) (bare : based.tree.Bare path.temporary) :
    disk.tree.Grows based.tree ∧ based.script = disk.script ∧ based.calls = disk.calls ∧
      Course attempts path content based (replace attempts path content disk) ∧
      ((replace attempts path content disk).1 = .ok () ↔
        Succeeds (based.writeOutcome path.temporary content) attempts ∧
          ∃ written, Written attempts path content based written ∧
            Succeeds (written.renameOutcome path.temporary path) attempts) := by
  have grown := ensureParent_meets path disk
  have formed := formed.ensureParent path
  obtain ⟨script, calls⟩ := ensureParent_leaves path disk
  rw [made] at grown formed script calls
  have course : Course attempts path content based (replace attempts path content disk) :=
    course_of_replace formed bare made
  exact ⟨grown.1, script, calls, course, course.ok_iff⟩

/-- A disk with one file. The first write fails in passing and leaves something behind, and the first renaming
fails in passing too. -/
def flaky : Disk where
  tree := ⟨[(["a"], ⟨.file ⟨#[1]⟩, 0⟩)], []⟩
  script := {
    write n := if n = 1 then some ⟨.interrupted, some ⟨#[9]⟩⟩ else none
    rename n := if n = 1 then some .timedOut else none }
  calls := []
  time := 1

theorem replace_bounded_flaky : flaky.tree.Formed ∧ ensureParent ⟨"a"⟩ flaky = (.ok (), flaky) ∧
    flaky.tree.Bare (Path.temporary ⟨"a"⟩) ∧ Course 2 ⟨"a"⟩ ⟨#[2]⟩ flaky (replace 2 ⟨"a"⟩ ⟨#[2]⟩ flaky) ∧
    (replace 2 ⟨"a"⟩ ⟨#[2]⟩ flaky).1 = .ok () := by
  have proper : flaky.tree.Proper := by apply Tree.Proper.of_items <;> decide
  have made : ensureParent ⟨"a"⟩ flaky = (.ok (), flaky) := by rfl
  have bare : flaky.tree.Bare (Path.temporary ⟨"a"⟩) := by
    intro k led n there
    have place : flaky.tree.resolve (Path.temporary ⟨"a"⟩) false = .ok ["a.tmp"] := by rfl
    rw [place, Except.ok.injEq] at led
    subst led
    cases there
  exact ⟨proper.formed, made, bare, (replace_bounded 2 ⟨#[2]⟩ proper.formed made bare).2.2.2.1, by rfl⟩

/-- A disk with a file and a link to it in the place of its temporary file, on which the first renaming fails. -/
def linked : Disk where
  tree := ⟨[(["a"], ⟨.file ⟨#[1]⟩, 0⟩), (["a.tmp"], ⟨.link ⟨"a"⟩, 0⟩)], []⟩
  script := .ofNumbers [] [1] .permissionDenied
  calls := []
  time := 1

/-- A link in the place of the temporary file is written through, so the file is another one after the failure. -/
theorem replace_through_link : (ensureParent ⟨"a"⟩ linked).1 = .ok () ∧
    linked.tree.read ⟨"a"⟩ = .ok ⟨#[1]⟩ ∧
    (replace 3 ⟨"a"⟩ ⟨#[2]⟩ linked).1 = .error ⟨.permissionDenied, renameFailure⟩ ∧
    (replace 3 ⟨"a"⟩ ⟨#[2]⟩ linked).2.tree.node? ["a.tmp"] = none ∧
    (replace 3 ⟨"a"⟩ ⟨#[2]⟩ linked).2.tree.read ⟨"a"⟩ = .ok ⟨#[2]⟩ := by
  refine ⟨?_, ?_, ?_, ?_, ?_⟩ <;> rfl

end Disk

end Waymark
