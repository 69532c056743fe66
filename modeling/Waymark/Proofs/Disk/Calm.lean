import Waymark.Proofs.Disk.Keeps

/-! A disk on which nothing fails. A file is replaced there if its directory is there, no directory stands in
its place and nothing in the place of its temporary file.
-/

set_option autoImplicit false

namespace Waymark

open OnDisk

variable {tree : Tree} {disk : Disk} {path source target : Path} {dir l d : Location} {name : String}
  {content : ByteArray}

namespace Tree

theorem makeDirectories_of_directory (directory : tree.isDirectory path = true) (time : Nat) :
    (tree.makeDirectories path time).1 = .ok () := by
  obtain ⟨d, led, -⟩ := isDirectory_iff.1 directory
  obtain ⟨k, stays⟩ := resolve_stay led
  unfold makeDirectories makeDirectoriesWithin
  split
  · rfl
  split
  · rfl
  · rename_i missing
    have missing := resolve_of_makeDirectory missing
    rw [stays] at missing
    cases missing
  · rw [settleDirectory, if_pos directory]

namespace Seats

theorem resolve_of_directory (h : tree.Seats path dir name) (formed : tree.Formed)
    (directory : tree.node? dir = some .directory) : tree.resolve path false = .ok (dir ++ [name]) := by
  obtain ⟨outer, rfl, reaches, isFile⟩ := h
  exact reaches.resolve_join isFile formed directory

theorem resolve_temporary (h : tree.Seats path dir name) (formed : tree.Formed)
    (directory : tree.node? dir = some .directory) :
    tree.resolve path.temporary false = .ok (dir ++ [name ++ ".tmp"]) := by
  obtain ⟨outer, rfl, reaches, isFile⟩ := h
  obtain ⟨parent, n, same, names, absolute⟩ := Path.temporary_join outer isFile
  rw [same]
  refine Reaches.resolve_join ?_ (Path.isFileName_temporary isFile) formed directory
  unfold Reaches at reaches ⊢
  rw [names, ← absolute] at reaches
  exact reaches.stripAll

end Seats

end Tree

namespace Disk

theorem ensureParent_calm (seat : disk.tree.Seats path dir name) (formed : disk.tree.Formed)
    (directory : disk.tree.node? dir = some .directory) : (ensureParent path disk).1 = .ok () := by
  obtain ⟨outer, rfl, reaches, isFile⟩ := seat
  obtain ⟨parent, n, above, names, top, same⟩ := Path.parent?_join outer isFile
  unfold ensureParent
  rw [above]
  have made : (disk.tree.makeDirectories parent disk.time).1 = .ok () := by
    by_cases empty : parent.text = ""
    · simp [Tree.makeDirectories, Tree.makeDirectoriesWithin, empty]
    · apply Tree.makeDirectories_of_directory
      have reaches : disk.tree.Reaches parent dir := by
        unfold Tree.Reaches at reaches ⊢
        rw [names, ← same empty] at reaches
        exact reaches.stripAll
      exact Tree.isDirectory_iff.2 ⟨dir, reaches.resolve_directory formed directory empty, directory⟩
  dsimp only
  rw [made]
  rfl

theorem retry_of_ok {α : Type} {call : OnDisk FileError α} {value : α} {after : Disk} (attempts : Nat)
    (succeeds : call disk = (.ok value, after)) : retry attempts call disk = (.ok value, after) := by
  unfold retry
  cases attempts - 1 with
  | zero => exact succeeds
  | succ more =>
    rw [retryMore]
    dsimp only
    rw [succeeds]

theorem write_calm (content : ByteArray) (calm : disk.script = .none) (led : disk.tree.resolve path true = .ok l)
    (missing : disk.tree.node? l = none) : ∃ after, write path content disk = (.ok (), after) ∧
      after.script = .none ∧ Tree.Sets disk.tree l (some (.file content)) after.tree := by
  have written : disk.tree.write path content disk.time = .ok (disk.tree.put l ⟨.file content, disk.time⟩) := by
    rw [Tree.write, led]
    simp only [bind, Except.bind, missing]
    rfl
  have inside : l ≠ [] := by
    rintro rfl
    simp at missing
  have put : Tree.Sets disk.tree l (some (.file content)) (disk.tree.put l ⟨.file content, disk.time⟩) :=
    .put disk.tree ⟨.file content, disk.time⟩ inside
  obtain ⟨tree, script, calls, time⟩ := disk
  obtain rfl : script = .none := calm
  refine ⟨⟨tree.put l ⟨.file content, time⟩, .none, .write path false :: calls, time + 1⟩, ?_, rfl, put⟩
  unfold write
  dsimp only [FailureScript.none] at written ⊢
  rw [written]
  rfl

theorem rename_calm (calm : disk.script = .none) (led : disk.tree.resolve source false = .ok l)
    (there : disk.tree.node? l = some (.file content)) (leads : disk.tree.resolve target false = .ok d)
    (free : disk.tree.node? d ≠ some .directory) : ∃ after, rename source target disk = (.ok (), after) ∧
      after.script = .none ∧ disk.tree.rename source target = .ok after.tree := by
  have inside : l ≠ [] := by
    rintro rfl
    simp at there
  obtain ⟨item, found, same⟩ : ∃ item, disk.tree.item? l = some item ∧ item.node = .file content := by
    rw [Tree.node?_eq_item? _ inside] at there
    exact Option.map_eq_some_iff.1 there
  obtain ⟨node, modified⟩ := item
  subst same
  have renamed : disk.tree.rename source target =
      .ok ((disk.tree.erase l).put d ⟨.file content, modified⟩) := by
    rw [Tree.rename, led, leads]
    simp only [bind, Except.bind, found]
    cases standing : disk.tree.node? d with
    | none => rfl
    | some node =>
      cases node with
      | directory => exact absurd standing free
      | file _ | locked _ | link _ => rfl
  unfold rename
  rw [calm]
  dsimp only [FailureScript.none]
  rw [renamed]
  exact ⟨_, rfl, rfl, rfl⟩

theorem replace_calm (attempts : Nat) (content : ByteArray) (calm : disk.script = .none)
    (seat : disk.tree.Seats path dir name) (formed : disk.tree.Formed)
    (directory : disk.tree.node? dir = some .directory)
    (free : ∀ n ∈ disk.tree.node? (dir ++ [name]), n.isWay = false)
    (clear : disk.tree.node? (dir ++ [name ++ ".tmp"]) = none) :
    ∃ after, replace attempts path content disk = (.ok (), after) := by
  have made := ensureParent_calm seat formed directory
  have within := ensureParent_within seat formed
  have script := (keeps_ensureParent Tree.stable_distinct path).script disk
  have grown := ensureParent_meets path disk
  cases parent : ensureParent path disk with
  | mk outcome based =>
  rw [parent] at made within script grown
  cases made
  obtain ⟨grows, -⟩ := grown
  -- Neither place is on the way to the directory, so both are as they were.
  have beside : ∀ name, based.tree.node? (dir ++ [name]) = disk.tree.node? (dir ++ [name]) := by
    intro name
    refine (within.same _).resolve_right fun above => ?_
    have short := above.length_le
    rw [List.length_append, List.length_singleton] at short
    omega
  have seat := seat.grows grows
  have directory := grows.keeps directory
  have leads := seat.resolve_of_directory within.formed directory
  have stays := seat.resolve_temporary within.formed directory
  have missing := (beside (name ++ ".tmp")).trans clear
  have led := Tree.resolve_follow (by simp [missing]) stays
  obtain ⟨between, written, still, put⟩ := write_calm content (script.trans calm) led missing
  have ways : Tree.SameWays based.tree between.tree := .sets put (by simp [missing]) (by simp [Node.isWay])
  have standing : between.tree.node? (dir ++ [name]) ≠ some .directory := by
    rw [put.other (ne_temporary dir name), beside]
    intro way
    cases free _ way
  obtain ⟨after, renamed, -, -⟩ := rename_calm still (ways.resolve.1 stays) put.same (ways.resolve.1 leads) standing
  refine ⟨after, ?_⟩
  have first : writeTemporary attempts path content based = (.ok (), between) := retry_of_ok attempts written
  have second : renameTemporary attempts path between = (.ok (), after) := retry_of_ok attempts renamed
  have both : (writeTemporary attempts path content >>= fun _ => renameTemporary attempts path) based =
      (.ok (), after) := (bind_of_ok first).trans second
  unfold replace
  rw [bind_of_ok parent]
  dsimp only
  rw [both]

end Disk

end Waymark
