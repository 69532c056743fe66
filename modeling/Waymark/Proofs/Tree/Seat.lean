import Waymark.Proofs.Disk.Effect
import Waymark.Proofs.Tree.Reach

/-! Files that are named by appending a name to a path that reaches a directory. Their places are known
in advance, and they read what stands there.
-/

set_option autoImplicit false

namespace Waymark

open OnDisk

namespace Tree

/-- `path` names a file of a directory that is there or can be made. -/
def Seats (tree : Tree) (path : Path) (home : Location) (name : String) : Prop :=
  ∃ dir : Path, path = dir.join name ∧ tree.Reaches dir home ∧ IsFileName name

namespace Seats

variable {tree a b : Tree} {path : Path} {home : Location} {name : String}

theorem place (h : tree.Seats path home name) : tree.place? path = some (home ++ [name]) := by
  obtain ⟨dir, rfl, reaches, isFile⟩ := h
  exact reaches.place isFile

theorem place_temporary (h : tree.Seats path home name) :
    tree.place? path.temporary = some (home ++ [name ++ ".tmp"]) := by
  obtain ⟨dir, rfl, reaches, isFile⟩ := h
  exact reaches.place_temporary isFile

theorem readOptional (h : tree.Seats path home name) (formed : tree.Formed)
    (unlinked : ∀ target, tree.node? (home ++ [name]) ≠ some (.link target)) :
    tree.readOptional path = readNode (tree.node? (home ++ [name])) := by
  obtain ⟨dir, rfl, reaches, isFile⟩ := h
  exact reaches.readOptional isFile formed unlinked

theorem grows (h : a.Seats path home name) (grows : a.Grows b) : b.Seats path home name := by
  obtain ⟨dir, rfl, reaches, isFile⟩ := h
  exact ⟨dir, rfl, reaches.grows grows, isFile⟩

theorem free (h : tree.Seats path home name) : tree.node? home = none ∨ tree.node? home = some .directory := by
  obtain ⟨dir, -, reaches, -⟩ := h
  exact reaches.free

end Seats

/-- `path` names a file of a directory in whose place something else stands. -/
def Shut (tree : Tree) (path : Path) : Prop :=
  ∃ (dir : Path) (outer : Location) (room name : String), path = (dir.join room).join name ∧
    tree.Reaches dir outer ∧ IsFileName room ∧ IsFileName name ∧ tree.Barred (outer ++ [room])

namespace Shut

variable {tree : Tree} {path : Path}

theorem place (h : tree.Shut path) : tree.place? path = none := by
  obtain ⟨dir, outer, room, name, rfl, reaches, isRoom, isFile, barred⟩ := h
  have steps := Path.steps_join (dir.join room) isFile
  rw [Path.names_join dir isRoom] at steps
  refine reaches.place_barred isRoom.isName barred steps ?_
  rw [Path.isAbsolute_join _ isFile, Path.isAbsolute_join dir isRoom]

theorem place_temporary (h : tree.Shut path) : tree.place? path.temporary = none := by
  obtain ⟨dir, outer, room, name, rfl, reaches, isRoom, isFile, barred⟩ := h
  obtain ⟨parent, same, names, absolute⟩ := Path.temporary_join_join dir isRoom isFile
  have isFile' := Path.isFileName_temporary isFile
  rw [same]
  have steps := Path.steps_join parent isFile'
  rw [names] at steps
  refine reaches.place_barred isRoom.isName barred steps ?_
  rw [Path.isAbsolute_join parent isFile', absolute]

theorem readOptional (h : tree.Shut path) (formed : tree.Formed) :
    tree.readOptional path = .error .notDirectory := by
  obtain ⟨dir, outer, room, name, rfl, reaches, isRoom, isFile, barred⟩ := h
  have steps := Path.steps_join (dir.join room) isFile
  rw [Path.names_join dir isRoom] at steps
  have stops : tree.resolve ((dir.join room).join name) true = .error .notDirectory := by
    refine reaches.resolve_barred formed isRoom.isName barred steps ?_
    rw [Path.isAbsolute_join _ isFile, Path.isAbsolute_join dir isRoom]
  simp only [Tree.readOptional, read, find, stops, bind, Except.bind]

end Shut

end Tree

theorem Disk.ensureParent_within {disk : Disk} {path : Path} {home : Location} {name : String}
    (h : disk.tree.Seats path home name) (formed : disk.tree.Formed) :
    Tree.Within home disk.tree (ensureParent path disk).2.tree := by
  obtain ⟨dir, rfl, reaches, isFile⟩ := h
  obtain ⟨parent, n, above, names, top, same⟩ := Path.parent?_join dir isFile
  unfold ensureParent
  rw [above]
  change Tree.Within home disk.tree (disk.tree.makeDirectories parent disk.time).2
  by_cases empty : parent.text = ""
  · have stays : disk.tree.makeDirectories parent disk.time = (.ok (), disk.tree) := by
      simp [Tree.makeDirectories, Tree.makeDirectoriesWithin, empty]
    rw [stays]
    exact .refl home formed
  · refine Tree.makeDirectoriesWithin_within _ _ _ _ _ ?_ formed
    unfold Tree.Reaches at reaches ⊢
    rw [names, ← same empty] at reaches
    exact reaches.stripAll

/-- If there is a reason against the directory of a file that making those above it cannot take away, nothing is
made. -/
theorem Disk.ensureParent_refused {disk : Disk} {path parent : Path} {fault : Fault} (above : path.parent? = some parent)
    (text : parent.text ≠ "") (refused : disk.tree.makeDirectory parent disk.time = .error fault)
    (lasting : fault ≠ .notFound) (no : disk.tree.isDirectory parent = false) :
    ∃ error, ensureParent path disk = (.error error, disk) := by
  have empty : parent.text.isEmpty = false := by simpa using text
  have settled : disk.tree.settleDirectory parent fault = .error fault := by simp [Tree.settleDirectory, no]
  have stopped : disk.tree.makeDirectories parent disk.time = (.error fault, disk.tree) := by
    unfold Tree.makeDirectories Tree.makeDirectoriesWithin
    rw [empty, refused]
    cases fault <;> simp_all
  refine ⟨.ofFault fault, ?_⟩
  simp only [ensureParent, above, stopped]
  rfl

theorem Disk.ensureParent_shut {disk : Disk} {path : Path} (h : disk.tree.Shut path) (formed : disk.tree.Formed) :
    ∃ error, ensureParent path disk = (.error error, disk) := by
  obtain ⟨dir, outer, room, name, rfl, reaches, isRoom, isFile, node, there, bar⟩ := h
  obtain ⟨parent, above, text, steps, absolute⟩ := Path.parent?_join_join dir isRoom isFile
  have directory := formed.inside outer room (by simp [there])
  have led := reaches.resolve_step isRoom.isName formed directory text steps absolute
  have refused : disk.tree.makeDirectory parent disk.time = .error .alreadyExists := by
    simp only [Tree.makeDirectory, led, there, bind, Except.bind, Option.isSome_some, if_true]
    rfl
  refine ensureParent_refused above text refused (by simp) ?_
  have unlinked : ∀ target, disk.tree.node? (outer ++ [room]) ≠ some (.link target) := by
    rw [there]
    rintro target link
    cases link
    cases bar
  rw [Tree.isDirectory, Tree.find, Tree.resolve_follow unlinked led]
  cases node with
  | directory | link _ => cases bar
  | file _ | locked _ => simp [bind, Except.bind, there, pure, Except.pure]

theorem Disk.ensureParent_inside {disk : Disk} {dir : Path} {outer : Location} {room inner name : String}
    (reaches : disk.tree.Reaches dir outer) (formed : disk.tree.Formed) (isRoom : IsFileName room)
    (isInner : IsFileName inner) (isFile : IsFileName name) (barred : disk.tree.Barred (outer ++ [room])) :
    ∃ error, ensureParent (((dir.join room).join inner).join name) disk = (.error error, disk) := by
  obtain ⟨parent, above, text, steps, absolute⟩ := Path.parent?_join_join (dir.join room) isInner isFile
  rw [Path.names_join dir isRoom] at steps
  rw [Path.isAbsolute_join dir isRoom] at absolute
  have stops : ∀ followLast, disk.tree.resolve parent followLast = .error .notDirectory := fun _ =>
    reaches.resolve_barred formed isRoom.isName barred steps absolute
  have refused : disk.tree.makeDirectory parent disk.time = .error .notDirectory := by
    simp only [Tree.makeDirectory, stops, bind, Except.bind]
  refine ensureParent_refused above text refused (by simp) ?_
  simp only [Tree.isDirectory, Tree.find, stops, bind, Except.bind]

theorem Tree.Formed.ensureParent {disk : Disk} (formed : disk.tree.Formed) (path : Path) :
    (Disk.ensureParent path disk).2.tree.Formed := by
  unfold Disk.ensureParent
  split
  · exact formed
  · exact Tree.makeDirectoriesWithin_keeps (fun _ _ _ before made => before.makeDirectory made) _ _ formed

end Waymark
