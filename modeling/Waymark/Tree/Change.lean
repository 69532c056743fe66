import Waymark.Tree.Basic

/-! What has to be done to a tree to make it another one: directories are made before what stands in
them, then files are written, then files are removed.
-/

set_option autoImplicit false

namespace Waymark

inductive Change where
  | makeDirectory (location : Location)
  | removeDirectory (location : Location)
  | write (location : Location) (content : ByteArray)
  | remove (location : Location)
  deriving DecidableEq

namespace Change

/-- What takes a change back in the tree as it was before it. -/
def inverse? (before : Tree) : Change → Option Change
  | makeDirectory location => some (removeDirectory location)
  | removeDirectory location => some (makeDirectory location)
  | write location _ =>
    match before.node? location with
    | some (.file content) => some (write location content)
    | some _ => none
    | none => some (remove location)
  | remove location =>
    match before.node? location with
    | some (.file content) => some (write location content)
    | _ => none

end Change

namespace Tree

/-- The directories of a tree that another one lacks, upper ones first. -/
def newDirectories (before after : Tree) : List Location :=
  let added := after.items.filter fun entry =>
    entry.2.node = .directory && (before.item? entry.1).isNone
  (added.map Prod.fst).mergeSort fun a b => decide (a.length ≤ b.length)

/-- The write that gives a location the file of a tree, if it has one that another tree lacks. -/
def newFile? (before : Tree) (location : Location) (item : Item) : Option Change :=
  match item.node with
  | .file content =>
    if before.item? location = some item then none else some (.write location content)
  | _ => none

/-- What makes a tree out of the one before. -/
def changes (before after : Tree) : List Change :=
  (newDirectories before after).map .makeDirectory ++
  after.items.filterMap (fun entry => newFile? before entry.1 entry.2) ++
  (before.items.filter fun entry => (after.item? entry.1).isNone).map (.remove ·.1)

end Tree

end Waymark
