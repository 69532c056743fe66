import Waymark.Tree.Basic

/-! What stands at a location after an operation on a tree. Every operation that succeeds puts one
node into one place or takes it out, apart from making directories, which only fills empty places.
-/

set_option autoImplicit false

namespace Waymark

/-- A node that paths lead through. -/
def Node.isWay : Node → Bool
  | .directory | .link _ => true
  | .file _ | .locked _ => false

namespace Tree

theorem lookup_erase (items : List (Location × Item)) (l k : Location) :
    (items.filter (·.1 != l)).lookup k = if k = l then none else items.lookup k := by
  induction items with
  | nil => simp
  | cons entry rest ih =>
    obtain ⟨other, item⟩ := entry
    by_cases same : other = l
    · subst same
      have dropped : ((other, item) :: rest).filter (·.1 != other) = rest.filter (·.1 != other) := by simp
      rw [dropped, List.lookup_cons, ih]
      by_cases here : k = other
      · simp [here]
      · have differs : (k == other) = false := beq_eq_false_iff_ne.mpr here
        simp [here, differs]
    · have kept : ((other, item) :: rest).filter (·.1 != l) = (other, item) :: rest.filter (·.1 != l) := by
        simp [same]
      rw [kept, List.lookup_cons, List.lookup_cons, ih]
      by_cases here : k = other
      · subst here; simp [same]
      · have differs : (k == other) = false := beq_eq_false_iff_ne.mpr here
        simp [differs]

theorem item?_erase (tree : Tree) (l k : Location) :
    (tree.erase l).item? k = if k = l then none else tree.item? k :=
  lookup_erase tree.items l k

theorem item?_put (tree : Tree) (l k : Location) (item : Item) :
    (tree.put l item).item? k = if k = l then some item else tree.item? k := by
  change ((l, item) :: (tree.erase l).items).lookup k = _
  rw [List.lookup_cons]
  by_cases here : k = l
  · simp [here]
  · have differs : (k == l) = false := beq_eq_false_iff_ne.mpr here
    simp only [differs, if_neg here]
    exact (item?_erase tree l k).trans (if_neg here)

@[simp] theorem node?_root (tree : Tree) : tree.node? [] = some .directory := if_pos rfl

theorem node?_eq_item? (tree : Tree) {k : Location} (inside : k ≠ []) :
    tree.node? k = (tree.item? k).map (·.node) := if_neg inside

theorem node?_erase (tree : Tree) (l k : Location) (inside : l ≠ []) :
    (tree.erase l).node? k = if k = l then none else tree.node? k := by
  by_cases root : k = []
  · subst root; simp [inside.symm]
  · rw [node?_eq_item? _ root, node?_eq_item? _ root, item?_erase]
    split <;> rfl

theorem node?_put (tree : Tree) (l k : Location) (item : Item) (inside : l ≠ []) :
    (tree.put l item).node? k = if k = l then some item.node else tree.node? k := by
  by_cases root : k = []
  · subst root; simp [inside.symm]
  · rw [node?_eq_item? _ root, node?_eq_item? _ root, item?_put]
    split <;> rfl

@[simp] theorem workingDir_erase (tree : Tree) (l : Location) :
    (tree.erase l).workingDir = tree.workingDir := rfl

@[simp] theorem workingDir_put (tree : Tree) (l : Location) (item : Item) :
    (tree.put l item).workingDir = tree.workingDir := rfl

/-- `after` differs from `before` in nothing but the node at a location. -/
structure Sets (before : Tree) (l : Location) (node : Option Node) (after : Tree) : Prop where
  workingDir : after.workingDir = before.workingDir
  look : ∀ k, after.node? k = if k = l then node else before.node? k

namespace Sets

variable {a b c : Tree} {l k : Location} {x y : Option Node}

theorem same (h : Sets a l x b) : b.node? l = x := (h.look l).trans (if_pos rfl)

theorem other (h : Sets a l x b) (differs : k ≠ l) : b.node? k = a.node? k :=
  (h.look k).trans (if_neg differs)

theorem put (tree : Tree) (item : Item) (inside : l ≠ []) :
    Sets tree l (some item.node) (tree.put l item) :=
  ⟨rfl, fun k => node?_put tree l k item inside⟩

theorem erase (tree : Tree) (inside : l ≠ []) : Sets tree l none (tree.erase l) :=
  ⟨rfl, fun k => node?_erase tree l k inside⟩

end Sets

/-- What stands at a location stays, and where nothing stands a directory may have been made. -/
def Kept (before after : Tree) (k : Location) : Prop :=
  after.node? k = before.node? k ∨ before.node? k = none ∧ after.node? k = some .directory

theorem Kept.trans {a b c : Tree} {k : Location} (first : Kept a b k) (second : Kept b c k) :
    Kept a c k := by
  rcases second with same | ⟨missing, made⟩
  · exact first.imp same.trans (.imp_right same.trans)
  · rcases first with same | ⟨-, there⟩
    · exact .inr ⟨same ▸ missing, made⟩
    · rw [missing] at there
      cases there

/-- `after` has everything that `before` has, and apart from that only directories. -/
structure Grows (before after : Tree) : Prop where
  workingDir : after.workingDir = before.workingDir
  look : ∀ k, Kept before after k

namespace Grows

variable {a b c : Tree} {k : Location} {n : Node}

theorem refl (a : Tree) : Grows a a := ⟨rfl, fun _ => .inl rfl⟩

theorem trans (first : Grows a b) (second : Grows b c) : Grows a c where
  workingDir := second.workingDir.trans first.workingDir
  look k := (first.look k).trans (second.look k)

theorem keeps (grows : Grows a b) (there : a.node? k = some n) : b.node? k = some n := by
  rcases grows.look k with same | ⟨missing, -⟩
  · exact same.trans there
  · rw [there] at missing; cases missing

theorem kept (grows : Grows a b) (there : b.node? k = some n) (notDirectory : n ≠ .directory) :
    a.node? k = some n := by
  rcases grows.look k with same | ⟨-, made⟩
  · exact same.symm.trans there
  · rw [there] at made; cases made; exact absurd rfl notDirectory

theorem put (tree : Tree) {l : Location} {time : Nat} (missing : tree.node? l = none) :
    Grows tree (tree.put l ⟨.directory, time⟩) := by
  have inside : l ≠ [] := by rintro rfl; simp at missing
  refine ⟨rfl, fun k => ?_⟩
  have look := node?_put tree l k ⟨.directory, time⟩ inside
  by_cases here : k = l
  · subst here; exact .inr ⟨missing, look.trans (if_pos rfl)⟩
  · exact .inl (look.trans (if_neg here))

theorem kept_of_same (grows : Grows a b) (same : c.node? k = b.node? k) : Kept a c k := by
  have kept := grows.look k
  unfold Kept at kept ⊢
  rwa [same]

end Grows

/-- Both trees have the same directories and links. -/
structure SameWays (a b : Tree) : Prop where
  workingDir : b.workingDir = a.workingDir
  look : ∀ k n, n.isWay = true → (a.node? k = some n ↔ b.node? k = some n)

namespace SameWays

variable {a b c : Tree} {l : Location} {x : Option Node}

theorem refl (a : Tree) : SameWays a a := ⟨rfl, fun _ _ _ => .rfl⟩

theorem trans (first : SameWays a b) (second : SameWays b c) : SameWays a c :=
  ⟨second.workingDir.trans first.workingDir,
    fun k n way => (first.look k n way).trans (second.look k n way)⟩

theorem sets (h : Sets a l x b) (before : ∀ n ∈ a.node? l, n.isWay = false)
    (after : ∀ n ∈ x, n.isWay = false) : SameWays a b := by
  refine ⟨h.workingDir, fun k n way => ?_⟩
  by_cases here : k = l
  · subst here
    rw [h.same]
    constructor <;> intro there
    · have := before n there; simp_all
    · have := after n there; simp_all
  · rw [h.other here]

end SameWays

end Tree

end Waymark
