import Waymark.Proofs.Tree.Operation

/-! A tree that differs from a base in the places of given paths only. A slot tells what stands in the
place of its path; as long as no two paths share a place, an operation on one of them leaves the others
as they are.
-/

set_option autoImplicit false

namespace Waymark

/-- What stands in a place, told apart from what stands there in the base. -/
inductive Slot where
  | kept
  | holds (content : ByteArray)
  | gone
  | cleared
  | either (content : ByteArray)
  | unknown

namespace Slot

variable {base a b : Tree} {path : Path}

def Is (base tree : Tree) (path : Path) : Slot → Prop
  | .kept => ∀ k, base.resolve path false = .ok k → tree.node? k = base.node? k
  | .holds content => ∃ k, base.resolve path false = .ok k ∧ tree.node? k = some (.file content)
  | .gone => ∃ k, base.resolve path false = .ok k ∧ tree.node? k = none
  | .cleared => ∀ k, base.resolve path false = .ok k →
    tree.node? k = none ∨ tree.node? k = base.node? k
  | .either content => ∀ k, base.resolve path false = .ok k →
    tree.node? k = base.node? k ∨ tree.node? k = some (.file content)
  | .unknown => True

theorem Is.congr {slot : Slot} (h : slot.Is base a path)
    (same : ∀ k, base.resolve path false = .ok k → b.node? k = a.node? k) :
    slot.Is base b path := by
  cases slot with
  | kept => exact fun k led => (same k led).trans (h k led)
  | holds content =>
    obtain ⟨k, led, there⟩ := h
    exact ⟨k, led, (same k led).trans there⟩
  | gone =>
    obtain ⟨k, led, missing⟩ := h
    exact ⟨k, led, (same k led).trans missing⟩
  | cleared => exact fun k led => by rw [same k led]; exact h k led
  | either content => exact fun k led => by rw [same k led]; exact h k led
  | unknown => trivial

theorem Is.cleared_of_kept (h : kept.Is base a path) : cleared.Is base a path :=
  fun k led => .inr (h k led)

theorem Is.cleared_of_gone (h : gone.Is base a path) : cleared.Is base a path := by
  obtain ⟨k, led, missing⟩ := h
  intro k' led'
  rw [led] at led'
  cases led'
  exact .inl missing

theorem Is.either_of_kept {content : ByteArray} (h : kept.Is base a path) :
    (either content).Is base a path := fun k led => .inl (h k led)

theorem Is.either_of_holds {content : ByteArray} (h : (holds content).Is base a path) :
    (either content).Is base a path := by
  obtain ⟨k, led, there⟩ := h
  intro k' led'
  rw [led] at led'
  cases led'
  exact .inr there

end Slot

namespace Tree

def Unlinked (base : Tree) (path : Path) : Prop :=
  ∀ k, base.resolve path false = .ok k → ∀ target, base.node? k ≠ some (.link target)

def Apart (base : Tree) (p q : Path) : Prop :=
  ∀ k, base.resolve p false = .ok k → base.resolve q false ≠ .ok k

structure Separate (base : Tree) (paths : List Path) : Prop where
  unlinked : ∀ path ∈ paths, base.Unlinked path
  apart : paths.Pairwise base.Apart

/-- `tree` is the base with other files in the places of some paths. -/
structure Laid (base : Tree) (slots : List (Path × Slot)) (tree : Tree) : Prop where
  ways : SameWays base tree
  separate : base.Separate (slots.map Prod.fst)
  is : ∀ slot ∈ slots, slot.2.Is base tree slot.1
  frame : ∀ k, (∀ path ∈ slots.map Prod.fst, base.resolve path false ≠ .ok k) →
    tree.node? k = base.node? k

namespace Laid

variable {base tree after : Tree} {before later : List (Path × Slot)} {path : Path} {x y : Slot}
  {l : Location}

theorem resolve (h : Laid base (before ++ (path, x) :: later) tree) :
    tree.resolve path false = .ok l ↔ base.resolve path false = .ok l := h.ways.resolve.symm

theorem unlinked (h : Laid base (before ++ (path, x) :: later) tree) : tree.Unlinked path := by
  intro l led target link
  exact h.separate.unlinked path (by simp) l (h.resolve.1 led) target ((h.ways.look l _ rfl).2 link)

theorem here (h : Laid base (before ++ (path, x) :: later) tree) : x.Is base tree path :=
  h.is (path, x) (by simp)

theorem elsewhere (h : Laid base (before ++ (path, x) :: later) tree)
    (led : base.resolve path false = .ok l) (slot : Path × Slot) (other : slot ∈ before ++ later) :
    base.resolve slot.1 false ≠ .ok l := by
  have apart := h.separate.apart
  rw [List.map_append, List.map_cons, List.pairwise_append, List.pairwise_cons] at apart
  obtain ⟨-, ⟨inner, -⟩, outer⟩ := apart
  rcases List.mem_append.1 other with member | member
  · intro led'
    exact outer slot.1 (List.mem_map_of_mem member) path List.mem_cons_self l led' led
  · exact inner slot.1 (List.mem_map_of_mem member) l led

theorem tellAll {told slots : List (Path × Slot)} (h : Laid base slots tree)
    (same : told.map Prod.fst = slots.map Prod.fst)
    (is : ∀ slot ∈ told, slot.2.Is base tree slot.1) : Laid base told tree where
  ways := h.ways
  separate := by rw [same]; exact h.separate
  is := is
  frame k outside := h.frame k (by rwa [same] at outside)

theorem tell (h : Laid base (before ++ (path, x) :: later) tree) (is : y.Is base tree path) :
    Laid base (before ++ (path, y) :: later) tree := by
  refine h.tellAll (by simp) fun slot member => ?_
  rw [List.mem_append, List.mem_cons] at member
  rcases member with member | rfl | member
  · exact h.is slot (by simp [member])
  · exact is
  · exact h.is slot (by simp [member])

theorem sets {node : Option Node} (h : Laid base (before ++ (path, x) :: later) tree)
    (led : base.resolve path false = .ok l) (change : Sets tree l node after)
    (was : ∀ n ∈ tree.node? l, n.isWay = false) (put : ∀ n ∈ node, n.isWay = false)
    (is : y.Is base after path) : Laid base (before ++ (path, y) :: later) after where
  ways := h.ways.trans (SameWays.sets change was put)
  separate := by simpa using h.separate
  is slot member := by
    have untouched : slot ∈ before ++ later → slot.2.Is base after slot.1 := by
      intro other
      refine (h.is slot ?_).congr fun k leads => change.other ?_
      · rcases List.mem_append.1 other with member | member <;> simp [member]
      · rintro rfl
        exact h.elsewhere led slot other leads
    rw [List.mem_append, List.mem_cons] at member
    rcases member with member | rfl | member
    · exact untouched (by simp [member])
    · exact is
    · exact untouched (by simp [member])
  frame k outside := by
    have other : k ≠ l := by
      rintro rfl
      exact outside path (by simp) led
    exact (change.other other).trans (h.frame k (by simpa using outside))

end Laid

end Tree

end Waymark
