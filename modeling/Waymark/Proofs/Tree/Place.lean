import Waymark.Proofs.Tree.Resolution

/-! The place of a path: the location that it leads to once the directories on its way are made. It is
known before they are, and every tree that only gained directories leads there.
-/

set_option autoImplicit false

namespace Waymark.Tree

variable {a b : Tree} {path : Path} {l d : Location}

def filled (tree : Tree) (k : Location) : Option Node := some ((tree.node? k).getD .directory)

/-- Where a path leads once missing directories are made; a link at its end is not followed. -/
def place? (tree : Tree) (path : Path) : Option Location :=
  (locate tree.filled tree.workingDir path false).toOption

theorem locate_ok {look : Location → Option Node} {dir : Location} {followLast : Bool} :
    locate look dir path followLast = .ok l ↔ path.text.isEmpty = false ∧
      walkWithin look followLast maxLinks (if path.isAbsolute then [] else dir) path.steps = .ok l := by
  unfold locate
  cases path.text.isEmpty <;> simp

theorem locate_mono {look other : Location → Option Node} {dir : Location}
    (ways : ∀ k n, n.isWay = true → look k = some n → other k = some n)
    (h : locate look dir path false = .ok l) : locate other dir path false = .ok l :=
  locate_ok.2 ((locate_ok.1 h).imp_right (walkWithin_mono ways))

theorem Grows.resolve (grows : Grows a b) (h : a.resolve path false = .ok l) :
    b.resolve path false = .ok l := by
  unfold Tree.resolve at h ⊢
  rw [grows.workingDir]
  exact locate_mono (fun _ _ _ there => grows.keeps there) h

theorem SameWays.resolve (same : SameWays a b) :
    a.resolve path false = .ok l ↔ b.resolve path false = .ok l := by
  unfold Tree.resolve
  rw [same.workingDir]
  exact ⟨locate_mono fun k n way => (same.look k n way).1,
    locate_mono fun k n way => (same.look k n way).2⟩

theorem Grows.place? (grows : Grows a b) (h : b.resolve path false = .ok l) :
    a.place? path = some l := by
  unfold Tree.resolve at h
  rw [grows.workingDir] at h
  have filled : locate a.filled a.workingDir path false = .ok l := by
    refine locate_mono (fun k n _ there => ?_) h
    unfold Tree.filled
    rcases grows.look k with same | ⟨missing, made⟩
    · rw [← same, there]; rfl
    · rw [made] at there; rw [missing, ← there]; rfl
  simp [Tree.place?, filled, Except.toOption]

theorem getLast?_of_place? {name : String} (isName : IsName name)
    (ends : path.steps.getLast? = some name) (h : a.place? path = some l) :
    l.getLast? = some name := by
  unfold Tree.place? at h
  cases located : locate a.filled a.workingDir path false with
  | error fault => simp [located, Except.toOption] at h
  | ok k =>
    simp only [located, Except.toOption, Option.some.injEq] at h
    exact h ▸ getLast?_of_walkWithin isName ends (locate_ok.1 located).2

theorem resolve_follow (unlinked : ∀ target, a.node? l ≠ some (.link target))
    (h : a.resolve path false = .ok l) : a.resolve path true = .ok l :=
  locate_ok.2 ((locate_ok.1 h).imp_right (walkWithin_follow unlinked))

theorem resolve_stay (h : a.resolve path true = .ok l) : ∃ k, a.resolve path false = .ok k := by
  obtain ⟨text, walked⟩ := locate_ok.1 h
  obtain ⟨k, stays⟩ := walkWithin_stay walked
  exact ⟨k, locate_ok.2 ⟨text, stays⟩⟩

theorem resolve_unlinked
    (unlinked : ∀ k, a.resolve path false = .ok k → ∀ target, a.node? k ≠ some (.link target))
    (h : a.resolve path true = .ok l) : a.resolve path false = .ok l := by
  obtain ⟨k, stays⟩ := resolve_stay h
  have followed := resolve_follow (unlinked k stays) stays
  rw [h] at followed
  cases followed
  exact stays

end Waymark.Tree
