import Waymark.Proofs.Tree.Slot

/-! Trees in which every node stands in a directory. A path that leads somewhere leads into a directory
there, so making directories and writing files keep a tree formed.
-/

set_option autoImplicit false

namespace Waymark.Tree

structure Formed (tree : Tree) : Prop where
  grounded : tree.node? tree.workingDir = some .directory
  inside : ∀ k name, tree.node? (k ++ [name]) ≠ none → tree.node? k = some .directory

variable {tree base after : Tree} {k l : Location} {path : Path} {steps : List String}

theorem Formed.above (formed : tree.Formed) (there : tree.node? l ≠ none) :
    tree.node? l.dropLast = some .directory := by
  rcases List.eq_nil_or_concat l with rfl | ⟨k, name, rfl⟩
  · simp
  · rw [List.concat_eq_append] at there ⊢
    rw [List.dropLast_concat]
    exact formed.inside k name there

theorem Formed.directory_of_prefix (formed : tree.Formed) (directory : tree.node? l = some .directory)
    (above : k <+: l) : tree.node? k = some .directory := by
  obtain ⟨rest, rfl⟩ := above
  induction rest generalizing k with
  | nil => simpa using directory
  | cons name rest ih =>
    have next : tree.node? (k ++ [name]) = some .directory := ih (by simpa using directory)
    exact formed.inside k name (by simp [next])

theorem Formed.there_of_stride (formed : tree.Formed) {here : Location} {name : String}
    (directory : tree.node? here = some .directory) (step : stride tree.node? here name = .onward) :
    tree.node? (arrival here name) ≠ none := by
  by_cases isName : IsName name
  · rw [arrival_name isName]
    exact Tree.there_of_stride step isName
  · rcases arrival_of_not_name isName here with same | up
    · simp [same, directory]
    · simp [up, formed.above (by simp [directory] : tree.node? here ≠ none)]

theorem Formed.walk (formed : tree.Formed) {here : Location}
    {f : Location → Path → List String → Except Fault Location}
    (follows : ∀ here target rest l, tree.node? here = some .directory → f here target rest = .ok l →
      tree.node? l.dropLast = some .directory)
    (there : tree.node? here ≠ none) (h : walk tree.node? false f here steps = .ok l) :
    tree.node? l.dropLast = some .directory := by
  induction steps generalizing here with
  | nil =>
    cases h
    exact formed.above there
  | cons name rest ih =>
    have directory := directory_of_walk_cons h
    have beside : tree.node? (here ++ [name]).dropLast = some .directory := by simpa using directory
    rw [walk_cons directory] at h
    split at h
    · rename_i step
      exact ih (formed.there_of_stride directory step) h
    · split at h
      · cases h
        exact beside
      · exact follows _ _ _ _ directory h
    · split at h <;> cases h
      exact beside

theorem Formed.walkWithin (formed : tree.Formed) {here : Location} {limit : Nat}
    (there : tree.node? here ≠ none) (h : walkWithin tree.node? false limit here steps = .ok l) :
    tree.node? l.dropLast = some .directory := by
  induction limit generalizing here steps l with
  | zero => exact formed.walk (fun _ _ _ _ _ none => by cases none) there h
  | succ limit ih =>
    refine formed.walk (fun here target rest l directory h => ih ?_ h) there h
    split
    · simp
    · simp [directory]

theorem Formed.resolve (formed : tree.Formed) (h : tree.resolve path false = .ok l) :
    tree.node? l.dropLast = some .directory := by
  refine formed.walkWithin ?_ (locate_ok.1 h).2
  split
  · simp
  · simp [formed.grounded]

theorem Formed.directory_of_walk (formed : tree.Formed) {here : Location}
    {f : Location → Path → List String → Except Fault Location}
    (follows : ∀ here target rest l, tree.node? here = some .directory → rest ≠ [] →
      (∀ last ∈ rest.getLast?, ¬IsName last) → f here target rest = .ok l → tree.node? l = some .directory)
    (ends : ∀ last ∈ steps.getLast?, ¬IsName last) (start : steps = [] → tree.node? here = some .directory)
    (h : Tree.walk tree.node? false f here steps = .ok l) : tree.node? l = some .directory := by
  induction steps generalizing here with
  | nil =>
    cases h
    exact start rfl
  | cons name rest ih =>
    have directory := directory_of_walk_cons h
    have ends' : ∀ last ∈ rest.getLast?, ¬IsName last := by
      intro last member
      cases rest with
      | nil => cases member
      | cons second more => exact ends last (by rwa [List.getLast?_cons_cons])
    rw [walk_cons directory] at h
    cases rest with
    | nil =>
      -- The last step is no name, so it stays in the directory or goes up.
      have silent : ¬IsName name := ends name rfl
      rw [stride_of_not_name silent] at h
      obtain rfl : arrival here name = l := Except.ok.inj h
      rcases arrival_of_not_name silent here with same | up
      · rw [same, directory]
      · rw [up, formed.above (by simp [directory])]
    | cons second more =>
      split at h
      · exact ih ends' (fun none => absurd none (List.cons_ne_nil _ _)) h
      · exact follows _ _ _ _ directory (List.cons_ne_nil _ _) ends' h
      · cases h

theorem Formed.directory_of_walkWithin (formed : tree.Formed) {here : Location} {limit : Nat}
    (ends : ∀ last ∈ steps.getLast?, ¬IsName last) (start : tree.node? here = some .directory)
    (h : Tree.walkWithin tree.node? false limit here steps = .ok l) : tree.node? l = some .directory := by
  induction limit generalizing here steps l with
  | zero => exact formed.directory_of_walk (fun _ _ _ _ _ _ _ none => by cases none) ends (fun _ => start) h
  | succ limit ih =>
    refine formed.directory_of_walk (fun here target rest l directory more ends h => ih ?_ ?_ h) ends
      (fun _ => start) h
    · intro last member
      obtain ⟨final, final'⟩ := Option.ne_none_iff_exists'.1 (mt List.getLast?_eq_none_iff.1 more)
      rw [List.getLast?_append, final', Option.some_or] at member
      exact ends last (final' ▸ member)
    · split
      · simp
      · exact directory

theorem Formed.directory_of_resolve (formed : tree.Formed) (ends : ∀ last ∈ path.steps.getLast?, ¬IsName last)
    (led : tree.resolve path false = .ok l) : tree.node? l = some .directory := by
  refine formed.directory_of_walkWithin ends ?_ (locate_ok.1 led).2
  split
  · simp
  · exact formed.grounded

theorem Formed.put (formed : tree.Formed) {item : Item} (missing : tree.node? l = none)
    (above : tree.node? l.dropLast = some .directory) : (tree.put l item).Formed := by
  have inside : l ≠ [] := by rintro rfl; simp at missing
  have keeps : ∀ k, tree.node? k = some .directory → (tree.put l item).node? k = some .directory := by
    intro k directory
    rw [node?_put _ _ _ _ inside, if_neg, directory]
    rintro rfl
    rw [missing] at directory
    cases directory
  refine ⟨keeps _ formed.grounded, fun k name there => keeps k ?_⟩
  rw [node?_put _ _ _ _ inside] at there
  by_cases here : k ++ [name] = l
  · subst here; simpa using above
  · rw [if_neg here] at there; exact formed.inside k name there

theorem Laid.formed {slots : List (Path × Slot)} (h : base.Laid slots after) (formed : base.Formed) :
    after.Formed := by
  have keeps : ∀ k, base.node? k = some .directory → after.node? k = some .directory :=
    fun k => (h.ways.look k _ rfl).1
  constructor
  · rw [h.ways.workingDir]
    exact keeps _ formed.grounded
  · intro k name there
    apply keeps
    by_cases led : ∃ path ∈ slots.map Prod.fst, base.resolve path false = .ok (k ++ [name])
    · obtain ⟨path, -, led⟩ := led
      simpa using formed.resolve led
    · apply formed.inside k name
      rwa [← h.frame _ fun path member leads => led ⟨path, member, leads⟩]

end Waymark.Tree
