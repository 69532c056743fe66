import Waymark.Proofs.Tree.Operation

/-! What reading a path before a change tells of the place of the path afterwards. A path whose
directory is there leads to its place or ends in a silent step, and then only a directory can stand
there.
-/

set_option autoImplicit false

namespace Waymark.Tree

variable {a b : Tree} {path parent : Path} {k l : Location}

theorem directory_of_walk {look : Location → Option Node} {here : Location} {steps : List String}
    {f : Location → Path → List String → Except Fault Location}
    (follows : ∀ here target rest l, rest.getLast? = some "." → f here target rest = .ok l →
      look l = some .directory)
    (ends : steps.getLast? = some ".") (h : walk look false f here steps = .ok l) :
    look l = some .directory := by
  induction steps generalizing here with
  | nil => simp at ends
  | cons first rest ih =>
    have directory := directory_of_walk_cons h
    cases rest with
    | nil =>
      obtain rfl : first = "." := by simpa using ends
      rw [walk_here directory] at h
      cases h
      exact directory
    | cons second more =>
      rw [List.getLast?_cons_cons] at ends
      rw [walk_cons directory] at h
      split at h
      · exact ih ends h
      · exact follows _ _ _ _ ends h
      · cases h

theorem directory_of_walkWithin {look : Location → Option Node} {here : Location}
    {steps : List String} {limit : Nat} (ends : steps.getLast? = some ".")
    (h : walkWithin look false limit here steps = .ok l) : look l = some .directory := by
  induction limit generalizing here steps l with
  | zero => exact directory_of_walk (fun _ _ _ _ _ none => by cases none) ends h
  | succ limit ih =>
    refine directory_of_walk (fun _ _ rest _ ends h => ih ?_ h) ends h
    rw [List.getLast?_append, ends]
    rfl

theorem directory_of_resolve (ends : path.steps.getLast? = some ".")
    (h : a.resolve path false = .ok l) : a.node? l = some .directory :=
  directory_of_walkWithin ends (locate_ok.1 h).2

theorem walkWithin_step {look : Location → Option Node} {d : Location}
    (directory : look d = some .directory) (count : Nat) (last : String) :
    ∃ l, ∀ limit, walkWithin look false limit d (List.replicate count "." ++ [last]) = .ok l := by
  refine ⟨arrival d last, fun limit => ?_⟩
  cases limit <;> exact (walk_silent count directory).trans (walk_single directory)

/-- The directory that a path stands in is there, or the path says nothing of one. -/
def HasParent (tree : Tree) (path : Path) : Prop :=
  ∀ parent ∈ path.parent?, parent.text ≠ "" → tree.isDirectory parent = true

theorem resolve_of_hasParent (grounded : a.node? a.workingDir = some .directory)
    (above : a.HasParent path) (text : path.text ≠ "") (ends : path.steps.getLast? ≠ some ".") :
    ∃ l, a.resolve path false = .ok l := by
  have some : path.text.isEmpty = false := by simpa using text
  rcases Path.steps_of_parent path with ⟨n, steps⟩ | ⟨parent, last, n, m, split, steps, top, root⟩
  · cases n with
    | zero => exact ⟨_, locate_ok.2 ⟨some, by rw [steps]; rfl⟩⟩
    | succ n => simp [steps, List.replicate_succ'] at ends
  · obtain rfl : m = 0 := by
      cases m with
      | zero => rfl
      | succ m => simp [steps, List.replicate_succ', List.getLast?_cons] at ends
    -- A path that names no parent starts in the working directory.
    by_cases empty : parent.text = ""
    · have start : parent.steps = [] := by
        obtain ⟨text⟩ := parent
        subst empty
        rfl
      obtain ⟨l, led⟩ := walkWithin_step grounded n last
      refine ⟨l, locate_ok.2 ⟨some, ?_⟩⟩
      rw [top empty, steps, start]
      exact led _
    · obtain ⟨d, led, directory⟩ := isDirectory_iff.1 (above parent split empty)
      obtain ⟨l, onward⟩ := walkWithin_step directory n last
      refine ⟨l, locate_ok.2 ⟨some, ?_⟩⟩
      rw [← root empty, steps]
      exact walkWithin_append (by simp) directory onward (locate_ok.1 led).2

theorem read_of_node {n : Node} (led : a.resolve path true = .ok l) (there : a.node? l = some n) :
    a.read path = match n with
      | .file content => .ok content
      | .locked _ => .error .permissionDenied
      | .directory => .error .isDirectory
      | .link _ => .error .tooManyLinks := by
  have found : a.find path = .ok n := by simp [find, led, bind, Except.bind, there]; rfl
  simp only [read, found, bind, Except.bind]
  cases n <;> rfl

theorem node_of_readOptional_some {content : ByteArray}
    (h : a.readOptional path = .ok (some content)) :
    ∃ l, a.resolve path true = .ok l ∧ a.node? l = some (.file content) := by
  have read : a.read path = .ok content := by
    unfold readOptional at h
    split at h
    · rename_i same; cases h; exact same
    · cases h
    · cases h
  cases led : a.resolve path true with
  | error fault => simp [Tree.read, find, led, bind, Except.bind] at read
  | ok l =>
    cases there : a.node? l with
    | none =>
      have missing : a.find path = .error .notFound := by
        simp [find, led, bind, Except.bind, there]; rfl
      simp [Tree.read, missing, bind, Except.bind] at read
    | some n =>
      rw [read_of_node led there] at read
      cases n <;> cases read
      exact ⟨l, rfl, there⟩

theorem node_of_readOptional_none (h : a.readOptional path = .ok none)
    (led : a.resolve path true = .ok l) : a.node? l = none := by
  cases there : a.node? l with
  | none => rfl
  | some n =>
    have read := read_of_node led there
    unfold readOptional at h
    rw [read] at h
    cases n <;> cases h

/-- What stands where a content was read, or where no file was found and directories may have been
made since. -/
def Shows (node : Option Node) : Option ByteArray → Prop
  | some content => node = some (.file content)
  | none => node = none ∨ node = some .directory

theorem node_of_prior {prior : Option ByteArray} (grows : Grows a b)
    (grounded : a.node? a.workingDir = some .directory) (above : a.HasParent path)
    (h : a.readOptional path = .ok prior) (led : b.resolve path false = .ok l)
    (unlinked : ∀ target, b.node? l ≠ some (.link target)) :
    Shows (b.node? l) prior := by
  have text : path.text ≠ "" := fun empty => by simp [resolve, locate, empty] at led
  cases prior with
  | some content =>
    obtain ⟨k, followed, there⟩ := node_of_readOptional_some h
    obtain ⟨k', stays⟩ := resolve_stay followed
    -- The place is the same before, and no link stood there.
    have same := grows.resolve stays
    rw [led] at same
    cases same
    have unlinked' : ∀ target, a.node? l ≠ some (.link target) := fun target link =>
      unlinked target (grows.keeps link)
    have followed' := resolve_follow unlinked' stays
    rw [followed] at followed'
    cases followed'
    exact grows.keeps there
  | none =>
    by_cases ends : path.steps.getLast? = some "."
    · exact .inr (directory_of_resolve ends led)
    · obtain ⟨k, stays⟩ := resolve_of_hasParent grounded above text ends
      have same := grows.resolve stays
      rw [led] at same
      cases same
      have unlinked' : ∀ target, a.node? l ≠ some (.link target) := fun target link =>
        unlinked target (grows.keeps link)
      have missing := node_of_readOptional_none h (resolve_follow unlinked' stays)
      rcases grows.look l with same | ⟨-, made⟩
      · exact .inl (same.trans missing)
      · exact .inr made

end Waymark.Tree
