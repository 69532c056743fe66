import Waymark.Proofs.Tree.Node

/-! Where paths lead. A walk looks at nothing but directories and links on its way, so it leads to the
same location in every tree that has them. The last name of a walk that does not follow a last link
is the last name of its location.
-/

set_option autoImplicit false

namespace Waymark

def IsName (name : String) : Prop := name ≠ "." ∧ name ≠ ".."

namespace Tree

variable {look other : Location → Option Node} {here l d : Location} {steps rest : List String}

section
variable {f : Location → Path → List String → Except Fault Location} {followLast : Bool} {name : String}

theorem directory_of_walk_cons (h : walk look followLast f here (name :: rest) = .ok l) :
    look here = some .directory := by
  unfold walk at h
  split at h
  · assumption
  · cases h
  · cases h

theorem walk_here (directory : look here = some .directory) :
    walk look followLast f here ("." :: rest) = walk look followLast f here rest := by
  simp [walk, directory]

theorem walk_silent (count : Nat) (directory : look here = some .directory) :
    walk look followLast f here (List.replicate count "." ++ steps) =
      walk look followLast f here steps := by
  induction count with
  | zero => rfl
  | succ count ih => simpa [List.replicate_succ, walk, directory] using ih

end

/-! Single steps -/

/-- What a step comes to in a directory. -/
inductive Stride where
  | onward
  | link (target : Path)
  | missing

def stride (look : Location → Option Node) (here : Location) (name : String) : Stride :=
  if name = "." ∨ name = ".." then .onward
  else
    match look (here ++ [name]) with
    | some (.link target) => .link target
    | some _ => .onward
    | none => .missing

def arrival (here : Location) (name : String) : Location :=
  if name = "." then here else if name = ".." then here.dropLast else here ++ [name]

theorem arrival_name {name : String} (isName : IsName name) : arrival here name = here ++ [name] := by
  rw [arrival, if_neg isName.1, if_neg isName.2]

theorem arrival_of_not_name {name : String} (silent : ¬IsName name) (here : Location) :
    arrival here name = here ∨ arrival here name = here.dropLast := by
  by_cases point : name = "."
  · exact .inl (if_pos point)
  · right
    rw [arrival, if_neg point, if_pos]
    exact Classical.byContradiction fun up => silent ⟨point, up⟩

theorem stride_name {name : String} (isName : IsName name) : stride look here name =
    match look (here ++ [name]) with
    | some (.link target) => .link target
    | some _ => .onward
    | none => .missing :=
  if_neg (not_or.2 isName)

theorem stride_of_not_name {name : String} (silent : ¬IsName name) : stride look here name = .onward := by
  refine if_pos (Classical.byContradiction fun other => silent ?_)
  exact not_or.1 other

theorem link_of_stride {name : String} {target : Path} (step : stride look here name = .link target) :
    IsName name ∧ look (here ++ [name]) = some (.link target) := by
  by_cases isName : IsName name
  · rw [stride_name isName] at step
    split at step <;> cases step
    exact ⟨isName, ‹_›⟩
  · rw [stride_of_not_name isName] at step
    cases step

theorem missing_of_stride {name : String} (step : stride look here name = .missing) :
    IsName name ∧ look (here ++ [name]) = none := by
  by_cases isName : IsName name
  · rw [stride_name isName] at step
    split at step <;> cases step
    exact ⟨isName, ‹_›⟩
  · rw [stride_of_not_name isName] at step
    cases step

theorem there_of_stride {name : String} (step : stride look here name = .onward) (isName : IsName name) :
    look (here ++ [name]) ≠ none := by
  intro missing
  rw [stride_name isName, missing] at step
  cases step

theorem walk_cons {f : Location → Path → List String → Except Fault Location} {followLast : Bool} {name : String}
    (directory : look here = some .directory) : walk look followLast f here (name :: rest) =
      match stride look here name with
      | .onward => walk look followLast f (arrival here name) rest
      | .link target => if rest.isEmpty && !followLast then .ok (here ++ [name]) else f here target rest
      | .missing => if rest.isEmpty then .ok (here ++ [name]) else .error .notFound := by
  rw [walk, directory]
  dsimp only
  by_cases point : name = "."
  · subst point
    rfl
  by_cases up : name = ".."
  · subst up
    rfl
  rw [if_neg point, if_neg up, stride_name ⟨point, up⟩, arrival_name ⟨point, up⟩]
  cases look (here ++ [name]) with
  | none => rfl
  | some node => cases node <;> rfl

theorem walk_single {f : Location → Path → List String → Except Fault Location} {name : String}
    (directory : look here = some .directory) : walk look false f here [name] = .ok (arrival here name) := by
  rw [walk_cons directory]
  cases step : stride look here name with
  | onward => rfl
  | link target => rw [arrival_name (link_of_stride step).1]; rfl
  | missing => rw [arrival_name (missing_of_stride step).1]; rfl

theorem walk_last {f : Location → Path → List String → Except Fault Location} {name : String}
    (isName : IsName name) (directory : look here = some .directory) :
    walk look false f here [name] = .ok (here ++ [name]) := by
  rw [walk_single directory, arrival_name isName]

theorem walk_barred {f : Location → Path → List String → Except Fault Location} {followLast : Bool}
    {name next : String} {node : Node} (isName : IsName name) (directory : look here = some .directory)
    (there : look (here ++ [name]) = some node) (bar : node.isWay = false) :
    walk look followLast f here (name :: next :: rest) = .error .notDirectory := by
  rw [walk_cons directory, stride_name isName, there, arrival_name isName]
  cases node with
  | directory | link _ => cases bar
  | file _ | locked _ => simp [walk, there]

theorem stride_mono {name : String} (ways : ∀ k n, n.isWay = true → look k = some n → other k = some n)
    (directory : look (arrival here name) = some .directory) :
    stride other here name = .onward := by
  by_cases isName : IsName name
  · rw [arrival_name isName] at directory
    rw [stride_name isName, ways _ _ rfl directory]
  · exact stride_of_not_name isName

theorem stride_link_mono {name : String} {target : Path}
    (ways : ∀ k n, n.isWay = true → look k = some n → other k = some n)
    (step : stride look here name = .link target) : stride other here name = .link target := by
  obtain ⟨isName, link⟩ := link_of_stride step
  rw [stride_name isName, ways _ _ rfl link]

/-! Whole walks -/

theorem walk_mono (ways : ∀ k n, n.isWay = true → look k = some n → other k = some n)
    {f g : Location → Path → List String → Except Fault Location}
    (follows : ∀ here target rest l, f here target rest = .ok l → g here target rest = .ok l)
    (h : walk look false f here steps = .ok l) : walk other false g here steps = .ok l := by
  induction steps generalizing here with
  | nil => exact h
  | cons name rest ih =>
    have directory := directory_of_walk_cons h
    have directory' := ways _ _ rfl directory
    cases rest with
    | nil =>
      rw [walk_single directory] at h
      rw [walk_single directory']
      exact h
    | cons second more =>
      rw [walk_cons directory] at h
      rw [walk_cons directory']
      cases step : stride look here name with
      | onward =>
        rw [step] at h
        -- With others after it the step has led to a directory, which both look at.
        rw [stride_mono ways (directory_of_walk_cons h)]
        exact ih h
      | link target =>
        rw [step] at h
        rw [stride_link_mono ways step]
        exact follows _ _ _ _ h
      | missing =>
        rw [step] at h
        cases h

theorem walkWithin_mono (ways : ∀ k n, n.isWay = true → look k = some n → other k = some n)
    {limit : Nat} (h : walkWithin look false limit here steps = .ok l) :
    walkWithin other false limit here steps = .ok l := by
  induction limit generalizing here steps l with
  | zero => exact walk_mono ways (fun _ _ _ _ none => by cases none) h
  | succ limit ih => exact walk_mono ways (fun _ _ _ _ h => ih h) h

theorem getLast?_of_walk {name : String} (isName : IsName name)
    {f : Location → Path → List String → Except Fault Location}
    (follows : ∀ here target rest l, rest.getLast? = some name → f here target rest = .ok l →
      l.getLast? = some name)
    (ends : steps.getLast? = some name) (h : walk look false f here steps = .ok l) :
    l.getLast? = some name := by
  induction steps generalizing here with
  | nil => simp at ends
  | cons first rest ih =>
    have directory := directory_of_walk_cons h
    cases rest with
    | nil =>
      obtain rfl : first = name := by simpa using ends
      rw [walk_last isName directory] at h
      cases h
      simp
    | cons second more =>
      rw [List.getLast?_cons_cons] at ends
      rw [walk_cons directory] at h
      split at h
      · exact ih ends h
      · exact follows _ _ _ _ ends h
      · cases h

theorem getLast?_of_walkWithin {limit : Nat} {name : String} (isName : IsName name)
    (ends : steps.getLast? = some name) (h : walkWithin look false limit here steps = .ok l) :
    l.getLast? = some name := by
  induction limit generalizing here steps l with
  | zero => exact getLast?_of_walk isName (fun _ _ _ _ _ none => by cases none) ends h
  | succ limit ih =>
    refine getLast?_of_walk isName (fun _ _ rest _ ends h => ih ?_ h) ends h
    rw [List.getLast?_append, ends]
    rfl

theorem walk_follow (unlinked : ∀ target, look l ≠ some (.link target))
    {f g : Location → Path → List String → Except Fault Location}
    (follows : ∀ here target rest, f here target rest = .ok l → g here target rest = .ok l)
    (h : walk look false f here steps = .ok l) : walk look true g here steps = .ok l := by
  induction steps generalizing here with
  | nil => exact h
  | cons name rest ih =>
    have directory := directory_of_walk_cons h
    rw [walk_cons directory] at h ⊢
    cases step : stride look here name with
    | onward =>
      rw [step] at h
      exact ih h
    | link target =>
      rw [step] at h
      cases rest with
      | nil =>
        cases h
        exact absurd (link_of_stride step).2 (unlinked target)
      | cons second more => exact follows _ _ _ h
    | missing => rwa [step] at h

theorem walkWithin_follow {limit : Nat} (unlinked : ∀ target, look l ≠ some (.link target))
    (h : walkWithin look false limit here steps = .ok l) :
    walkWithin look true limit here steps = .ok l := by
  induction limit generalizing here steps with
  | zero => exact walk_follow unlinked (fun _ _ _ none => by cases none) h
  | succ limit ih => exact walk_follow unlinked (fun _ _ _ h => ih h) h

/-- Where a walk arrives that follows a last link, one that does not arrives too. -/
theorem walk_stay {f g : Location → Path → List String → Except Fault Location}
    (follows : ∀ here target rest l, f here target rest = .ok l →
      ∃ k, g here target rest = .ok k)
    (h : walk look true f here steps = .ok l) : ∃ k, walk look false g here steps = .ok k := by
  induction steps generalizing here with
  | nil => exact ⟨_, rfl⟩
  | cons name rest ih =>
    have directory := directory_of_walk_cons h
    rw [walk_cons directory] at h ⊢
    cases step : stride look here name with
    | onward =>
      rw [step] at h
      exact ih h
    | link target =>
      rw [step] at h
      cases rest with
      | nil => exact ⟨_, rfl⟩
      | cons second more => exact follows _ _ _ _ h
    | missing =>
      rw [step] at h
      exact ⟨l, h⟩

theorem walkWithin_stay {limit : Nat} (h : walkWithin look true limit here steps = .ok l) :
    ∃ k, walkWithin look false limit here steps = .ok k := by
  induction limit generalizing here steps l with
  | zero => exact walk_stay (fun _ _ _ _ none => by cases none) h
  | succ limit ih => exact walk_stay (fun _ _ _ _ h => ih h) h

theorem walk_append {f g : Location → Path → List String → Except Fault Location} {followLast : Bool}
    {ends : Except Fault Location} (more : rest ≠ []) (directory : look d = some .directory)
    (onward : walk look followLast g d rest = ends)
    (follows : ∀ here target steps, f here target steps = .ok d → g here target (steps ++ rest) = ends)
    (h : walk look true f here steps = .ok d) : walk look followLast g here (steps ++ rest) = ends := by
  induction steps generalizing here with
  | nil =>
    cases h
    exact onward
  | cons name steps ih =>
    have directory' := directory_of_walk_cons h
    have open' : (steps ++ rest).isEmpty = false := by simp [more]
    rw [List.cons_append]
    rw [walk_cons directory'] at h ⊢
    cases step : stride look here name with
    | onward =>
      rw [step] at h
      exact ih h
    | link target =>
      simp only [step, Bool.not_true, Bool.and_false, Bool.false_eq_true, if_false] at h
      simp only [open', Bool.false_and, Bool.false_eq_true, if_false]
      exact follows _ _ _ h
    | missing =>
      -- A walk does not arrive in a directory where nothing is.
      simp only [step] at h
      split at h <;> cases h
      rw [(missing_of_stride step).2] at directory
      cases directory

theorem walkWithin_append {limit : Nat} {followLast : Bool} {ends : Except Fault Location} (more : rest ≠ [])
    (directory : look d = some .directory)
    (onward : ∀ limit, walkWithin look followLast limit d rest = ends)
    (h : walkWithin look true limit here steps = .ok d) :
    walkWithin look followLast limit here (steps ++ rest) = ends := by
  induction limit generalizing here steps with
  | zero => exact walk_append more directory (onward 0) (fun _ _ _ none => by cases none) h
  | succ limit ih =>
    refine walk_append more directory (onward (limit + 1)) (fun here target steps h => ?_) h
    have led := ih h
    rwa [List.append_assoc] at led

theorem walk_strip {f g : Location → Path → List String → Except Fault Location}
    (follows : ∀ here target steps, f here target (steps ++ ["."]) = .ok d →
      g here target steps = .ok d)
    (h : walk look true f here (steps ++ ["."]) = .ok d) : walk look true g here steps = .ok d := by
  induction steps generalizing here with
  | nil =>
    rw [List.nil_append, walk_here (directory_of_walk_cons h)] at h
    exact h
  | cons name steps ih =>
    rw [List.cons_append] at h
    have directory := directory_of_walk_cons h
    rw [walk_cons directory] at h ⊢
    cases step : stride look here name with
    | onward =>
      rw [step] at h
      exact ih h
    | link target =>
      simp only [step, Bool.not_true, Bool.and_false, Bool.false_eq_true, if_false] at h ⊢
      exact follows _ _ _ h
    | missing => simp [step] at h

theorem walkWithin_strip {limit : Nat} (h : walkWithin look true limit here (steps ++ ["."]) = .ok d) :
    walkWithin look true limit here steps = .ok d := by
  induction limit generalizing here steps with
  | zero => exact walk_strip (fun _ _ _ none => by cases none) h
  | succ limit ih =>
    refine walk_strip (fun here target steps h => ih ?_) h
    rwa [List.append_assoc]

theorem walk_init {f g : Location → Path → List String → Except Fault Location} {followLast : Bool}
    {last : String}
    (follows : ∀ here target steps, f here target (steps ++ [last]) = .ok l →
      ∃ d, g here target steps = .ok d ∧ look d = some .directory)
    (h : walk look followLast f here (steps ++ [last]) = .ok l) :
    ∃ d, walk look true g here steps = .ok d ∧ look d = some .directory := by
  induction steps generalizing here with
  | nil => exact ⟨here, rfl, directory_of_walk_cons h⟩
  | cons name steps ih =>
    rw [List.cons_append] at h
    have directory := directory_of_walk_cons h
    have open' : (steps ++ [last]).isEmpty = false := by simp
    rw [walk_cons directory] at h ⊢
    cases step : stride look here name with
    | onward =>
      rw [step] at h
      exact ih h
    | link target =>
      simp only [step, open', Bool.not_true, Bool.and_false, Bool.false_and, Bool.false_eq_true, if_false] at h ⊢
      exact follows _ _ _ h
    | missing => simp [step] at h

theorem walkWithin_init {limit : Nat} {followLast : Bool} {last : String}
    (h : walkWithin look followLast limit here (steps ++ [last]) = .ok l) :
    ∃ d, walkWithin look true limit here steps = .ok d ∧ look d = some .directory := by
  induction limit generalizing here steps with
  | zero => exact walk_init (fun _ _ _ none => by cases none) h
  | succ limit ih =>
    refine walk_init (fun here target steps h => ih ?_) h
    rwa [List.append_assoc]

/-- More ways lead to what stays wherever fewer do, also where the last link is followed. -/
theorem walk_stays (ways : ∀ k n, n.isWay = true → look k = some n → other k = some n)
    {node : Node} (there : look d = some node) (stays : other d = some node)
    {f g : Location → Path → List String → Except Fault Location}
    (follows : ∀ here target rest, f here target rest = .ok d → g here target rest = .ok d)
    (h : walk look true f here steps = .ok d) : walk other true g here steps = .ok d := by
  induction steps generalizing here with
  | nil => exact h
  | cons name rest ih =>
    have directory := directory_of_walk_cons h
    rw [walk_cons directory] at h
    rw [walk_cons (ways _ _ rfl directory)]
    cases step : stride look here name with
    | onward =>
      rw [step] at h
      cases rest with
      | nil =>
        -- The walk ends here, where the same stands for both.
        obtain rfl : arrival here name = d := Except.ok.inj h
        by_cases isName : IsName name
        · have stride' : stride other here name = stride look here name := by
            rw [stride_name isName, stride_name isName, ← arrival_name isName, there, stays]
          rw [stride', step]
          rfl
        · rw [stride_of_not_name isName]
          rfl
      | cons second more =>
        rw [stride_mono ways (directory_of_walk_cons h)]
        exact ih h
    | link target =>
      rw [stride_link_mono ways step]
      simp only [step, Bool.not_true, Bool.and_false, Bool.false_eq_true, if_false] at h ⊢
      exact follows _ _ _ h
    | missing =>
      simp only [step] at h
      split at h <;> cases h
      rw [(missing_of_stride step).2] at there
      cases there

theorem walkWithin_stays (ways : ∀ k n, n.isWay = true → look k = some n → other k = some n)
    {node : Node} (there : look d = some node) (stays : other d = some node) {limit : Nat}
    (h : walkWithin look true limit here steps = .ok d) :
    walkWithin other true limit here steps = .ok d := by
  induction limit generalizing here steps with
  | zero => exact walk_stays ways there stays (fun _ _ _ none => by cases none) h
  | succ limit ih => exact walk_stays ways there stays (fun _ _ _ h => ih h) h

theorem walkWithin_keep (ways : ∀ k n, n.isWay = true → look k = some n → other k = some n)
    (directory : look d = some .directory) {limit : Nat}
    (h : walkWithin look true limit here steps = .ok d) :
    walkWithin other true limit here steps = .ok d :=
  walkWithin_stays ways directory (ways _ _ rfl directory) h

end Tree

end Waymark
