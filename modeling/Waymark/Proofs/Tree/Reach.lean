import Waymark.Proofs.Path.Join
import Waymark.Proofs.Tree.Formed
import Waymark.Proofs.Tree.Prior

/-! Paths to a directory that is there, or to one that is still to be made inside of such a directory.
Every path that appends names to such a path has its place in every tree of a run.
-/

set_option autoImplicit false

namespace Waymark.Tree

def origin (tree : Tree) (absolute : Bool) : Location := if absolute then [] else tree.workingDir

/-- Steps that lead through directories and then, with plain names, through directories or nothing. -/
inductive Leads (tree : Tree) (absolute : Bool) : List String → Location → Prop where
  | there {steps : List String} {home : Location}
    (led : walkWithin tree.node? true maxLinks (tree.origin absolute) steps = .ok home)
    (directory : tree.node? home = some .directory) : Leads tree absolute steps home
  | inside {steps : List String} {home : Location} {name : String}
    (outer : Leads tree absolute steps home) (isName : IsName name)
    (free : tree.node? (home ++ [name]) = none ∨ tree.node? (home ++ [name]) = some .directory) :
    Leads tree absolute (steps ++ [name]) (home ++ [name])
  | silent {steps : List String} {home : Location} (outer : Leads tree absolute steps home) :
    Leads tree absolute (steps ++ ["."]) home

/-- A path that leads to a directory, or to one that can be made. -/
def Reaches (tree : Tree) (path : Path) (home : Location) : Prop :=
  tree.Leads path.isAbsolute path.names home

variable {tree a b : Tree} {absolute : Bool} {steps : List String} {home k l : Location} {name : String}
  {path dir : Path}

namespace Leads

theorem change (h : a.Leads absolute steps home) (dir : b.workingDir = a.workingDir)
    (ways : ∀ k n, n.isWay = true → a.node? k = some n → b.node? k = some n)
    (free : ∀ k, k <+: home → a.node? k = none → b.node? k = none ∨ b.node? k = some .directory) :
    b.Leads absolute steps home := by
  induction h with
  | there led directory =>
    refine .there ?_ (ways _ _ rfl directory)
    have := walkWithin_keep ways directory led
    unfold origin at this ⊢
    rwa [dir]
  | inside _ isName here ih =>
    refine .inside (ih fun k above => free k (above.trans (List.prefix_append _ _))) isName ?_
    rcases here with missing | directory
    · exact free _ (List.prefix_refl _) missing
    · exact .inr (ways _ _ rfl directory)
  | silent _ ih => exact .silent (ih free)

theorem grows (h : a.Leads absolute steps home) (grows : a.Grows b) : b.Leads absolute steps home := by
  refine h.change grows.workingDir (fun _ _ _ there => grows.keeps there) fun k _ missing => ?_
  rcases grows.look k with same | ⟨-, made⟩
  · exact .inl (same.trans missing)
  · exact .inr made

theorem silents (h : tree.Leads absolute steps home) (n : Nat) :
    tree.Leads absolute (steps ++ List.replicate n ".") home := by
  induction n with
  | zero => simpa using h
  | succ n ih =>
    rw [List.replicate_succ', ← List.append_assoc]
    exact ih.silent

theorem strip (h : tree.Leads absolute (steps ++ ["."]) home) : tree.Leads absolute steps home := by
  generalize whole : steps ++ ["."] = all at h
  cases h with
  | there led directory =>
    subst whole
    exact .there (walkWithin_strip led) directory
  | inside _ isName _ =>
    have ends := List.append_inj_right' whole rfl
    simp only [List.cons.injEq, and_true] at ends
    exact absurd ends.symm isName.1
  | silent outer =>
    obtain rfl := List.append_inj_left' whole rfl
    exact outer

theorem stripAll {n : Nat} (h : tree.Leads absolute (steps ++ List.replicate n ".") home) :
    tree.Leads absolute steps home := by
  induction n with
  | zero => simpa using h
  | succ n ih =>
    rw [List.replicate_succ', ← List.append_assoc] at h
    exact ih h.strip

theorem walk {look : Location → Option Node} (h : tree.Leads absolute steps home)
    (ways : ∀ k n, n.isWay = true → tree.node? k = some n → look k = some n)
    (opens : ∀ k, k <+: home → tree.node? k = none → look k = some .directory) :
    walkWithin look true maxLinks (tree.origin absolute) steps = .ok home ∧
      look home = some .directory := by
  induction h with
  | there led directory => exact ⟨walkWithin_keep ways directory led, ways _ _ rfl directory⟩
  | @inside steps home name _ isName free ih =>
    obtain ⟨led, directory⟩ := ih fun k above => opens k (above.trans (List.prefix_append _ _))
    have next : look (home ++ [name]) = some .directory := by
      rcases free with missing | there
      · exact opens _ (List.prefix_refl _) missing
      · exact ways _ _ rfl there
    refine ⟨walkWithin_append (by simp) directory (fun limit => ?_) led, next⟩
    cases limit <;> simp [walkWithin, Tree.walk, directory, next, isName.1, isName.2]
  | silent _ ih =>
    obtain ⟨led, directory⟩ := ih opens
    refine ⟨walkWithin_append (by simp) directory (fun limit => ?_) led, directory⟩
    cases limit <;> exact walk_here directory

theorem filled (h : tree.Leads absolute steps home) :
    walkWithin tree.filled true maxLinks (tree.origin absolute) steps = .ok home ∧
      tree.filled home = some .directory :=
  h.walk (fun k n _ there => by simp [Tree.filled, there]) fun k _ missing => by
    simp [Tree.filled, missing]

theorem led (h : tree.Leads absolute steps home) (formed : tree.Formed)
    (directory : tree.node? home = some .directory) :
    walkWithin tree.node? true maxLinks (tree.origin absolute) steps = .ok home :=
  (h.walk (fun _ _ _ there => there) fun _ above _ => formed.directory_of_prefix directory above).1

theorem free (h : tree.Leads absolute steps home) : tree.node? home = none ∨ tree.node? home = some .directory := by
  induction h with
  | there _ directory => exact .inr directory
  | inside _ _ free _ => exact free
  | silent _ ih => exact ih

theorem unique (h : tree.Leads absolute steps home) (other : tree.Leads absolute steps l) : home = l :=
  Except.ok.inj (h.filled.1.symm.trans other.filled.1)

theorem last_cases (h : tree.Leads absolute (steps ++ [name]) l) (isName : IsName name)
    (outer : tree.Leads absolute steps home) :
    l = home ++ [name] ∨ tree.node? home = some .directory ∧ tree.node? l = some .directory := by
  generalize whole : steps ++ [name] = all at h
  cases h with
  | there led directory =>
    subst whole
    obtain ⟨d, led, inner⟩ := walkWithin_init led
    exact .inr ⟨outer.unique (.there led inner) ▸ inner, directory⟩
  | inside outer' _ _ =>
    obtain rfl := List.append_inj_left' whole rfl
    obtain rfl : name = _ := by simpa using List.append_inj_right' whole rfl
    exact .inl (by rw [outer'.unique outer])
  | silent _ =>
    have ends := List.append_inj_right' whole rfl
    simp only [List.cons.injEq, and_true] at ends
    exact absurd ends isName.1

end Leads

namespace Reaches

theorem join (h : tree.Reaches dir home) (isFile : IsFileName name)
    (free : tree.node? (home ++ [name]) = none ∨ tree.node? (home ++ [name]) = some .directory) :
    tree.Reaches (dir.join name) (home ++ [name]) := by
  unfold Reaches
  rw [Path.names_join dir isFile, Path.isAbsolute_join dir isFile]
  exact .inside h isFile.isName free

theorem free (h : tree.Reaches path home) : tree.node? home = none ∨ tree.node? home = some .directory :=
  Leads.free h

theorem join_cases (h : tree.Reaches (dir.join name) l) (isFile : IsFileName name) (outer : tree.Reaches dir home) :
    l = home ++ [name] ∨ tree.node? home = some .directory ∧ tree.node? l = some .directory := by
  unfold Reaches at h
  rw [Path.names_join dir isFile, Path.isAbsolute_join dir isFile] at h
  exact h.last_cases isFile.isName outer

theorem place (h : tree.Reaches dir home) (isFile : IsFileName name) :
    tree.place? (dir.join name) = some (home ++ [name]) := by
  obtain ⟨led, directory⟩ := Leads.filled h
  have located : locate tree.filled tree.workingDir (dir.join name) false = .ok (home ++ [name]) := by
    refine locate_ok.2 ⟨by simpa using Path.text_join_ne_empty dir isFile, ?_⟩
    rw [Path.steps_join dir isFile, Path.isAbsolute_join dir isFile]
    refine walkWithin_append (by simp) directory (fun limit => ?_) led
    cases limit <;> exact walk_last isFile.isName directory
  simp [place?, located, Except.toOption]

theorem place_temporary (h : tree.Reaches dir home) (isFile : IsFileName name) :
    tree.place? (dir.join name).temporary = some (home ++ [name ++ ".tmp"]) := by
  obtain ⟨parent, n, same, names, absolute⟩ := Path.temporary_join dir isFile
  rw [same]
  refine place ?_ (Path.isFileName_temporary isFile)
  unfold Reaches at h ⊢
  rw [names, ← absolute] at h
  exact h.stripAll

theorem resolve_step (h : tree.Reaches dir home) (isName : IsName name) (formed : tree.Formed)
    (directory : tree.node? home = some .directory) (text : path.text ≠ "") (steps : path.steps = dir.names ++ [name])
    (absolute : path.isAbsolute = dir.isAbsolute) : tree.resolve path false = .ok (home ++ [name]) := by
  refine locate_ok.2 ⟨by simpa using text, ?_⟩
  rw [steps, absolute]
  refine walkWithin_append (by simp) directory (fun limit => ?_) (h.led formed directory)
  cases limit <;> exact walk_last isName directory

theorem resolve_join (h : tree.Reaches dir home) (isFile : IsFileName name) (formed : tree.Formed)
    (directory : tree.node? home = some .directory) :
    tree.resolve (dir.join name) false = .ok (home ++ [name]) :=
  h.resolve_step isFile.isName formed directory (Path.text_join_ne_empty dir isFile) (Path.steps_join dir isFile)
    (Path.isAbsolute_join dir isFile)

theorem resolve (h : tree.Reaches dir home) (isFile : IsFileName name) (formed : tree.Formed)
    (there : tree.node? (home ++ [name]) ≠ none) :
    tree.resolve (dir.join name) false = .ok (home ++ [name]) :=
  h.resolve_join isFile formed (formed.inside home name there)

theorem resolve_directory (h : tree.Reaches path home) (formed : tree.Formed)
    (directory : tree.node? home = some .directory) (text : path.text ≠ "") :
    tree.resolve path true = .ok home := by
  obtain ⟨n, steps⟩ := Path.steps_names path
  have led := (Leads.silents h n).led formed directory
  rw [← steps] at led
  exact locate_ok.2 ⟨by simpa using text, led⟩

theorem grows (h : a.Reaches path home) (grows : a.Grows b) : b.Reaches path home :=
  Leads.grows h grows

end Reaches

def readNode : Option Node → Except Fault (Option ByteArray)
  | none => .ok none
  | some (.file content) => .ok (some content)
  | some (.locked _) => .error .permissionDenied
  | some .directory => .error .isDirectory
  | some (.link _) => .error .tooManyLinks

theorem eq_file_of_readNode {node : Option Node} {content : ByteArray} (h : readNode node = .ok (some content)) :
    node = some (.file content) := by
  unfold readNode at h
  split at h <;> cases h
  rfl

theorem stride_filled (tree : Tree) (here : Location) (name : String) :
    stride tree.filled here name = match stride tree.node? here name with
      | .link target => .link target
      | _ => .onward := by
  by_cases isName : IsName name
  · rw [stride_name isName, stride_name isName, Tree.filled]
    cases tree.node? (here ++ [name]) with
    | none => rfl
    | some node => cases node <;> rfl
  · rw [stride_of_not_name isName, stride_of_not_name isName]

theorem walk_unfilled {f g : Location → Path → List String → Except Fault Location} {here : Location}
    (unlinked : ∀ target, tree.node? l ≠ some (.link target))
    (follows : ∀ here target rest, f here target rest = .ok l →
      g here target rest = .ok l ∨ g here target rest = .error .notFound)
    (h : Tree.walk tree.filled false f here steps = .ok l) :
    Tree.walk tree.node? true g here steps = .ok l ∨
      Tree.walk tree.node? true g here steps = .error .notFound := by
  induction steps generalizing here with
  | nil => exact .inl h
  | cons name rest ih =>
    have directory := directory_of_walk_cons h
    cases node : tree.node? here with
    -- Where nothing is the filled tree has a directory and the tree itself stops the walk.
    | none => right; simp [Tree.walk, node]
    | some n =>
      obtain rfl : n = .directory := by simpa [filled, node] using directory
      rw [walk_cons directory, stride_filled] at h
      rw [walk_cons node]
      cases step : stride tree.node? here name with
      | onward =>
        rw [step] at h
        exact ih h
      | link target =>
        rw [step] at h
        cases rest with
        | nil =>
          cases h
          exact absurd (link_of_stride step).2 (unlinked target)
        | cons second more => exact follows _ _ _ h
      | missing =>
        rw [step] at h
        cases rest with
        | nil =>
          rw [arrival_name (missing_of_stride step).1] at h
          exact .inl h
        | cons second more => exact .inr rfl

theorem walkWithin_unfilled {limit : Nat} {here : Location}
    (unlinked : ∀ target, tree.node? l ≠ some (.link target))
    (h : walkWithin tree.filled false limit here steps = .ok l) :
    walkWithin tree.node? true limit here steps = .ok l ∨
      walkWithin tree.node? true limit here steps = .error .notFound := by
  induction limit generalizing here steps with
  | zero => exact walk_unfilled unlinked (fun _ _ _ none => by cases none) h
  | succ limit ih => exact walk_unfilled unlinked (fun _ _ _ h => ih h) h

theorem resolve_of_place (place : tree.place? path = some l)
    (unlinked : ∀ target, tree.node? l ≠ some (.link target)) :
    tree.resolve path true = .ok l ∨ tree.resolve path true = .error .notFound := by
  have located : locate tree.filled tree.workingDir path false = .ok l := by
    unfold place? at place
    cases located : locate tree.filled tree.workingDir path false with
    | error fault => simp [located, Except.toOption] at place
    | ok k => simpa [located, Except.toOption] using place
  obtain ⟨text, walked⟩ := locate_ok.1 located
  rcases walkWithin_unfilled unlinked walked with led | missing
  · exact .inl (locate_ok.2 ⟨text, led⟩)
  · right
    unfold Tree.resolve locate
    rw [text]
    exact missing

theorem readOptional_of_place (place : tree.place? path = some l)
    (unlinked : ∀ target, tree.node? l ≠ some (.link target))
    (settled : tree.node? l ≠ none → tree.resolve path false = .ok l) :
    tree.readOptional path = readNode (tree.node? l) := by
  cases there : tree.node? l with
  | some n =>
    have led := resolve_follow unlinked (settled (by simp [there]))
    unfold readOptional
    rw [read_of_node led there]
    cases n <;> rfl
  | none =>
    have find : tree.find path = .error .notFound := by
      rcases resolve_of_place place unlinked with led | missing
      · simp [find, led, bind, Except.bind, there]
        rfl
      · simp [find, missing, bind, Except.bind]
    simp [readOptional, read, find, bind, Except.bind, readNode]

/-- Something stands at a location that paths do not lead through. -/
def Barred (tree : Tree) (k : Location) : Prop := ∃ node, tree.node? k = some node ∧ node.isWay = false

theorem Barred.not_free (h : tree.Barred k) : ¬(tree.node? k = none ∨ tree.node? k = some .directory) := by
  obtain ⟨node, there, bar⟩ := h
  rintro (missing | directory)
  · rw [there] at missing
    cases missing
  · rw [there] at directory
    cases directory
    cases bar

theorem free_or_barred (unlinked : ∀ target, tree.node? k ≠ some (.link target)) :
    (tree.node? k = none ∨ tree.node? k = some .directory) ∨ tree.Barred k := by
  cases there : tree.node? k with
  | none => exact .inl (.inl rfl)
  | some node =>
    cases node with
    | directory => exact .inl (.inr rfl)
    | link target => exact absurd there (unlinked target)
    | file _ | locked _ => exact .inr ⟨_, there, rfl⟩

theorem Reaches.resolve_barred {room : String} {followLast : Bool} (h : tree.Reaches dir home)
    (formed : tree.Formed) (isName : IsName room) (barred : tree.Barred (home ++ [room]))
    (steps : path.steps = dir.names ++ [room] ++ [name]) (absolute : path.isAbsolute = dir.isAbsolute) :
    tree.resolve path followLast = .error .notDirectory := by
  obtain ⟨node, there, bar⟩ := barred
  have directory := formed.inside home room (by simp [there])
  have text : path.text.isEmpty ≠ true := by
    simpa using Path.text_ne_empty_of_steps (by simp [steps])
  rw [Tree.resolve, locate, if_neg text, steps, absolute, List.append_assoc]
  refine walkWithin_append (by simp) directory (fun limit => ?_) (h.led formed directory)
  cases limit <;> exact walk_barred isName directory there bar

theorem Reaches.place_barred {room : String} (h : tree.Reaches dir home) (isName : IsName room)
    (barred : tree.Barred (home ++ [room])) (steps : path.steps = dir.names ++ [room] ++ [name])
    (absolute : path.isAbsolute = dir.isAbsolute) : tree.place? path = none := by
  obtain ⟨node, there, bar⟩ := barred
  obtain ⟨led, directory⟩ := Leads.filled h
  have text : path.text.isEmpty ≠ true := by
    simpa using Path.text_ne_empty_of_steps (by simp [steps])
  have stops : locate tree.filled tree.workingDir path false = .error .notDirectory := by
    rw [locate, if_neg text, steps, absolute, List.append_assoc]
    refine walkWithin_append (by simp) directory (fun limit => ?_) led
    cases limit <;> exact walk_barred isName directory (by simp [filled, there]) bar
  rw [place?, stops]
  rfl

/-! Making directories -/

/-- Nothing changes but at a location and above it. -/
structure Within (home : Location) (before after : Tree) : Prop where
  formed : after.Formed
  same : ∀ k, after.node? k = before.node? k ∨ k <+: home

theorem Within.refl (home : Location) (formed : tree.Formed) : Within home tree tree :=
  ⟨formed, fun _ => .inl rfl⟩

theorem Within.trans {c : Tree} {inner : Location} (first : Within inner a b) (second : Within home b c)
    (above : inner <+: home) : Within home a c where
  formed := second.formed
  same k := by
    rcases second.same k with same | here
    · exact (first.same k).imp same.trans fun here => here.trans above
    · exact .inr here

theorem Formed.makeDirectory {time : Nat} (formed : tree.Formed) (made : tree.makeDirectory path time = .ok a) :
    a.Formed := by
  obtain ⟨l, led, missing, rfl⟩ := makeDirectory_ok made
  exact formed.put missing (formed.resolve led)

theorem makeDirectory_within {time : Nat} (h : tree.Reaches path home) (formed : tree.Formed)
    (made : tree.makeDirectory path time = .ok a) : Within home tree a := by
  have formed' := formed.makeDirectory made
  obtain ⟨l, led, missing, rfl⟩ := makeDirectory_ok made
  refine ⟨formed', fun k => ?_⟩
  have inside : l ≠ [] := by rintro rfl; simp at missing
  rw [node?_put _ _ _ _ inside]
  by_cases here : k = l
  · right
    -- Nothing stands where the path leads, so it leads where it does when all directories are made.
    obtain ⟨text, walked⟩ := locate_ok.1 led
    have stays : walkWithin tree.filled false maxLinks (tree.origin path.isAbsolute) path.steps = .ok l :=
      walkWithin_mono (fun k n _ there => by simp [filled, there]) walked
    have follows := walkWithin_follow (by simp [filled, missing]) stays
    obtain ⟨n, steps⟩ := Path.steps_names path
    have goal := (h.silents n).filled.1
    rw [← steps, follows] at goal
    cases goal
    exact here ▸ List.prefix_refl _
  · exact .inl (if_neg here)

theorem Reaches.no_directory (h : tree.Reaches path home) (formed : tree.Formed) (text : path.text.isEmpty = false)
    (missing : tree.resolve path false = .error .notFound) : tree.node? home ≠ some .directory := by
  intro directory
  obtain ⟨j, steps⟩ := Path.steps_names path
  have led := (h.silents j).led formed directory
  rw [← steps] at led
  obtain ⟨k, stays⟩ := resolve_stay (locate_ok.2 ⟨text, led⟩ : tree.resolve path true = .ok home)
  rw [missing] at stays
  cases stays

theorem Reaches.parent {parent : Path} (h : tree.Reaches path home) (formed : tree.Formed)
    (above : path.parent? = some parent) (some : parent.text ≠ "") (text : path.text ≠ "")
    (missing : tree.resolve path false = .error .notFound) :
    ∃ outer, tree.Reaches parent outer ∧ outer <+: home := by
  have text : path.text.isEmpty = false := by simpa using text
  have notDirectory := h.no_directory formed text missing
  rcases Path.steps_of_parent path with ⟨n, steps⟩ | ⟨parent', last, n, m, above', steps, -, same⟩
  · -- Such a path leads to where it starts, and there is a directory.
    have start : tree.node? (tree.origin path.isAbsolute) = Option.some .directory := by
      unfold origin
      split
      · exact node?_root tree
      · exact formed.grounded
    have led : tree.resolve path false = .ok (tree.origin path.isAbsolute) := by
      refine locate_ok.2 ⟨text, ?_⟩
      rw [steps, ← List.append_nil (List.replicate n ".")]
      exact (walk_silent n start).trans rfl
    rw [missing] at led
    cases led
  · rw [above] at above'
    cases above'
    obtain ⟨j, pathSteps⟩ := Path.steps_names path
    obtain ⟨i, parentSteps⟩ := Path.steps_names parent
    have whole := h.silents j
    rw [← pathSteps, steps, parentSteps, ← List.singleton_append, ← List.append_assoc,
      ← List.append_assoc, ← same some] at whole
    have named := whole.stripAll
    generalize all : (parent.names ++ List.replicate i "." ++ List.replicate n ".") ++ [last] = steps at named
    -- The last name goes one directory further, or it stays where the path above leads.
    cases named with
    | there _ directory => exact absurd directory notDirectory
    | inside outer _ _ =>
      obtain rfl := List.append_inj_left' all rfl
      exact ⟨_, outer.stripAll.stripAll, List.prefix_append _ _⟩
    | silent outer =>
      obtain rfl := List.append_inj_left' all rfl
      exact ⟨_, outer.stripAll.stripAll, List.prefix_refl _⟩

theorem resolve_of_makeDirectory {time : Nat} (h : tree.makeDirectory path time = .error .notFound) :
    tree.resolve path false = .error .notFound := by
  unfold makeDirectory at h
  cases led : tree.resolve path false with
  | error fault => simpa [led, bind, Except.bind] using h
  | ok l =>
    rw [led] at h
    cases there : tree.node? l with
    | none => simp [bind, Except.bind, there, pure, Except.pure] at h
    | some n => simp [bind, Except.bind, there, throw, throwThe, MonadExceptOf.throw] at h

theorem makeDirectoriesWithin_within (time depth : Nat) (tree : Tree) (path : Path) (home : Location)
    (h : tree.Reaches path home) (formed : tree.Formed) :
    Within home tree (makeDirectoriesWithin time depth tree path).2 := by
  induction depth generalizing tree path home with
  | zero => exact .refl home formed
  | succ depth ih =>
    unfold makeDirectoriesWithin
    split
    · exact .refl home formed
    rename_i text
    split
    · rename_i made
      exact makeDirectory_within h formed made
    · rename_i missing
      split
      · exact .refl home formed
      · rename_i parent above
        have grows := (makeDirectoriesWithin_spec time depth tree parent).1
        -- What is made above is on the way, since the path above leads to a part of the way.
        have first : Within home tree (makeDirectoriesWithin time depth tree parent).2 := by
          by_cases empty : parent.text = ""
          · cases depth <;> simp [makeDirectoriesWithin, empty, Within.refl home formed]
          · obtain ⟨outer, reaches, above⟩ := h.parent formed above empty (by simpa using text)
              (resolve_of_makeDirectory missing)
            exact (ih tree parent outer reaches formed).trans (.refl home (ih tree parent outer reaches formed).formed) above
        split
        · rename_i failed
          rw [failed] at first
          exact first
        · rename_i between made
          rw [made] at first grows
          split
          · rename_i again
            exact first.trans (makeDirectory_within (h.grows grows) first.formed again) (List.prefix_refl _)
          · exact first
    · exact .refl home formed

theorem Reaches.readOptional (h : tree.Reaches dir home) (isFile : IsFileName name)
    (formed : tree.Formed) (unlinked : ∀ target, tree.node? (home ++ [name]) ≠ some (.link target)) :
    tree.readOptional (dir.join name) = readNode (tree.node? (home ++ [name])) :=
  readOptional_of_place (h.place isFile) unlinked (h.resolve isFile formed)

end Waymark.Tree
