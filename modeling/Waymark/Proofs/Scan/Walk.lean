import Waymark.Proofs.Scan.Sight
import Waymark.Scan.Basic

/-! The walk of a scan. It sees everything below its root that does not stand in an ignored directory or in one
that cannot be listed, each entry once and in the order of the names, and the findings are what the entries come to
one after the other.
-/

set_option autoImplicit false

namespace Waymark

namespace Finding

variable {α β : Type} {sight : Sight} {scope : Scope} {tree : Tree} {root : Location} {names above : List String}
  {name : String} {depth : Nat}

/-! What items come to one after the other -/

def gather (find : α → Except Overflow (List Finding)) (items : List α) : Except Overflow (List Finding) := do
  return (← items.mapM find).flatten

theorem gather_nil (find : α → Except Overflow (List Finding)) : gather find [] = .ok [] := rfl

theorem gather_cons (find : α → Except Overflow (List Finding)) (item : α) (items : List α) :
    gather find (item :: items) = do return (← find item) ++ (← gather find items) := by
  unfold gather
  rw [List.mapM_cons]
  cases find item with
  | error refused => rfl
  | ok found => cases items.mapM find <;> rfl

theorem gather_append (find : α → Except Overflow (List Finding)) (items more : List α) :
    gather find (items ++ more) = do return (← gather find items) ++ (← gather find more) := by
  induction items with
  | nil =>
    rw [List.nil_append, gather_nil]
    cases gather find more <;> rfl
  | cons item items ih =>
    rw [List.cons_append, gather_cons, gather_cons, ih]
    cases find item with
    | error refused => rfl
    | ok found =>
      cases gather find items with
      | error refused => rfl
      | ok found =>
        cases gather find more with
        | error refused => rfl
        | ok found => exact congrArg Except.ok (List.append_assoc _ _ _).symm

theorem gather_flatMap (find : β → Except Overflow (List Finding)) (parts : α → List β) (items : List α) :
    gather find (items.flatMap parts) = gather (fun item => gather find (parts item)) items := by
  induction items with
  | nil => rfl
  | cons item items ih => rw [List.flatMap_cons, gather_append, gather_cons, ih]

theorem gather_congr {find other : α → Except Overflow (List Finding)} {items : List α}
    (same : ∀ item ∈ items, find item = other item) : gather find items = gather other items := by
  induction items with
  | nil => rfl
  | cons item items ih =>
    rw [gather_cons, gather_cons, same item List.mem_cons_self,
      ih fun item among => same item (List.mem_cons_of_mem _ among)]

/-- What an item comes to, nothing where it is refused. -/
def foundBy (find : α → Except Overflow (List Finding)) (item : α) : List Finding :=
  (find item).toOption.getD []

theorem gather_cases (find : α → Except Overflow (List Finding)) (items : List α) :
    (gather find items = .ok (items.flatMap (foundBy find)) ∧ ∀ item ∈ items, find item = .ok (foundBy find item)) ∨
      ∃ refused, gather find items = .error refused ∧ ∃ item ∈ items, find item = .error refused := by
  induction items with
  | nil => exact .inl ⟨rfl, fun _ among => absurd among List.not_mem_nil⟩
  | cons item items ih =>
    rw [gather_cons]
    cases found : find item with
    | error refused => exact .inr ⟨refused, rfl, item, List.mem_cons_self, found⟩
    | ok own =>
      have here : find item = .ok (foundBy find item) := by rw [foundBy, found]; rfl
      rcases ih with ⟨rest, all⟩ | ⟨refused, rest, other, among, failed⟩
      · left
        refine ⟨?_, fun other among => ?_⟩
        · rw [rest, List.flatMap_cons, foundBy, found]
          rfl
        · rcases List.mem_cons.1 among with rfl | among
          · exact here
          · exact all other among
      · right
        refine ⟨refused, ?_, other, List.mem_cons_of_mem _ among, failed⟩
        rw [rest]
        rfl

theorem gather_filter {find : α → Except Overflow (List Finding)} {items : List α} {keeps : α → Bool}
    (nothing : ∀ item ∈ items, keeps item = false → find item = .ok []) :
    gather find (items.filter keeps) = gather find items := by
  induction items with
  | nil => rfl
  | cons item items ih =>
    have rest := ih fun other among => nothing other (List.mem_cons_of_mem _ among)
    cases kept : keeps item with
    | true => rw [List.filter_cons_of_pos kept, gather_cons, gather_cons, rest]
    | false =>
      rw [List.filter_cons_of_neg (by simp [kept]), gather_cons, nothing item List.mem_cons_self kept, rest]
      cases gather find items <;> rfl

/-! Entries -/

/-- What one entry comes to, a directory that is entered to nothing by itself. -/
def ofEntry (sight : Sight) (scope : Scope) (tree : Tree) (root : Location) (names : List String) :
    Except Overflow (List Finding) :=
  if scope.rules.excludes (names.map sight.text) then
    .ok (if tree.node? (root ++ names) = some .directory then [.pruned] else [])
  else
    match tree.node? (root ++ names) with
    | some .directory => .ok (if sight.opens names then [] else [.closed])
    | some (.file content) => ofFile sight scope names content.size (some content)
    | some (.locked size) => ofFile sight scope names size none
    | _ => .ok []

/-- Neither ignored nor closed. -/
def Passes (sight : Sight) (scope : Scope) (names : List String) : Prop :=
  scope.rules.excludes (names.map sight.text) = false ∧ sight.opens names = true

instance (sight : Sight) (scope : Scope) (names : List String) : Decidable (Passes sight scope names) :=
  inferInstanceAs (Decidable (_ ∧ _))

def Enters (sight : Sight) (scope : Scope) (tree : Tree) (root : Location) (names : List String) : Prop :=
  Passes sight scope names ∧ tree.node? (root ++ names) = some .directory

instance (sight : Sight) (scope : Scope) (tree : Tree) (root : Location) (names : List String) :
    Decidable (Enters sight scope tree root names) := inferInstanceAs (Decidable (_ ∧ _))

def visited (sight : Sight) (scope : Scope) (tree : Tree) (root : Location) : Nat → List String → List (List String)
  | 0, _ => []
  | depth + 1, names => (sight.namesIn tree (root ++ names)).flatMap fun name =>
    (names ++ [name]) :: if Enters sight scope tree root (names ++ [name]) then
      visited sight scope tree root depth (names ++ [name]) else []

theorem below_eq_gather (sight : Sight) (scope : Scope) (tree : Tree) (root : Location) (depth : Nat)
    (names : List String) : below sight scope tree root depth names =
      gather (ofEntry sight scope tree root) (visited sight scope tree root depth names) := by
  induction depth generalizing names with
  | zero => rfl
  | succ depth ih =>
    rw [visited, gather_flatMap, below]
    refine gather_congr fun name _ => ?_
    rw [gather_cons]
    dsimp only
    by_cases enters : Enters sight scope tree root (names ++ [name])
    · have ⟨⟨kept, opened⟩, directory⟩ := enters
      rw [if_pos enters, ofEntry, kept, directory]
      simp only [Bool.false_eq_true, if_false, opened, if_true]
      rw [ih]
      cases gather (ofEntry sight scope tree root) (visited sight scope tree root depth (names ++ [name])) <;> rfl
    · have single : ∀ result : Except Overflow (List Finding),
          result = (do return (← result) ++ (← gather (ofEntry sight scope tree root) [])) := by
        rintro (refused | found)
        · rfl
        · exact congrArg Except.ok (List.append_nil _).symm
      rw [if_neg enters]
      refine Eq.trans ?_ (single _)
      rw [ofEntry]
      cases kept : scope.rules.excludes ((names ++ [name]).map sight.text) with
      | true => rfl
      | false =>
        cases directory : tree.node? (root ++ (names ++ [name])) with
        | none => rfl
        | some node =>
          cases node with
          | file _ | locked _ | link _ => rfl
          | directory =>
            -- What can be listed is entered.
            cases opened : sight.opens (names ++ [name]) with
            | false => simp
            | true => exact absurd ⟨⟨kept, opened⟩, directory⟩ enters

/-! What the walk sees -/

/-- Something stands there, and no directory above it is ignored or closed. -/
structure Seen (sight : Sight) (scope : Scope) (tree : Tree) (root : Location) (names : List String) : Prop where
  inside : names ≠ []
  there : tree.node? (root ++ names) ≠ none
  passed : ∀ above, above ≠ [] → above <+: names → above ≠ names → Passes sight scope above

theorem mem_visited_succ {seen : List String} :
    seen ∈ visited sight scope tree root (depth + 1) names ↔ ∃ name, tree.node? (root ++ (names ++ [name])) ≠ none ∧
      (seen = names ++ [name] ∨ Enters sight scope tree root (names ++ [name]) ∧
        seen ∈ visited sight scope tree root depth (names ++ [name])) := by
  simp only [visited, List.mem_flatMap, Sight.mem_namesIn, List.append_assoc, List.mem_cons]
  refine exists_congr fun name => and_congr_right fun _ => or_congr_right ?_
  split <;> simp [*]

/-- No directory between one that is entered and what lies below it is ignored or closed. -/
def Way (sight : Sight) (scope : Scope) (names rest : List String) : Prop :=
  ∀ above, above ≠ [] → above <+: rest → above ≠ rest → Passes sight scope (names ++ above)

theorem way_singleton : Way sight scope names [name] := by
  intro above some within apart
  obtain ⟨first, later, rfl⟩ := List.exists_cons_of_ne_nil some
  obtain ⟨rfl, inner⟩ := List.cons_prefix_cons.1 within
  obtain rfl : later = [] := List.prefix_nil.1 inner
  exact absurd rfl apart

theorem way_cons {rest : List String} (more : rest ≠ []) : Way sight scope names (name :: rest) ↔
    Passes sight scope (names ++ [name]) ∧ Way sight scope (names ++ [name]) rest := by
  constructor
  · intro way
    refine ⟨way [name] (by simp) (by simp) (by simpa using more.symm), fun above some within apart => ?_⟩
    rw [List.append_assoc]
    exact way (name :: above) (by simp) (List.cons_prefix_cons.2 ⟨rfl, within⟩) (by simpa using apart)
  · rintro ⟨passes, way⟩ above some within apart
    obtain ⟨first, later, rfl⟩ := List.exists_cons_of_ne_nil some
    obtain ⟨rfl, inner⟩ := List.cons_prefix_cons.1 within
    by_cases last : later = []
    · rwa [last]
    · have further := way later last inner fun same => apart (by rw [same])
      rwa [List.append_assoc] at further

/-- In a well-formed tree what holds an entry is a directory, so only an ignored or closed one keeps the walk away
from it. -/
theorem mem_visited (formed : tree.Formed) {seen : List String} :
    seen ∈ visited sight scope tree root depth names ↔ ∃ rest, seen = names ++ rest ∧ rest ≠ [] ∧
      rest.length ≤ depth ∧ tree.node? (root ++ seen) ≠ none ∧ Way sight scope names rest := by
  induction depth generalizing names with
  | zero =>
    constructor
    · intro among
      cases among
    · rintro ⟨rest, -, some, short, -⟩
      exact absurd (List.length_eq_zero_iff.1 (Nat.le_zero.1 short)) some
  | succ depth ih =>
    rw [mem_visited_succ]
    constructor
    · rintro ⟨name, listed, rfl | ⟨entered, among⟩⟩
      · exact ⟨[name], rfl, by simp, by simp, listed, way_singleton⟩
      · obtain ⟨rest, rfl, more, short, there, way⟩ := ih.1 among
        exact ⟨name :: rest, by simp, by simp, by simpa using short, there, (way_cons more).2 ⟨entered.1, way⟩⟩
    -- What holds an entry is a directory, so the walk goes on inside of it.
    · rintro ⟨rest, rfl, more, short, there, way⟩
      obtain ⟨name, rest, rfl⟩ := List.exists_cons_of_ne_nil more
      by_cases last : rest = []
      · subst last
        exact ⟨name, there, .inl rfl⟩
      · obtain ⟨passes, way⟩ := (way_cons last).1 way
        have split : names ++ name :: rest = names ++ [name] ++ rest := by simp
        have directory : tree.node? (root ++ (names ++ [name])) = some .directory := by
          refine formed.directory_of_prefix (formed.above there) ?_
          rw [split, ← List.append_assoc root (names ++ [name]), List.dropLast_append_of_ne_nil last]
          exact List.prefix_append _ _
        refine ⟨name, by simp [directory], .inr ⟨⟨passes, directory⟩, ?_⟩⟩
        exact ih.2 ⟨rest, split, last, by simpa using short, there, way⟩

/-! The order of the walk -/

theorem extends_of_mem_visited {seen : List String} (among : seen ∈ visited sight scope tree root depth names) :
    ∃ rest, rest ≠ [] ∧ seen = names ++ rest := by
  induction depth generalizing names with
  | zero => cases among
  | succ depth ih =>
    obtain ⟨name, -, rfl | ⟨-, among⟩⟩ := mem_visited_succ.1 among
    · exact ⟨[name], by simp, rfl⟩
    · obtain ⟨rest, -, rfl⟩ := ih among
      exact ⟨name :: rest, by simp, by simp⟩

theorem visited_from (sight : Sight) (scope : Scope) (tree : Tree) (root : Location) (depth : Nat)
    (names : List String) : ∀ seen ∈ (if Enters sight scope tree root names then
      visited sight scope tree root depth names else []), ∃ rest, rest ≠ [] ∧ seen = names ++ rest := by
  intro seen among
  split at among
  · exact extends_of_mem_visited among
  · cases among

theorem visited_ascending (faithful : sight.Faithful) (distinct : (tree.items.map Prod.fst).Nodup) :
    (visited sight scope tree root depth names).Pairwise fun before after =>
      before.map sight.key < after.map sight.key := by
  induction depth generalizing names with
  | zero => exact .nil
  | succ depth ih =>
    rw [visited, List.pairwise_flatMap]
    constructor
    · intro name _
      rw [List.pairwise_cons]
      constructor
      -- An entry comes before what it holds, for its names are the front of theirs.
      · intro seen among
        obtain ⟨rest, more, rfl⟩ := visited_from _ _ _ _ _ _ seen among
        obtain ⟨first, rest, rfl⟩ := List.exists_cons_of_ne_nil more
        have empty : [] < sight.key first :: rest.map sight.key := List.nil_lt_cons _ _
        have longer : (names ++ [name]).map sight.key ++ [] <
            (names ++ [name]).map sight.key ++ sight.key first :: rest.map sight.key := List.append_left_lt empty
        rwa [List.append_nil, ← List.map_cons, ← List.map_append] at longer
      · split
        · exact ih
        · exact .nil
    -- What lies below different names of a directory is in the order of these names.
    · have above : ∀ name seen, seen ∈ (names ++ [name]) :: (if Enters sight scope tree root (names ++ [name]) then
          visited sight scope tree root depth (names ++ [name]) else []) → ∃ rest, seen = names ++ name :: rest := by
        intro name seen among
        rcases List.mem_cons.1 among with rfl | among
        · exact ⟨[], rfl⟩
        · obtain ⟨rest, -, rfl⟩ := visited_from _ _ _ _ _ _ seen among
          exact ⟨rest, by simp⟩
      refine (Sight.ascending_namesIn faithful distinct _).imp fun before seen among seen' among' => ?_
      obtain ⟨rest, rfl⟩ := above _ _ among
      obtain ⟨rest', rfl⟩ := above _ _ among'
      rw [List.map_append, List.map_append, List.map_cons, List.map_cons]
      exact List.append_left_lt (List.cons_lt_cons_iff.2 (.inl before))

end Finding

namespace Scan

open Finding

variable {sight : Sight} {scope : Scope} {tree : Tree} {home : Location} {names : List String} {root : Path}

/-! The root -/

theorem rootLocation_ok (rooted : rootLocation tree root = .ok home) :
    root.text.isEmpty = false ∧ tree.node? home = some .directory ∧ Tree.walkWithin tree.node? true Tree.maxLinks
      (if root.isAbsolute then [] else tree.workingDir) root.steps = .ok home := by
  unfold rootLocation at rooted
  cases resolved : tree.resolve root true with
  | error fault =>
    rw [resolved] at rooted
    cases rooted
  | ok location =>
    rw [resolved] at rooted
    dsimp only at rooted
    split at rooted
    · rename_i directory
      cases rooted
      obtain ⟨text, walked⟩ := Tree.locate_ok.1 resolved
      exact ⟨text, directory, walked⟩
    · cases rooted
    · cases rooted

theorem rootLocation_directory (rooted : rootLocation tree root = .ok home) :
    tree.node? home = some .directory := (rootLocation_ok rooted).2.1

theorem rootLocation_of_resolve (led : tree.resolve root true = .ok home)
    (directory : tree.node? home = some .directory) : rootLocation tree root = .ok home := by
  rw [rootLocation, led]
  dsimp only
  rw [directory]

/-! All entries -/

theorem length_le_depth {k : Location} (there : tree.node? k ≠ none) : k.length ≤ depth tree := by
  have bounded : ∀ (lengths : List Nat) (start : Nat), start ≤ lengths.foldl max start ∧
      ∀ length ∈ lengths, length ≤ lengths.foldl max start := by
    intro lengths
    induction lengths with
    | nil => exact fun start => ⟨Nat.le_refl _, fun _ among => absurd among List.not_mem_nil⟩
    | cons first rest ih =>
      intro start
      obtain ⟨lower, all⟩ := ih (max start first)
      refine ⟨Nat.le_trans (Nat.le_max_left _ _) lower, fun length among => ?_⟩
      rcases List.mem_cons.1 among with rfl | among
      · exact Nat.le_trans (Nat.le_max_right _ _) lower
      · exact all length among
  by_cases inside : k = []
  · subst inside
    exact Nat.zero_le _
  · obtain ⟨entry, among, same⟩ := List.mem_map.1 ((Tree.node?_ne_none_iff inside).1 there)
    exact (bounded _ 0).2 _ (List.mem_map.2 ⟨entry, among, by rw [same]⟩)

def walk (sight : Sight) (scope : Scope) (tree : Tree) (home : Location) : List (List String) :=
  visited sight scope tree home (depth tree + 1) []

theorem mem_walk (formed : tree.Formed) :
    names ∈ walk sight scope tree home ↔ Seen sight scope tree home names := by
  rw [walk, mem_visited formed]
  constructor
  · rintro ⟨rest, rfl, more, -, there, way⟩
    exact ⟨more, there, way⟩
  · rintro ⟨more, there, passed⟩
    have short := length_le_depth there
    rw [List.length_append] at short
    exact ⟨names, rfl, more, by omega, there, passed⟩

theorem walk_ascending (faithful : sight.Faithful) (distinct : (tree.items.map Prod.fst).Nodup) :
    (walk sight scope tree home).Pairwise fun before after => before.map sight.key < after.map sight.key :=
  visited_ascending faithful distinct

theorem walk_nodup (faithful : sight.Faithful) (distinct : (tree.items.map Prod.fst).Nodup) :
    (walk sight scope tree home).Nodup := by
  refine (walk_ascending faithful distinct).imp fun before same => ?_
  rw [same] at before
  exact List.lt_irrefl _ before

theorem look_eq (opened : sight.opens [] = true) (rooted : rootLocation tree root = .ok home) :
    Scan.look sight scope tree root = ((gather (ofEntry sight scope tree home)
      (walk sight scope tree home)).map (ofFindings scope)).mapError .overflow := by
  rw [look, opened, rooted, walk, ← below_eq_gather]
  simp only [bind, Except.bind]
  cases below sight scope tree home (depth tree + 1) [] <;> rfl

end Scan

end Waymark
