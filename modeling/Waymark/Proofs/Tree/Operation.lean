import Waymark.Proofs.Fallible
import Waymark.Proofs.Path.Parent
import Waymark.Proofs.Tree.Place

/-! What the operations on a tree do where they succeed. -/

set_option autoImplicit false

namespace Waymark.Tree

variable {tree after : Tree} {path source target : Path} {l : Location} {time : Nat}

theorem write_put {content : ByteArray} (h : tree.write path content time = .ok after) :
    ∃ l, tree.resolve path true = .ok l ∧ (∀ n ∈ tree.node? l, ∃ old, n = .file old) ∧
      after = tree.put l ⟨.file content, time⟩ := by
  obtain ⟨l, led, h⟩ := Fallible.bind_ok h
  refine ⟨l, led, ?_⟩
  cases there : tree.node? l with
  | none =>
    rw [there] at h
    exact ⟨by simp, (Except.ok.inj h).symm⟩
  | some n =>
    rw [there] at h
    cases n with
    | directory | link _ | locked _ => cases h
    | file old => exact ⟨by simp, (Except.ok.inj h).symm⟩

theorem write_ok {content : ByteArray} (h : tree.write path content time = .ok after) :
    ∃ l, tree.resolve path true = .ok l ∧ Sets tree l (some (.file content)) after ∧
      ∀ n ∈ tree.node? l, n.isWay = false := by
  obtain ⟨l, led, was, rfl⟩ := write_put h
  have inside : l ≠ [] := by
    rintro rfl
    obtain ⟨old, directory⟩ := was .directory (node?_root tree)
    cases directory
  refine ⟨l, led, .put tree ⟨.file content, time⟩ inside, fun n there => ?_⟩
  obtain ⟨old, rfl⟩ := was n there
  rfl

theorem rename_put (h : tree.rename source target = .ok after) :
    ∃ l d item, tree.resolve source false = .ok l ∧ tree.resolve target false = .ok d ∧ tree.item? l = some item ∧
      tree.node? d ≠ some .directory ∧ after = (tree.erase l).put d item := by
  obtain ⟨l, led, h⟩ := Fallible.bind_ok h
  obtain ⟨d, leads, h⟩ := Fallible.bind_ok h
  split at h
  · cases h
  · cases h
  · cases h
  · rename_i there free
    exact ⟨l, d, _, led, leads, there, free, (Except.ok.inj h).symm⟩

theorem rename_ok {content : ByteArray} (h : tree.rename source target = .ok after)
    (led : tree.resolve source false = .ok l) (file : tree.node? l = some (.file content)) :
    ∃ d taken, tree.resolve target false = .ok d ∧ tree.node? d ≠ some .directory ∧
      Sets tree l none taken ∧ Sets taken d (some (.file content)) after := by
  obtain ⟨l', d, item, led', leads, found, free, rfl⟩ := rename_put h
  obtain rfl : l = l' := Except.ok.inj (led.symm.trans led')
  have inside : l ≠ [] := by
    rintro rfl
    simp at file
  have inside' : d ≠ [] := by
    rintro rfl
    exact free (node?_root tree)
  obtain ⟨node, modified⟩ := item
  obtain rfl : node = .file content := by
    rw [node?_eq_item? _ inside, found] at file
    exact Option.some.inj file
  exact ⟨d, _, leads, free, .erase tree inside, .put _ ⟨.file content, modified⟩ inside'⟩

theorem remove_ok (h : tree.remove path = .ok after) :
    ∃ l n, tree.resolve path false = .ok l ∧ tree.node? l = some n ∧ n ≠ .directory ∧ after = tree.erase l := by
  obtain ⟨l, led, h⟩ := Fallible.bind_ok h
  cases there : tree.node? l with
  | none =>
    rw [there] at h
    cases h
  | some n =>
    rw [there] at h
    cases n with
    | directory => cases h
    | link _ | locked _ | file _ => exact ⟨l, _, led, there, by simp, (Except.ok.inj h).symm⟩

theorem remove_of_node {n : Node} (led : tree.resolve path false = .ok l)
    (there : tree.node? l = some n) (notDirectory : n ≠ .directory) :
    tree.remove path = .ok (tree.erase l) := by
  cases n with
  | directory => exact absurd rfl notDirectory
  | link _ | locked _ | file _ => simp [remove, led, there, bind, Except.bind, pure, Except.pure]

theorem removeOptional_of_node {n : Node} (led : tree.resolve path false = .ok l)
    (there : tree.node? l = some n) (notDirectory : n ≠ .directory) :
    tree.removeOptional path = .ok (tree.erase l) := by
  simp [removeOptional, remove_of_node led there notDirectory]

theorem removeOptional_ok (h : tree.removeOptional path = .ok after) :
    after = tree ∨ ∃ l n, tree.resolve path false = .ok l ∧ tree.node? l = some n ∧
      n ≠ .directory ∧ after = tree.erase l := by
  unfold removeOptional at h
  split at h
  · rename_i removed
    cases h
    exact .inr (remove_ok removed)
  · cases h
    exact .inl rfl
  · cases h

theorem isDirectory_iff : tree.isDirectory path = true ↔
    ∃ d, tree.resolve path true = .ok d ∧ tree.node? d = some .directory := by
  unfold isDirectory find
  cases led : tree.resolve path true with
  | error fault => simp [bind, Except.bind]
  | ok d =>
    cases there : tree.node? d with
    | none => simp [bind, Except.bind, there]
    | some n => cases n <;> simp [bind, Except.bind, there, pure, Except.pure]

/-! Making directories -/

theorem makeDirectory_ok (h : tree.makeDirectory path time = .ok after) :
    ∃ l, tree.resolve path false = .ok l ∧ tree.node? l = none ∧
      after = tree.put l ⟨.directory, time⟩ := by
  obtain ⟨l, led, h⟩ := Fallible.bind_ok h
  cases there : tree.node? l with
  | some n => simp [there] at h
  | none =>
    simp only [there, Option.isSome_none, Bool.false_eq_true, if_false] at h
    cases h
    exact ⟨l, led, there, rfl⟩

theorem grows_of_makeDirectory (h : tree.makeDirectory path time = .ok after) :
    Grows tree after := by
  obtain ⟨l, -, missing, rfl⟩ := makeDirectory_ok h
  exact Grows.put tree missing

theorem isDirectory_of_makeDirectory (h : tree.makeDirectory path time = .ok after) :
    after.isDirectory path = true := by
  have grows := grows_of_makeDirectory h
  obtain ⟨l, led, missing, rfl⟩ := makeDirectory_ok h
  have inside : l ≠ [] := by rintro rfl; simp at missing
  have made : (tree.put l ⟨.directory, time⟩).node? l = some .directory := by
    simp [node?_put _ _ _ _ inside]
  exact isDirectory_iff.2 ⟨l, resolve_follow (by simp [made]) (grows.resolve led), made⟩

theorem isDirectory_of_settleDirectory {fault : Fault}
    (h : tree.settleDirectory path fault = .ok ()) : tree.isDirectory path = true := by
  unfold settleDirectory at h
  split at h
  · assumption
  · cases h

inductive Above : Path → Path → Prop
  | parent {dir path : Path} (up : path.parent? = some dir) : Above dir path
  | further {upper dir path : Path} (above : Above dir path) (up : dir.parent? = some upper) : Above upper path

/-- What holds of a tree and stays so when a directory is made for one of some paths holds after all are made, if
what is above one of these paths is one of them. -/
theorem makeDirectoriesWithin_along {Q : Tree → Prop} {P : Path → Prop}
    (up : ∀ dir upper, P dir → dir.parent? = some upper → P upper)
    (made : ∀ tree dir after, P dir → Q tree → tree.makeDirectory dir time = .ok after → Q after) (depth : Nat)
    (asked : P path) (start : Q tree) : Q (makeDirectoriesWithin time depth tree path).2 := by
  induction depth generalizing tree path with
  | zero => exact start
  | succ depth ih =>
    unfold makeDirectoriesWithin
    split
    · exact start
    split
    · rename_i first
      exact made _ _ _ asked start first
    · split
      · exact start
      rename_i parent next
      -- Where the parent was missing it is made, and then the directory is tried again.
      have above : Q (makeDirectoriesWithin time depth tree parent).2 := ih (up _ _ asked next) start
      split
      · rename_i failed
        rwa [failed] at above
      · rename_i between done
        rw [done] at above
        split
        · rename_i again
          exact made _ _ _ asked above again
        · exact above
    · exact start

theorem makeDirectoriesWithin_keeps {Q : Tree → Prop}
    (made : ∀ tree path after, Q tree → tree.makeDirectory path time = .ok after → Q after) (depth : Nat)
    (path : Path) (start : Q tree) : Q (makeDirectoriesWithin time depth tree path).2 :=
  makeDirectoriesWithin_along (P := fun _ => True) (fun _ _ _ _ => trivial) (fun _ _ _ _ => made _ _ _) depth trivial
    start

theorem makeDirectoriesWithin_spec (time depth : Nat) (tree : Tree) (path : Path) :
    Grows tree (makeDirectoriesWithin time depth tree path).2 ∧
      ((makeDirectoriesWithin time depth tree path).1 = .ok () → path.text ≠ "" →
        (makeDirectoriesWithin time depth tree path).2.isDirectory path = true) := by
  induction depth generalizing tree path with
  | zero => exact ⟨Grows.refl tree, by simp [makeDirectoriesWithin]⟩
  | succ depth ih =>
    unfold makeDirectoriesWithin
    split
    · rename_i empty
      exact ⟨Grows.refl tree, fun _ some => absurd (by simpa using empty) some⟩
    split
    · rename_i made
      exact ⟨grows_of_makeDirectory made, fun _ _ => isDirectory_of_makeDirectory made⟩
    · split
      · exact ⟨Grows.refl tree, by simp⟩
      · rename_i parent _
        have above := (ih tree parent).1
        split
        · rename_i failed
          rw [failed] at above
          exact ⟨above, by simp⟩
        · rename_i between made
          rw [made] at above
          split
          · rename_i again
            exact ⟨above.trans (grows_of_makeDirectory again),
              fun _ _ => isDirectory_of_makeDirectory again⟩
          · exact ⟨above, fun settled _ => isDirectory_of_settleDirectory settled⟩
    · exact ⟨Grows.refl tree, fun settled _ => isDirectory_of_settleDirectory settled⟩

end Waymark.Tree
