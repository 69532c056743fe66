import Waymark.Proofs.Disk.Replace

/-! When files changed. Whatever the script lets fail, a call leaves the items outside of its places as they are,
their times included, and a file that it puts in place has a time of the call.
-/

set_option autoImplicit false

namespace Waymark

open OnDisk

variable {a b c tree after base : Tree} {places : Location → Prop} {path source target : Path}
  {dir l k : Location} {name : String} {content : ByteArray} {time : Nat} {disk : Disk}

namespace Tree

/-- What stands outside of the places stays as it is, with its time. -/
def Spares (places : Location → Prop) (a b : Tree) : Prop :=
  ∀ k, ¬places k → ∀ item, a.item? k = some item → b.item? k = some item

namespace Spares

theorem refl (places : Location → Prop) (tree : Tree) : Spares places tree tree := fun _ _ _ there => there

theorem trans (first : Spares places a b) (second : Spares places b c) : Spares places a c :=
  fun k outside item there => second k outside item (first k outside item there)

theorem put (tree : Tree) (inside : places l) (item : Item) : Spares places tree (tree.put l item) := by
  intro k outside other there
  rw [item?_put, if_neg, there]
  rintro rfl
  exact outside inside

theorem erase (tree : Tree) (inside : places l) : Spares places tree (tree.erase l) := by
  intro k outside other there
  rw [item?_erase, if_neg, there]
  rintro rfl
  exact outside inside

theorem makeDirectory (made : tree.makeDirectory path time = .ok after) : Spares places tree after := by
  obtain ⟨l, -, missing, rfl⟩ := makeDirectory_ok made
  intro k _ item there
  rw [item?_put, if_neg, there]
  rintro rfl
  have inside : k ≠ [] := by
    rintro rfl
    simp at missing
  rw [node?_eq_item? _ inside, there] at missing
  cases missing

theorem makeDirectoriesWithin (time depth : Nat) (tree : Tree) (path : Path) :
    Spares places tree (makeDirectoriesWithin time depth tree path).2 :=
  makeDirectoriesWithin_keeps (fun _ _ _ before made => before.trans (makeDirectory made)) depth path
    (.refl places tree)

end Spares

theorem Touches.item? (touches : Touches dir places a b) (spares : Spares places a b) (outside : ¬places k)
    (off : ¬k <+: dir) : b.item? k = a.item? k := by
  have inside : k ≠ [] := by
    rintro rfl
    exact off (List.nil_prefix)
  cases there : a.item? k with
  | some item => exact spares k outside item there
  | none =>
    have same := touches.same outside off
    rwa [node?_eq_item? _ inside, node?_eq_item? _ inside, there, Option.map_none, Option.map_eq_none_iff] at same

end Tree

theorem OnDisk.Meets.and {ε α : Type} {P P' : α → Disk → Prop} {Q Q' : ε → Disk → Prop}
    {result : Except ε α × Disk} (first : Meets P Q result) (second : Meets P' Q' result) :
    Meets (fun value disk => P value disk ∧ P' value disk) (fun error disk => Q error disk ∧ Q' error disk)
      result := by
  obtain ⟨outcome, after⟩ := result
  cases outcome <;> exact ⟨first, second⟩

namespace Disk

open Waymark.Tree (Spares)

/-- Time has not gone back, and items outside of the places are as they were. -/
structure Dates (places : Location → Prop) (before after : Disk) : Prop where
  time : before.time ≤ after.time
  spares : Spares places before.tree after.tree

namespace Dates

variable {first second third : Disk}

theorem refl (places : Location → Prop) (disk : Disk) : Dates places disk disk := ⟨Nat.le_refl _, .refl _ _⟩

theorem called (places : Location → Prop) (disk : Disk) (calls : List Call) :
    Dates places disk { disk with calls } := ⟨Nat.le_refl _, .refl _ _⟩

theorem trans (early : Dates places first second) (late : Dates places second third) : Dates places first third :=
  ⟨Nat.le_trans early.time late.time, early.spares.trans late.spares⟩

end Dates

/-- A file that was put in place after one disk and before another one. -/
def DatedFile (content : ByteArray) (k : Location) (before after : Disk) : Prop :=
  ∃ time, before.time ≤ time ∧ time < after.time ∧ after.tree.item? k = some ⟨.file content, time⟩

theorem settle_dates {result : Except Fault Tree} (ok : ∀ tree, result = .ok tree → Spares places disk.tree tree) :
    Dates places disk (disk.settle result).2 := by
  cases result with
  | ok tree => exact ⟨Nat.le_succ _, ok tree rfl⟩
  | error fault => exact .refl places disk

theorem write_dates (content : ByteArray) (inside : ∀ l, disk.tree.resolve path true = .ok l → places l) :
    Meets
      (fun _ after => Dates places disk after ∧
        ∃ l, disk.tree.resolve path true = .ok l ∧ DatedFile content l disk after)
      (fun _ after => Dates places disk after) (write path content disk) := by
  have spares : ∀ content tree, disk.tree.write path content disk.time = .ok tree → Spares places disk.tree tree := by
    intro content tree written
    obtain ⟨l, led, -, rfl⟩ := Tree.write_put written
    exact .put disk.tree (inside l led) _
  unfold write
  split
  · rename_i failed _
    change Dates places disk (leave _ path failed.left)
    unfold leave
    split
    · exact .called places disk _
    · exact .trans (.called places disk _) (settle_dates (spares _))
  · cases written : disk.tree.write path content disk.time with
    | error fault => exact Dates.called places disk _
    | ok tree =>
      refine ⟨⟨Nat.le_succ _, spares content tree written⟩, ?_⟩
      obtain ⟨l, led, -, rfl⟩ := Tree.write_put written
      exact ⟨l, led, disk.time, Nat.le_refl _, Nat.lt_succ_self _, (Tree.item?_put ..).trans (if_pos rfl)⟩

theorem rename_dates (inside : ∀ l, disk.tree.resolve source false = .ok l → places l)
    (inside' : ∀ l, disk.tree.resolve target false = .ok l → places l) :
    Meets
      (fun _ after => Dates places disk after ∧ ∃ l d item, disk.tree.resolve source false = .ok l ∧
        disk.tree.resolve target false = .ok d ∧ disk.tree.item? l = some item ∧ after.tree.item? d = some item)
      (fun _ after => after.tree = disk.tree ∧ after.time = disk.time) (rename source target disk) := by
  unfold rename
  split
  · exact ⟨rfl, rfl⟩
  · cases renamed : disk.tree.rename source target with
    | error fault => exact ⟨rfl, rfl⟩
    | ok tree =>
      obtain ⟨l, d, item, led, leads, there, -, rfl⟩ := Tree.rename_put renamed
      refine ⟨⟨Nat.le_succ _, ?_⟩, l, d, item, led, leads, there, (Tree.item?_put ..).trans (if_pos rfl)⟩
      exact (Spares.erase disk.tree (inside l led)).trans (.put _ (inside' d leads) item)

theorem removeOptional_dates (inside : ∀ l, disk.tree.resolve path false = .ok l → places l) :
    Dates places disk (removeOptional path disk).2 := by
  refine settle_dates fun tree removed => ?_
  rcases Tree.removeOptional_ok removed with rfl | ⟨l, n, led, -, -, rfl⟩
  · exact .refl places _
  · exact .erase disk.tree (inside l led)

theorem remove_dates (inside : ∀ l, disk.tree.resolve path false = .ok l → places l) :
    Meets
      (fun _ after => Dates places disk after ∧
        ∃ l, disk.tree.resolve path false = .ok l ∧ after.tree.item? l = none)
      (fun _ after => after = disk) (remove path disk) := by
  unfold remove
  cases removed : disk.tree.remove path with
  | error fault => rfl
  | ok tree =>
    obtain ⟨l, -, led, -, -, rfl⟩ := Tree.remove_ok removed
    exact ⟨⟨Nat.le_succ _, .erase disk.tree (inside l led)⟩, l, led, (Tree.item?_erase ..).trans (if_pos rfl)⟩

theorem ensureParent_dates (path : Path) (disk : Disk) : Dates places disk (ensureParent path disk).2 := by
  unfold ensureParent
  split
  · exact .refl places disk
  · exact ⟨Nat.le_refl _, .makeDirectoriesWithin _ _ _ _⟩

theorem DatedFile.since {first : Disk} {last : Disk} (dated : DatedFile content k disk last)
    (early : first.time ≤ disk.time) : DatedFile content k first last := by
  obtain ⟨time, low, high, there⟩ := dated
  exact ⟨time, Nat.le_trans early low, high, there⟩

section
variable {x y : Slot} (seat : base.Seats path dir name)
include seat

theorem writeTemporary_dates (attempts : Nat) (content : ByteArray)
    (laid : base.Laid [(path, x), (path.temporary, y)] disk.tree) :
    Meets
      (fun _ after => Dates (Beside dir name) disk after ∧ DatedFile content (dir ++ [name ++ ".tmp"]) disk after)
      (fun _ after => Dates (Beside dir name) disk after) (writeTemporary attempts path content disk) := by
  have laid : base.Laid ([(path, x)] ++ (path.temporary, y) :: []) disk.tree := laid
  have start : base.Laid ([(path, x)] ++ (path.temporary, .unknown) :: []) disk.tree := laid.tell trivial
  refine (retry_meets (P := fun between =>
    base.Laid ([(path, x)] ++ (path.temporary, .unknown) :: []) between.tree ∧ Dates (Beside dir name) disk between)
    (fun between ⟨laid, dates⟩ => ?_) attempts ⟨start, .refl _ disk⟩).mono (fun _ _ done => done) fun _ _ => And.right
  have led : ∀ l, between.tree.resolve path.temporary true = .ok l → l = dir ++ [name ++ ".tmp"] := fun l followed =>
    temporary_of_resolve seat (laid.resolve.1 (Tree.resolve_unlinked laid.unlinked followed))
  have inside : ∀ l, between.tree.resolve path.temporary true = .ok l → Beside dir name l :=
    fun l followed => .inr (led l followed)
  refine ((write_meets content laid).and (write_dates content inside)).mono ?_ ?_
  · rintro - after ⟨-, later, l, followed, dated⟩
    obtain rfl := led l followed
    exact ⟨dates.trans later, dated.since dates.time⟩
  · exact fun _ after ⟨laid, later⟩ => ⟨laid, dates.trans later⟩

theorem renameTemporary_dates {first : Disk} (attempts : Nat)
    (laid : base.Laid [(path, x), (path.temporary, .holds content)] disk.tree)
    (dates : Dates (Beside dir name) first disk) (dated : DatedFile content (dir ++ [name ++ ".tmp"]) first disk) :
    Meets (fun _ after => Dates (Beside dir name) first after ∧ DatedFile content (dir ++ [name]) first after)
      (fun _ after => Dates (Beside dir name) first after) (renameTemporary attempts path disk) := by
  -- A renaming that fails changes nothing, so each attempt starts with a temporary file of the same time.
  refine (retry_meets (P := fun between =>
    base.Laid ([(path, x)] ++ (path.temporary, .holds content) :: []) between.tree ∧
      Dates (Beside dir name) first between ∧ DatedFile content (dir ++ [name ++ ".tmp"]) first between)
    (fun between ⟨laid, dates, dated⟩ => ?_) attempts ⟨laid, dates, dated⟩).mono (fun _ _ done => done)
    fun _ _ kept => kept.2.1
  have source : ∀ l, between.tree.resolve path.temporary false = .ok l → l = dir ++ [name ++ ".tmp"] := fun l led =>
    temporary_of_resolve seat (laid.resolve.1 led)
  have target : ∀ l, between.tree.resolve path false = .ok l → l = dir ++ [name] := fun l led =>
    beside_of_resolve seat (laid.ways.resolve.2 led)
  have inside : ∀ l, between.tree.resolve path.temporary false = .ok l → Beside dir name l :=
    fun l led => .inr (source l led)
  have inside' : ∀ l, between.tree.resolve path false = .ok l → Beside dir name l := fun l led => .inl (target l led)
  refine (rename_dates inside inside').mono ?_ ?_
  · rintro - after ⟨later, l, d, item, led, leads, there, moved⟩
    obtain rfl := source l led
    obtain rfl := target d leads
    obtain ⟨time, low, high, here⟩ := dated
    rw [here] at there
    cases there
    exact ⟨dates.trans later, time, low, Nat.lt_of_lt_of_le high later.time, moved⟩
  · rintro - after ⟨tree, time⟩
    unfold DatedFile
    rw [tree, time]
    exact ⟨laid, ⟨time ▸ dates.time, tree ▸ dates.spares⟩, dated⟩

end

/-- Whatever a replacement comes to, it is dated; a file that is put in place has a time of the call. -/
theorem replace_dates (attempts : Nat) (content : ByteArray) (seat : disk.tree.Seats path dir name)
    (unlinked : ∀ k, Beside dir name k → ∀ target, disk.tree.node? k ≠ some (.link target)) :
    Meets (fun _ after => Dates (Beside dir name) disk after ∧ DatedFile content (dir ++ [name]) disk after)
      (fun _ after => Dates (Beside dir name) disk after) (replace attempts path content disk) := by
  have made := ensureParent_meets path disk
  have dates : Dates (Beside dir name) disk (ensureParent path disk).2 := ensureParent_dates path disk
  refine replace_ends (fun error based parent => ?_) fun based parent => ?_ <;> rw [parent] at made dates
  · exact dates
  · obtain ⟨grows, -⟩ := made
    have seat' := seat.grows grows
    have laid := laid_beside seat' fun k beside target link =>
      unlinked k beside target (grows.kept link (by simp))
    have first : Meets
        (fun _ after => Dates (Beside dir name) based after ∧ DatedFile content (dir ++ [name]) based after)
        (fun _ after => Dates (Beside dir name) based after)
        ((writeTemporary attempts path content >>= fun _ => renameTemporary attempts path) based) := by
      have slots : based.tree.Laid ([(path, .kept)] ++ (path.temporary, .kept) :: []) based.tree := laid
      have both := (writeTemporary_meets attempts content slots).and (writeTemporary_dates seat' attempts content laid)
      refine (both.mono (fun _ _ done => done) fun _ _ => And.right).bind ?_
      rintro - between ⟨laid, dates, dated⟩
      exact renameTemporary_dates seat' attempts laid dates dated
    refine (first.and (replaced_meets attempts content laid)).mono ?_ ?_
    · rintro - after ⟨⟨later, dated⟩, -⟩
      exact ⟨dates.trans later, dated.since dates.time⟩
    -- A failure is followed by the removal of the temporary file.
    · rintro - after ⟨later, left⟩
      have left : based.tree.Laid ([(path, .kept)] ++ (path.temporary, .unknown) :: []) after.tree := left
      have cleared : Dates (Beside dir name) after (removeOptional path.temporary after).2 :=
        removeOptional_dates fun l led => .inr (temporary_of_resolve seat' (left.resolve.1 led))
      exact dates.trans (later.trans cleared)

end Disk

end Waymark
