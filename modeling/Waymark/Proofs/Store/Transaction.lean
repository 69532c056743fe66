import Waymark.Proofs.Disk.Effect
import Waymark.Store.Transaction

/-! A commit is all or nothing. The base that it is compared with is the tree after the priors were
captured, which only gained directories. Staging fills temporary files, publishing moves them to
their targets, and rolling back undoes what was published in the reverse order.
-/

set_option autoImplicit false

namespace Waymark.Transaction

open OnDisk

def paths (staged : List Staged) : List Path :=
  staged.flatMap fun file => [file.target, file.target.temporary]

def slots (target temporary : Staged → Slot) (staged : List Staged) : List (Path × Slot) :=
  staged.flatMap fun file => [(file.target, target file), (file.target.temporary, temporary file)]

section
variable {target temporary : Staged → Slot} {file : Staged} {rest staged : List Staged}

@[simp] theorem slots_nil : slots target temporary [] = [] := rfl

@[simp] theorem slots_cons : slots target temporary (file :: rest) =
    (file.target, target file) :: (file.target.temporary, temporary file) :: slots target temporary rest :=
  rfl

@[simp] theorem slots_append (a b : List Staged) :
    slots target temporary (a ++ b) = slots target temporary a ++ slots target temporary b :=
  List.flatMap_append

@[simp] theorem paths_slots : (slots target temporary staged).map Prod.fst = paths staged := by
  induction staged with
  | nil => rfl
  | cons file rest ih => simp [paths, ih]

theorem mem_slots {slot : Path × Slot} : slot ∈ slots target temporary staged ↔
    ∃ file ∈ staged, slot = (file.target, target file) ∨ slot = (file.target.temporary, temporary file) := by
  simp [slots, List.mem_flatMap]

end

def content (file : Staged) : Slot := .holds file.content

variable {base : Tree} {disk : Disk} {before later : List (Path × Slot)}

/-! Capturing -/

/-- What was read of a target before tells what stands in its place in every tree that only gained
directories since. -/
def Captured (tree : Tree) (replaced : Replaced) : Prop :=
  ∀ base, tree.Grows base → base.Unlinked replaced.staged.target →
    ∀ k, base.resolve replaced.staged.target false = .ok k →
      Tree.Shows (base.node? k) replaced.prior

theorem capture_meets (staged : List Staged)
    (grounded : disk.tree.node? disk.tree.workingDir = some .directory) :
    Meets (fun replaced after => disk.tree.Grows after.tree ∧
        replaced.map (·.staged) = staged ∧ ∀ file ∈ replaced, Captured after.tree file)
      (fun _ after => disk.tree.Grows after.tree) (capture staged disk) := by
  induction staged generalizing disk with
  | nil => exact ⟨Tree.Grows.refl _, rfl, by simp⟩
  | cons file rest ih =>
    unfold capture
    refine (Disk.ensureParent_meets file.target disk).bind fun _ made ⟨grows, above⟩ => ?_
    have grounded' : made.tree.node? made.tree.workingDir = some .directory := by
      rw [grows.workingDir]; exact grows.keeps grounded
    have asked : Meets (fun prior after => after = made ∧ made.tree.readOptional file.target = .ok prior)
        (fun _ after => disk.tree.Grows after.tree) (Disk.ask (·.readOptional file.target) made) :=
      (Disk.ask_meets _ made).mono (fun _ _ asked => asked) (by rintro _ _ rfl; exact grows)
    refine asked.bind ?_
    rintro prior _ ⟨rfl, read⟩
    refine ((ih grounded').mono (fun _ _ captured => captured)
      fun _ _ more => grows.trans more).bind fun replaced after ⟨more, same, known⟩ => ?_
    refine .pure ⟨grows.trans more, by rw [List.map_cons, same], ?_⟩
    rintro file (_ | ⟨_, member⟩)
    -- What was read is still so when the directories of the others are made.
    · intro base further unlinked k led
      exact Tree.node_of_prior (more.trans further) grounded' above read led (unlinked k led)
    · exact known file member

/-! Staging -/

theorem laid_discard {target temporary : Staged → Slot} {staged : List Staged}
    (h : base.Laid (before ++ (slots target temporary staged ++ later)) disk.tree) :
    base.Laid (before ++ (slots target (fun _ => .cleared) staged ++ later))
      (discard staged disk).tree := by
  induction staged generalizing before disk with
  | nil => exact h
  | cons file rest ih =>
    have atTemporary : base.Laid ((before ++ [(file.target, target file)]) ++
        (file.target.temporary, temporary file) :: (slots target temporary rest ++ later)) disk.tree := by
      simpa using h
    have removed := Disk.laid_removeOptional atTemporary
    have removed : base.Laid ((before ++ [(file.target, target file), (file.target.temporary, .cleared)]) ++
        (slots target temporary rest ++ later)) (Disk.removeOptional file.target.temporary disk).2.tree := by
      simpa using removed
    simpa [discard] using ih removed

theorem laid_weaken {tree : Tree} {target temporary : Staged → Slot} (before : List (Path × Slot))
    (target' temporary' : Staged → Slot) {staged : List Staged} (h : base.Laid (before ++ (slots target temporary staged ++ later)) tree)
    (weakTarget : ∀ file path, (target file).Is base tree path → (target' file).Is base tree path)
    (weakTemporary : ∀ file path,
      (temporary file).Is base tree path → (temporary' file).Is base tree path) :
    base.Laid (before ++ (slots target' temporary' staged ++ later)) tree := by
  refine h.tellAll (by simp) fun slot member => ?_
  rw [List.mem_append, List.mem_append, mem_slots] at member
  rcases member with member | ⟨file, member, rfl | rfl⟩ | member
  · exact h.is slot (by simp [member])
  · refine weakTarget _ _ (h.is (file.target, target file) ?_)
    simp only [List.mem_append, mem_slots]
    exact .inr (.inl ⟨file, member, .inl rfl⟩)
  · refine weakTemporary _ _ (h.is (file.target.temporary, temporary file) ?_)
    simp only [List.mem_append, mem_slots]
    exact .inr (.inl ⟨file, member, .inr rfl⟩)
  · exact h.is slot (by simp [member])

/-- Staging fills every temporary file, or leaves none that was not there. -/
theorem stage_meets (attempts : Nat) {written rest : List Staged}
    (h : base.Laid (slots (fun _ => .kept) content written ++
      slots (fun _ => .kept) (fun _ => .kept) rest) disk.tree) :
    Meets
      (fun _ after => base.Laid (slots (fun _ => .kept) content (written ++ rest)) after.tree)
      (fun error after => (∃ path cause, error = .transaction path cause true) ∧
        base.Laid (slots (fun _ => .kept) (fun _ => .cleared) (written ++ rest)) after.tree)
      (stage attempts written rest disk) := by
  induction rest generalizing written disk with
  | nil => simpa [stage, Meets] using h
  | cons file rest ih =>
    have atTemporary : base.Laid ((slots (fun _ => .kept) content written ++ [(file.target, .kept)]) ++
        (file.target.temporary, .kept) :: slots (fun _ => .kept) (fun _ => .kept) rest) disk.tree := by
      simpa using h
    have result := Disk.writeTemporary_meets attempts file.content atTemporary
    unfold stage
    cases call : Disk.writeTemporary attempts file.target file.content disk with
    | mk outcome after =>
      rw [call] at result
      cases outcome with
      | ok value =>
        have filled : base.Laid (slots (fun _ => .kept) content (written ++ [file]) ++
            slots (fun _ => .kept) (fun _ => .kept) rest) after.tree := by
          simpa [Meets, content] using result
        simpa using ih filled
      | error error =>
        refine ⟨⟨_, _, rfl⟩, ?_⟩
        -- What the failed write left in its file is removed with the others.
        have unknown : base.Laid ([] ++ (slots (fun _ => .kept) content written ++
            ((file.target, .kept) :: (file.target.temporary, .unknown) ::
              slots (fun _ => .kept) (fun _ => .kept) rest))) after.tree := by
          simpa [Meets] using result
        have unknown := laid_weaken [] (fun _ => .kept) (fun _ => .unknown) unknown
          (fun _ _ is => is) fun _ _ _ => trivial
        have unknown : base.Laid ([] ++ (slots (fun _ => .kept) (fun _ => .unknown) (written ++ [file]) ++
            slots (fun _ => .kept) (fun _ => .kept) rest)) after.tree := by
          simpa using unknown
        have removed := laid_discard unknown
        have removed : base.Laid (slots (fun _ => .kept) (fun _ => .cleared) (written ++ [file]) ++
            (slots (fun _ => .kept) (fun _ => .kept) rest ++ [])) (discard (written ++ [file]) after).tree := by
          simpa using removed
        have cleared := laid_weaken _ (fun _ => .kept) (fun _ => .cleared) removed
          (fun _ _ is => is) fun _ _ is => is.cleared_of_kept
        simpa using cleared

/-! Rolling back -/

def rolledBack (done : Bool) (file : Staged) : Slot :=
  if done then .kept else .either file.content

def leftOver (done : Bool) (_ : Staged) : Slot := if done then .cleared else .unknown

theorem rolledBack_and {tree : Tree} {path : Path} {file : Staged} {a : Bool} (b : Bool)
    (is : (rolledBack a file).Is base tree path) : (rolledBack (a && b) file).Is base tree path := by
  cases a <;> cases b
  · exact is
  · exact is
  · exact is.either_of_kept
  · exact is

theorem leftOver_and {tree : Tree} {path : Path} {file : Staged} {a : Bool} (b : Bool)
    (is : (leftOver a file).Is base tree path) : (leftOver (a && b) file).Is base tree path := by
  cases a <;> cases b
  · trivial
  · trivial
  · trivial
  · exact is

theorem Captured.shows {file : Replaced} (known : Captured base file) {x : Slot} {k : Location}
    (h : base.Laid (before ++ (file.staged.target, x) :: later) disk.tree)
    (led : base.resolve file.staged.target false = .ok k) :
    Tree.Shows (base.node? k) file.prior :=
  known base (Tree.Grows.refl base) (h.separate.unlinked _ (by simp)) k led

/-- The slots of a file, with the one of its target before those that stay. -/
theorem regroup (path : Path) (x y : Slot) : before ++ (path, x) :: (path.temporary, y) :: later =
    (before ++ [(path, x)]) ++ (path.temporary, y) :: later := by simp

theorem laid_back {path : Path} {x : Slot} {tree : Tree} {k : Location}
    (h : base.Laid (before ++ (path, x) :: (path.temporary, .gone) :: later) tree)
    (led : base.resolve path false = .ok k) (same : tree.node? k = base.node? k) :
    base.Laid (before ++ (path, .kept) :: (path.temporary, .cleared) :: later) tree := by
  have target : base.Laid (before ++ (path, .kept) :: (path.temporary, .gone) :: later) tree := by
    refine h.tell fun k' led' => ?_
    rw [led] at led'
    cases led'
    exact same
  rw [regroup] at target ⊢
  exact target.tell target.here.cleared_of_gone

theorem laid_torn {file : Staged} {y : Slot} {tree : Tree}
    (h : base.Laid (before ++ (file.target, content file) :: (file.target.temporary, y) :: later) tree) :
    base.Laid (before ++ (file.target, .either file.content) :: (file.target.temporary, .unknown) :: later) tree := by
  have target := h.tell h.here.either_of_holds
  rw [regroup] at target ⊢
  exact target.tell trivial

theorem restoreOne_meets (attempts : Nat) {file : Replaced} (known : Captured base file)
    (h : base.Laid (before ++ (file.staged.target, content file.staged) ::
      (file.staged.target.temporary, .gone) :: later) disk.tree) :
    Meets
      (fun _ after => base.Laid (before ++ (file.staged.target, .kept) ::
        (file.staged.target.temporary, .cleared) :: later) after.tree)
      (fun _ after => base.Laid (before ++ (file.staged.target, .either file.staged.content) ::
        (file.staged.target.temporary, .unknown) :: later) after.tree)
      (restoreOne attempts file disk) := by
  obtain ⟨k, led, there⟩ := h.here
  have shown := known.shows h led
  unfold restoreOne
  cases prior : file.prior with
  | none =>
    -- Nothing was there before, for a directory would still be there instead of the content.
    rw [prior] at shown
    have missing : base.node? k = none := by
      rcases shown with missing | directory
      · exact missing
      · have stays := (h.ways.look k _ rfl).1 directory
        rw [there] at stays
        cases stays
    refine (Disk.removeOptional_meets h).mono (fun _ after removed => ?_) fun _ _ => False.elim
    obtain ⟨l, leads, empty⟩ := removed.here
    cases leads.symm.trans led
    exact laid_back removed led (empty.trans missing.symm)
  | some content =>
    rw [prior] at shown
    have atTemporary := h
    rw [regroup] at atTemporary
    refine ((Disk.writeTemporary_meets attempts content atTemporary).mono (fun _ _ filled => filled)
      fun _ after unknown => ?_).bind fun _ after filled => ?_
    · rw [← regroup] at unknown
      exact laid_torn unknown
    · rw [← regroup] at filled
      refine (Disk.renameTemporary_meets attempts filled).mono (fun _ after put => ?_)
        fun _ after stuck => laid_torn stuck
      obtain ⟨l, leads, there⟩ := put.here
      cases leads.symm.trans led
      exact laid_back put led (there.trans shown.symm)

theorem restore_laid (attempts : Nat) {done : List Replaced} (known : ∀ file ∈ done, Captured base file)
    (h : base.Laid (slots content (fun _ => .gone) (done.map (·.staged)).reverse ++ later) disk.tree) :
    base.Laid (slots (rolledBack (restore attempts done disk).1) (leftOver (restore attempts done disk).1)
      (done.map (·.staged)).reverse ++ later) (restore attempts done disk).2.tree := by
  induction done generalizing disk later with
  | nil => exact h
  | cons file rest ih =>
    have knownRest : ∀ file ∈ rest, Captured base file := fun file member =>
      known file (List.mem_cons_of_mem _ member)
    have last : base.Laid (slots content (fun _ => .gone) (rest.map (·.staged)).reverse ++
        (file.staged.target, content file.staged) :: (file.staged.target.temporary, .gone) :: later)
        disk.tree := by simpa using h
    have one := restoreOne_meets attempts (known file List.mem_cons_self) last
    unfold restore
    cases call : restoreOne attempts file disk with
    | mk outcome after =>
      rw [call] at one
      have step : base.Laid (slots content (fun _ => .gone) (rest.map (·.staged)).reverse ++
          (slots (rolledBack outcome.isOk) (leftOver outcome.isOk) [file.staged] ++ later))
          after.tree := by
        cases outcome with
        | ok value => simpa [Meets, rolledBack, leftOver, Except.isOk, Except.toBool] using one
        | error error => simpa [Meets, rolledBack, leftOver, Except.isOk, Except.toBool] using one
      have all := ih knownRest step
      cases others : restore attempts rest after with
      | mk restored final =>
        rw [others] at all
        simp only [others]
        -- One file that was not restored is enough to say so of all.
        have all : base.Laid ([] ++ (slots (rolledBack restored) (leftOver restored)
            (rest.map (·.staged)).reverse ++
            (slots (rolledBack outcome.isOk) (leftOver outcome.isOk) [file.staged] ++ later)))
            final.tree := all
        have first := laid_weaken [] (rolledBack (outcome.isOk && restored))
          (leftOver (outcome.isOk && restored)) all
          (fun _ _ is => by rw [Bool.and_comm]; exact rolledBack_and _ is)
          (fun _ _ is => by rw [Bool.and_comm]; exact leftOver_and _ is)
        have second := laid_weaken (slots _ _ _) (rolledBack (outcome.isOk && restored))
          (leftOver (outcome.isOk && restored)) first
          (fun _ _ is => rolledBack_and _ is) (fun _ _ is => leftOver_and _ is)
        simpa using second

/-! Publishing -/

/-- Publishing that is stuck puts back what it could. -/
theorem rollBack_laid (attempts : Nat) {done : List Replaced} {rest : List Staged}
    (known : ∀ file ∈ done, Captured base file)
    (h : base.Laid (slots content (fun _ => .gone) (done.map (·.staged)).reverse ++
      slots (fun _ => .kept) content rest) disk.tree) :
    base.Laid (slots (rolledBack (restore attempts done (discard rest disk)).1)
        (leftOver (restore attempts done (discard rest disk)).1) ((done.map (·.staged)).reverse ++ rest))
      (restore attempts done (discard rest disk)).2.tree := by
  have stuck : base.Laid (slots content (fun _ => .gone) (done.map (·.staged)).reverse ++
      (slots (fun _ => .kept) content rest ++ [])) disk.tree := by simpa using h
  have restored := restore_laid attempts known (laid_discard stuck)
  have all := laid_weaken _ (rolledBack (restore attempts done (discard rest disk)).1)
    (leftOver (restore attempts done (discard rest disk)).1) restored
    (fun _ _ is => rolledBack_and (a := true) _ is) (fun _ _ is => leftOver_and (a := true) _ is)
  simpa using all

/-- Publishing gives every target its content, or puts back what it could. -/
theorem publish_meets (attempts : Nat) {done rest : List Replaced} (known : ∀ file ∈ done ++ rest, Captured base file)
    (h : base.Laid (slots content (fun _ => .gone) (done.map (·.staged)).reverse ++
      slots (fun _ => .kept) content (rest.map (·.staged))) disk.tree) :
    Meets
      (fun _ after => base.Laid
        (slots content (fun _ => .gone) ((done.map (·.staged)).reverse ++ rest.map (·.staged))) after.tree)
      (fun error after => ∃ path cause restored, error = .transaction path cause restored ∧
        base.Laid (slots (rolledBack restored) (leftOver restored)
          ((done.map (·.staged)).reverse ++ rest.map (·.staged))) after.tree)
      (publish attempts done rest disk) := by
  induction rest generalizing done disk with
  | nil => simpa [publish, Meets] using h
  | cons file rest ih =>
    have first : base.Laid (slots content (fun _ => .gone) (done.map (·.staged)).reverse ++
        (file.staged.target, .kept) :: (file.staged.target.temporary, .holds file.staged.content) ::
        slots (fun _ => .kept) content (rest.map (·.staged))) disk.tree := by
      simpa [content] using h
    have result := Disk.renameTemporary_meets attempts first
    unfold publish
    cases call : Disk.renameTemporary attempts file.staged.target disk with
    | mk outcome after =>
      rw [call] at result
      cases outcome with
      | ok value =>
        have known' : ∀ other ∈ (file :: done) ++ rest, Captured base other := fun other member =>
          known other (List.perm_middle.mem_iff.2 member)
        have published : base.Laid (slots content (fun _ => .gone) ((file :: done).map (·.staged)).reverse ++
            slots (fun _ => .kept) content (rest.map (·.staged))) after.tree := by
          simpa [Meets, content] using result
        simpa using ih known' published
      | error error =>
        -- The file whose renaming failed is one of those that have kept their targets.
        have stuck : base.Laid (slots content (fun _ => .gone) (done.map (·.staged)).reverse ++
            slots (fun _ => .kept) content ((file :: rest).map (·.staged))) after.tree := by
          simpa [Meets, content] using result
        exact ⟨_, _, _, rfl, rollBack_laid attempts (fun file member => known file (List.mem_append_left _ member)) stuck⟩

/-! The whole commit -/

/-- The tree that a commit is compared with. -/
def captured (staged : List Staged) (disk : Disk) : Tree := (capture staged disk).2.tree

theorem captured_keeps {I : Tree → Prop} {staged : List Staged}
    (keep : ∀ file ∈ staged, ∀ disk : Disk, I disk.tree → I (Disk.ensureParent file.target disk).2.tree)
    (h : I disk.tree) : I (captured staged disk) := by
  suffices kept : Meets (fun _ after => I after.tree) (fun _ after => I after.tree) (capture staged disk) from
    meets_always.1 kept
  induction staged generalizing disk with
  | nil => exact h
  | cons file rest ih =>
    unfold capture
    refine Meets.bind (meets_always.2 (keep file List.mem_cons_self disk h)) fun _ made h => ?_
    have asked : I (Disk.ask (·.readOptional file.target) made).2.tree := h
    refine Meets.bind (meets_always.2 asked) fun _ asked h => ?_
    refine Meets.bind (ih (fun file member => keep file (List.mem_cons_of_mem _ member)) h) fun _ after h => ?_
    exact h

theorem grows_captured (staged : List Staged) (disk : Disk) : disk.tree.Grows (captured staged disk) := by
  refine captured_keeps (fun file _ between grows => grows.trans ?_) (.refl disk.tree)
  exact meets_always.1 ((Disk.ensureParent_meets file.target between).mono (fun _ _ made => made.1)
    fun _ _ grows => grows)

/-- How a commit ends. Either nothing was staged, or every target holds its content, or all of them
were put back as far as the error says. -/
theorem commit_meets (attempts : Nat) {staged : List Staged}
    (grounded : disk.tree.node? disk.tree.workingDir = some .directory)
    (separate : (captured staged disk).Separate (paths staged)) :
    Meets
      (fun _ after => (captured staged disk).Laid (slots content (fun _ => .gone) staged) after.tree)
      (fun error after =>
        (∃ cause, error = .io cause) ∧ after.tree = captured staged disk ∨
        ∃ path cause restored, error = .transaction path cause restored ∧
          (captured staged disk).Laid (slots (rolledBack restored) (leftOver restored) staged) after.tree)
      (commit attempts staged disk) := by
  have capturing := capture_meets staged grounded
  unfold commit captured at *
  cases result : capture staged disk with
  | mk outcome base =>
  rw [result] at capturing separate
  have adapted : ((capture staged).adapt StoreError.io : Storing _) disk =
      (outcome.mapError StoreError.io, base) := by
    change ((capture staged disk).1.mapError StoreError.io, (capture staged disk).2) = _
    rw [result]
  cases outcome with
  | error error =>
    rw [bind_of_error adapted]
    exact .inl ⟨⟨error, rfl⟩, rfl⟩
  | ok replaced =>
  rw [bind_of_ok adapted]
  obtain ⟨-, same, known⟩ := capturing
  -- Before anything is staged all slots are as they were.
  have fresh : base.tree.Laid (slots (fun _ => .kept) content [] ++
      slots (fun _ => .kept) (fun _ => .kept) staged) base.tree := by
    refine ⟨.refl _, by simpa using separate, ?_, fun _ _ => rfl⟩
    intro slot member
    rw [slots_nil, List.nil_append, mem_slots] at member
    obtain ⟨file, -, rfl | rfl⟩ := member <;> exact fun _ _ => rfl
  refine ((stage_meets attempts fresh).mono (fun _ _ filled => filled) ?_).bind fun _ after filled => ?_
  · rintro _ after ⟨⟨path, cause, rfl⟩, cleared⟩
    exact .inr ⟨path, cause, true, rfl, cleared⟩
  -- Publishing starts with nothing published, so all files are among the rest.
  · have filled : base.tree.Laid
        (slots content (fun _ => .gone) (([] : List Replaced).map (·.staged)).reverse ++
          slots (fun _ => .kept) content (replaced.map (·.staged))) after.tree := by
      simpa [same] using filled
    refine (publish_meets attempts (by simpa using known) filled).mono (fun _ after published => ?_) ?_
    · simpa [same] using published
    · rintro _ after ⟨path, cause, restored, rfl, laid⟩
      exact .inr ⟨path, cause, restored, rfl, by simpa [same] using laid⟩

/-! Failures that tell nothing of the files. On a tree with links in the places of files a commit may do
anything; before it stages the first one it does not.
-/

def Staging (error : StoreError) : Prop := ∃ path cause restored, error = .transaction path cause restored

theorem stage_staging (attempts : Nat) (written rest : List Staged) :
    Meets (fun _ _ => True) (fun error _ => Staging error) (stage attempts written rest disk) := by
  induction rest generalizing written disk with
  | nil => trivial
  | cons file rest ih =>
    unfold stage
    split
    · exact ih _
    · exact ⟨_, _, _, rfl⟩

theorem publish_staging (attempts : Nat) (done rest : List Replaced) :
    Meets (fun _ _ => True) (fun error _ => Staging error) (publish attempts done rest disk) := by
  induction rest generalizing done disk with
  | nil => trivial
  | cons file rest ih =>
    unfold publish
    split
    · exact ih _
    · exact ⟨_, _, _, rfl⟩

theorem commit_unstaged (attempts : Nat) (staged : List Staged) :
    Meets (fun _ _ => True) (fun error after => Staging error ∨ disk.tree.Grows after.tree)
      (commit attempts staged disk) := by
  have capturing : Meets (fun _ _ => True) (fun _ after => disk.tree.Grows after.tree) (capture staged disk) := by
    have grows := grows_captured staged disk
    unfold captured at grows
    exact (meets_always.2 grows).mono (fun _ _ _ => trivial) fun _ _ grows => grows
  refine Meets.bind (capturing.mono (fun _ _ h => h) fun _ _ => .inr).adapt fun replaced base _ => ?_
  refine ((stage_staging attempts [] staged).mono (fun _ _ h => h) fun _ _ => .inl).bind fun _ filled _ => ?_
  exact (publish_staging attempts [] replaced).mono (fun _ _ h => h) fun _ _ => .inl

end Waymark.Transaction
