/-! Computations that may fail. Where a whole one succeeds each of its steps did, and what each step keeps holds in the
end.
-/

set_option autoImplicit false

namespace Waymark.Fallible

variable {ε σ α β : Type}

theorem bind_ok {x : Except ε α} {f : α → Except ε β} {y : β}
    (h : (x >>= f) = .ok y) : ∃ a, x = .ok a ∧ f a = .ok y := by
  cases x with
  | error e => cases h
  | ok a => exact ⟨a, rfl, h⟩

theorem ok_of_toOption {result : Except ε α} {value : α} (succeeds : result.toOption = some value) :
    result = .ok value := by
  cases result with
  | error error => cases succeeds
  | ok found => exact congrArg Except.ok (Option.some.inj succeeds)

theorem exists_of_isOk {result : Except ε α} (h : result.isOk = true) :
    ∃ value, result = .ok value := by
  cases result with
  | ok value => exact ⟨value, rfl⟩
  | error error => cases h

/-! Steps taken one after another -/

variable {step : σ → α → Except ε σ} {motive : List α → σ → Prop} {items others : List α} {start last : σ}

theorem foldlM_ok
    (keeps : ∀ {done state item next}, motive done state → step state item = .ok next → motive (done ++ [item]) next)
    (first : motive [] start) (ran : items.foldlM step start = .ok last) : motive items last := by
  have run : ∀ done state, motive done state → items.foldlM step state = .ok last → motive (done ++ items) last := by
    clear first ran
    induction items with
    | nil =>
      intro done state here ran
      cases ran
      rwa [List.append_nil]
    | cons item rest ih =>
      intro done state here ran
      rw [List.foldlM_cons] at ran
      obtain ⟨next, stepped, ran⟩ := bind_ok ran
      rw [← List.singleton_append, ← List.append_assoc]
      exact ih _ next (keeps here stepped) ran
  exact run [] start first ran

theorem exists_foldlM
    (goesOn : ∀ {done item rest state}, items = done ++ item :: rest → motive done state →
      ∃ next, step state item = .ok next ∧ motive (done ++ [item]) next)
    (first : motive [] start) : ∃ last, items.foldlM step start = .ok last := by
  have run : ∀ done rest state, items = done ++ rest → motive done state →
      ∃ last, rest.foldlM step state = .ok last := by
    intro done rest
    induction rest generalizing done with
    | nil => exact fun state _ _ => ⟨state, rfl⟩
    | cons item rest ih =>
      intro state parts here
      obtain ⟨next, stepped, later⟩ := goesOn parts here
      obtain ⟨last, ran⟩ := ih (done ++ [item]) next (by rw [parts]; simp) later
      exact ⟨last, by rw [List.foldlM_cons, stepped]; exact ran⟩
  exact run [] items start rfl first

/-- A fold whose steps can be taken the other way round, two at a time, ends the same whatever the order. -/
theorem foldlM_perm
    (swap : ∀ {start a mid b last}, step start a = .ok mid → step mid b = .ok last →
      ∃ other, step start b = .ok other ∧ step other a = .ok last)
    (perm : items.Perm others) (ran : items.foldlM step start = .ok last) : others.foldlM step start = .ok last := by
  induction perm generalizing start with
  | nil => exact ran
  | cons item _ ih =>
    rw [List.foldlM_cons] at ran ⊢
    obtain ⟨next, stepped, ran⟩ := bind_ok ran
    rw [stepped]
    exact ih ran
  | swap first second rest =>
    rw [List.foldlM_cons] at ran
    obtain ⟨mid, early, ran⟩ := bind_ok ran
    rw [List.foldlM_cons] at ran
    obtain ⟨next, late, ran⟩ := bind_ok ran
    obtain ⟨other, early', late'⟩ := swap early late
    simp only [List.foldlM_cons, early', late', bind, Except.bind]
    exact ran
  | trans _ _ ih ih' => exact ih' (ih ran)

end Waymark.Fallible
