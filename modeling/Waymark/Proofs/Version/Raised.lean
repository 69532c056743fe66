import Waymark.Version

/-! Counters that were added to and versions that were raised. A raised version is above the one that it came
from, and the versions that come from the first one count how often they were raised.
-/

set_option autoImplicit false

namespace Waymark

theorem Count.add_ok {a b sum : Count} (h : Count.add a b = .ok sum) :
    sum = a + b ∧ sum.toNat = a.toNat + b.toNat := by
  unfold Count.add at h
  split at h
  · rename_i fits
    cases h
    refine ⟨rfl, ?_⟩
    rw [UInt64.toNat_add]
    exact Nat.mod_eq_of_lt fits
  · cases h

theorem Count.add_of_fits {a b : Count} (fits : a.toNat + b.toNat < Count.limit) : Count.add a b = .ok (a + b) :=
  if_pos fits

namespace Version

variable {v raised : Version} {n : Nat}

theorem bumpMinor_ok (raises : v.bumpMinor = .ok raised) :
    Count.add v.minor 1 = .ok raised.minor ∧ raised = ⟨v.major, raised.minor, 0⟩ := by
  unfold bumpMinor Count.next at raises
  cases minor : v.minor.add 1 with
  | error refused =>
    rw [minor] at raises
    cases raises
  | ok more =>
    rw [minor] at raises
    cases raises
    exact ⟨rfl, rfl⟩

theorem bumpPatch_ok (raises : v.bumpPatch = .ok raised) :
    Count.add v.patch 1 = .ok raised.patch ∧ raised = ⟨v.major, v.minor, raised.patch⟩ := by
  unfold bumpPatch Count.next at raises
  cases patch : v.patch.add 1 with
  | error refused =>
    rw [patch] at raises
    cases raises
  | ok more =>
    rw [patch] at raises
    cases raises
    exact ⟨rfl, rfl⟩

theorem bumpMinor_ne (raises : v.bumpMinor = .ok raised) : raised ≠ v := by
  intro same
  have sum := (Count.add_ok (bumpMinor_ok raises).1).2
  have one : (1 : Count).toNat = 1 := rfl
  rw [same] at sum
  omega

/-- The version `1.n.0`. -/
def IsMinor (n : Nat) (v : Version) : Prop := v.major = 1 ∧ v.minor.toNat = n ∧ v.patch = 0

/-- The version `1.0.n`. -/
def IsPatch (n : Nat) (v : Version) : Prop := v.major = 1 ∧ v.minor = 0 ∧ v.patch.toNat = n

theorem IsMinor.bump (counts : v.IsMinor n) (raises : v.bumpMinor = .ok raised) : raised.IsMinor (n + 1) := by
  obtain ⟨sum, same⟩ := bumpMinor_ok raises
  refine ⟨?_, ?_, ?_⟩
  · rw [same]
    exact counts.1
  · rw [(Count.add_ok sum).2, counts.2.1]
    rfl
  · rw [same]

theorem IsPatch.bump (counts : v.IsPatch n) (raises : v.bumpPatch = .ok raised) : raised.IsPatch (n + 1) := by
  obtain ⟨sum, same⟩ := bumpPatch_ok raises
  refine ⟨?_, ?_, ?_⟩
  · rw [same]
    exact counts.1
  · rw [same]
    exact counts.2.1
  · rw [(Count.add_ok sum).2, counts.2.2]
    rfl

theorem IsMinor.eq (counts : v.IsMinor n) : v = ⟨1, UInt64.ofNat n, 0⟩ := by
  obtain ⟨major, minor, patch⟩ := v
  obtain ⟨rfl, rfl, rfl⟩ := counts
  rw [UInt64.ofNat_toNat]

/-! The order of versions -/

theorem le_iff {a b : Version} : a.le b = true ↔ a.major.toNat < b.major.toNat ∨
    a.major.toNat = b.major.toNat ∧ (a.minor.toNat < b.minor.toNat ∨
      a.minor.toNat = b.minor.toNat ∧ a.patch.toNat ≤ b.patch.toNat) := by
  simp only [le, Bool.or_eq_true, Bool.and_eq_true, decide_eq_true_eq, beq_iff_eq, UInt64.lt_iff_toNat_lt,
    UInt64.le_iff_toNat_le, UInt64.toNat_inj]

theorem le_refl (v : Version) : v.le v = true := le_iff.2 (.inr ⟨rfl, .inr ⟨rfl, Nat.le_refl _⟩⟩)

theorem le_trans {a b c : Version} (lower : a.le b = true) (upper : b.le c = true) : a.le c = true := by
  rw [le_iff] at lower upper ⊢
  omega

theorem le_antisymm {a b : Version} (lower : a.le b = true) (upper : b.le a = true) : a = b := by
  rw [le_iff] at lower upper
  obtain ⟨major, minor, patch⟩ := a
  obtain ⟨major', minor', patch'⟩ := b
  simp only [mk.injEq, ← UInt64.toNat_inj]
  dsimp only at lower upper
  omega

theorem le_of_bumpPatch (raises : v.bumpPatch = .ok raised) : v.le raised = true := by
  obtain ⟨sum, same⟩ := bumpPatch_ok raises
  have more := (Count.add_ok sum).2
  rw [same, le_iff]
  exact .inr ⟨rfl, .inr ⟨rfl, more ▸ Nat.le_add_right _ _⟩⟩

theorem bumpPatch_ne (raises : v.bumpPatch = .ok raised) : raised ≠ v := by
  intro same
  have sum := (Count.add_ok (bumpPatch_ok raises).1).2
  have one : (1 : Count).toNat = 1 := rfl
  rw [same] at sum
  omega

end Version

end Waymark
