import Mathlib.Data.List.Nodup
import Waymark.Store.Basic

/-! What stays of the history. A list that descends strictly is cut where enough greater ones stand in front, and
the earlier summaries are such a list if no two of them changed at one time.
-/

set_option autoImplicit false

namespace Waymark.Store

section
variable {α : Type} {items : List α} {x : α} (key : α → Nat)

def above (items : List α) (bound : Nat) : Nat := items.countP fun x => decide (bound < key x)

theorem above_perm {more : List α} (same : items.Perm more) (bound : Nat) :
    above key items bound = above key more bound := same.countP_eq _

variable {key}

theorem above_cons_of_lt {bound : Nat} (less : bound < key x) :
    above key (x :: items) bound = above key items bound + 1 := by
  simp [above, less]

theorem above_first (descends : (x :: items).Pairwise fun a b => key b < key a) :
    above key (x :: items) (key x) = 0 := by
  rw [above, List.countP_eq_zero]
  intro y among
  have less : key y ≤ key x := by
    rcases List.mem_cons.1 among with rfl | later
    · exact Nat.le_refl _
    · exact Nat.le_of_lt (List.rel_of_pairwise_cons descends later)
  simpa using less

theorem filter_above (descends : items.Pairwise fun a b => key b < key a) (count : Nat) :
    items.filter (fun x => decide (above key items (key x) < count)) = items.take count := by
  induction items generalizing count with
  | nil => simp
  | cons x items ih =>
    cases count with
    | zero => simp
    | succ count =>
      have rest : ∀ y ∈ items, decide (above key (x :: items) (key y) < count + 1) =
          decide (above key items (key y) < count) := by
        intro y later
        rw [above_cons_of_lt (List.rel_of_pairwise_cons descends later)]
        simp
      rw [List.take_succ_cons, ← ih descends.of_cons, List.filter_cons_of_pos (by simp [above_first descends]),
        List.filter_congr rest]

theorem mem_take_iff (descends : items.Pairwise fun a b => key b < key a) {count : Nat} :
    x ∈ items.take count ↔ x ∈ items ∧ above key items (key x) < count := by
  rw [← filter_above descends, List.mem_filter, decide_eq_true_iff]

theorem mem_drop_iff (descends : items.Pairwise fun a b => key b < key a) {count : Nat} :
    x ∈ items.drop count ↔ x ∈ items ∧ count ≤ above key items (key x) := by
  have cut := List.take_append_drop count items
  have apart : (items.take count ++ items.drop count).Pairwise fun a b => key b < key a := cut.symm ▸ descends
  constructor
  · intro among
    have listed := List.mem_of_mem_drop among
    refine ⟨listed, Nat.le_of_not_lt fun few => ?_⟩
    have front := (mem_take_iff descends).2 ⟨listed, few⟩
    exact Nat.lt_irrefl _ ((List.pairwise_append.1 apart).2.2 x front x among)
  · rintro ⟨listed, many⟩
    rw [← cut] at listed
    rcases List.mem_append.1 listed with front | behind
    · exact absurd ((mem_take_iff descends).1 front).2 (Nat.not_lt.2 many)
    · exact behind

end

variable {held all left : List (String × Item)} {entry : String × Item} {name : String} {retention : Nat}

def copies (held : List (String × Item)) : List (String × Item) := held.filter fun entry => isHistoryName entry.1

def newer (held : List (String × Item)) (time : Nat) : Nat := above (fun entry => entry.2.modified) (copies held) time

/-- No two earlier summaries changed at one time. -/
def Dated (held : List (String × Item)) : Prop := (copies held).Pairwise fun a b => a.2.modified ≠ b.2.modified

theorem newer_perm (same : held.Perm all) (time : Nat) : newer held time = newer all time :=
  above_perm _ (same.filter _) time

theorem newer_eq_zero {time : Nat} (older : ∀ entry ∈ held, isHistoryName entry.1 = true → entry.2.modified ≤ time) :
    newer held time = 0 := by
  refine List.countP_eq_zero.2 fun entry among => ?_
  obtain ⟨listed, history⟩ := List.mem_filter.1 among
  simpa using older entry listed history

theorem Dated.perm (dated : Dated held) (same : held.Perm all) : Dated all :=
  (List.Perm.pairwise_iff (fun differ => differ.symm) (same.filter _)).1 dated

def ranked (held : List (String × Item)) : List (String × Item) := (copies held).mergeSort newerFirst

theorem ranked_perm (held : List (String × Item)) : (ranked held).Perm (copies held) := List.mergeSort_perm _ _

theorem ranked_descends (dated : Dated held) : (ranked held).Pairwise fun a b => b.2.modified < a.2.modified := by
  have sorted : (ranked held).Pairwise fun a b => newerFirst a b = true := by
    apply List.pairwise_mergeSort
    · intro a b c first second
      simp only [newerFirst, Bool.or_eq_true, Bool.and_eq_true, decide_eq_true_eq, beq_iff_eq] at first second ⊢
      rcases first with first | ⟨first, name⟩ <;> rcases second with second | ⟨second, name'⟩
      · exact .inl (Nat.lt_trans second first)
      · exact .inl (second ▸ first)
      · exact .inl (first ▸ second)
      · exact .inr ⟨second.trans first, String.le_trans name' name⟩
    · intro a b
      simp only [newerFirst, Bool.or_eq_true, Bool.and_eq_true, decide_eq_true_eq, beq_iff_eq]
      rcases Nat.lt_trichotomy a.2.modified b.2.modified with less | same | more
      · exact .inr (.inl less)
      · exact (String.le_total b.1 a.1).imp (fun name => .inr ⟨same.symm, name⟩) fun name => .inr ⟨same, name⟩
      · exact .inl (.inl more)
  have apart : (ranked held).Pairwise fun a b => a.2.modified ≠ b.2.modified :=
    (List.Perm.pairwise_iff (fun differ => differ.symm) (ranked_perm held)).2 dated
  refine (sorted.and apart).imp fun {a b} both => ?_
  simp only [newerFirst, Bool.or_eq_true, Bool.and_eq_true, decide_eq_true_eq, beq_iff_eq] at both
  rcases both with ⟨less | ⟨same, -⟩, differ⟩
  · exact less
  · exact absurd same.symm differ

theorem mem_surplus (distinct : (held.map Prod.fst).Nodup) (dated : Dated held) (listed : entry ∈ held) :
    entry.1 ∈ surplus retention held ↔ isHistoryName entry.1 = true ∧ retention ≤ newer held entry.2.modified := by
  have counted : ∀ time, above (fun entry => entry.2.modified) (ranked held) time = newer held time :=
    above_perm _ (ranked_perm held)
  constructor
  · intro among
    obtain ⟨other, dropped, same⟩ := List.mem_map.1 among
    obtain ⟨there, many⟩ := (mem_drop_iff (ranked_descends dated)).1 dropped
    obtain ⟨inside, history⟩ := List.mem_filter.1 ((ranked_perm held).mem_iff.1 there)
    obtain rfl : other = entry := List.inj_on_of_nodup_map distinct inside listed same
    exact ⟨history, counted _ ▸ many⟩
  · rintro ⟨history, many⟩
    refine List.mem_map.2 ⟨entry, (mem_drop_iff (ranked_descends dated)).2 ⟨?_, (counted _).symm ▸ many⟩, rfl⟩
    exact (ranked_perm held).mem_iff.2 (List.mem_filter.2 ⟨listed, history⟩)

/-- Of what there was, the earlier summaries that have few newer ones are left, and all that is none. -/
structure Retained (retention : Nat) (all left : List (String × Item)) : Prop where
  kept : ∀ entry, entry ∈ left ↔
    entry ∈ all ∧ (isHistoryName entry.1 = true → newer all entry.2.modified < retention)
  count : (copies left).length = min retention (copies all).length

theorem retained_of_surplus (distinct : (all.map Prod.fst).Nodup) (dated : Dated all)
    (distinct' : (left.map Prod.fst).Nodup)
    (remain : ∀ entry, entry ∈ left ↔ entry ∈ all ∧ entry.1 ∉ surplus retention all) :
    Retained retention all left := by
  have kept : ∀ entry, entry ∈ left ↔
      entry ∈ all ∧ (isHistoryName entry.1 = true → newer all entry.2.modified < retention) := by
    intro entry
    rw [remain]
    refine and_congr_right fun listed => ?_
    rw [mem_surplus distinct dated listed, not_and, Nat.not_le]
  refine ⟨kept, ?_⟩
  -- What is left is the front of the ranking, whose length is known.
  have same : (copies left).Perm ((ranked all).take retention) := by
    refine (List.perm_ext_iff_of_nodup ?_ ?_).2 fun entry => ?_
    · exact (List.Nodup.of_map _ distinct').filter _
    · exact ((ranked_perm all).nodup_iff.2 ((List.Nodup.of_map _ distinct).filter _)).sublist (List.take_sublist _ _)
    · rw [mem_take_iff (ranked_descends dated), (ranked_perm all).mem_iff, above_perm _ (ranked_perm all),
        copies, copies, List.mem_filter, List.mem_filter, kept]
      exact ⟨fun ⟨⟨listed, few⟩, history⟩ => ⟨⟨listed, history⟩, few history⟩,
        fun ⟨⟨listed, history⟩, few⟩ => ⟨⟨listed, fun _ => few⟩, history⟩⟩
  rw [same.length_eq, List.length_take, (ranked_perm all).length_eq]

theorem Retained.perm {other : List (String × Item)} (retained : Retained retention all left)
    (same : all.Perm other) : Retained retention other left where
  kept entry := by
    rw [retained.kept, same.mem_iff, newer_perm same]
  count := by
    rw [retained.count, copies, copies, (same.filter _).length_eq]

theorem Retained.perm_left {other : List (String × Item)} (retained : Retained retention all left)
    (same : left.Perm other) : Retained retention all other where
  kept entry := by
    rw [← same.mem_iff, retained.kept]
  count := by
    rw [← retained.count, copies, copies, (same.filter _).length_eq]

end Waymark.Store
