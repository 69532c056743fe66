import Waymark.Proofs.Table

/-! Tables made of entries of which several have one name. The last of them is found, and the table holds all that the
entries come to exactly if the others come to nothing.
-/

set_option autoImplicit false

namespace Waymark.Table

variable {α : Type}

/-- The values that are replaced while entries are inserted, each under its name. -/
def replaced (table : Table α) : List (String × α) → List (String × α)
  | [] => []
  | (name, value) :: rest =>
    ((table.get? name).map (Prod.mk name)).toList ++ replaced (table.insert name value) rest

def named (name : String) (entries : List (String × α)) : List (String × α) := entries.filter (·.1 == name)

theorem insertAll_cons (table : Table α) (entry : String × α) (rest : List (String × α)) :
    table.insertAll (entry :: rest) = (table.insert entry.1 entry.2).insertAll rest := rfl

theorem named_append (name : String) (entries more : List (String × α)) :
    named name (entries ++ more) = named name entries ++ named name more := List.filter_append ..

theorem named_cons (name : String) (entry : String × α) (rest : List (String × α)) :
    named name (entry :: rest) = (if name = entry.1 then [entry] else []) ++ named name rest := by
  rw [named, List.filter_cons]
  by_cases same : name = entry.1
  · rw [if_pos (by simp [same]), if_pos same]
    rfl
  · rw [if_neg (by simp [Ne.symm same]), if_neg same]
    rfl

theorem get?_insertAll_last (table : Table α) (entries : List (String × α)) (name : String) :
    (table.insertAll entries).get? name = ((named name entries).getLast?.map Prod.snd).or (table.get? name) := by
  induction entries generalizing table with
  | nil => rfl
  | cons entry rest ih =>
    -- A later entry of the name hides this one, and this one hides what the table had.
    rw [insertAll_cons, ih, get?_insert, named_cons, List.getLast?_append]
    cases (named name rest).getLast? with
    | some => rfl
    | none =>
      by_cases here : name = entry.1
      · rw [if_pos here, if_pos here]
        rfl
      · rw [if_neg here, if_neg here]
        rfl

theorem get?_ofList_last (entries : List (String × α)) (name : String) :
    (ofList entries).get? name = (named name entries).getLast?.map Prod.snd := by
  rw [ofList_eq, get?_insertAll_last]
  exact Option.or_none

variable (weight : α → Nat)

def weigh (entries : List (String × α)) : Nat := (entries.map (weight ·.2)).sum

theorem total_eq_weigh (table : Table α) : table.total weight = weigh weight table.entries := by
  rw [total, values, List.map_map]
  rfl

theorem weigh_append (entries more : List (String × α)) :
    weigh weight (entries ++ more) = weigh weight entries + weigh weight more := by
  rw [weigh, List.map_append, List.sum_append]
  rfl

theorem weigh_cons (entry : String × α) (rest : List (String × α)) :
    weigh weight (entry :: rest) = weight entry.2 + weigh weight rest := by
  rw [weigh, List.map_cons, List.sum_cons]
  rfl

theorem weigh_old (table : Table α) (name : String) :
    weigh weight ((table.get? name).map (Prod.mk name)).toList = (table.get? name).elim 0 weight := by
  cases table.get? name <;> simp [weigh]

theorem total_insertAll (table : Table α) (entries : List (String × α)) :
    (table.insertAll entries).total weight + weigh weight (table.replaced entries) =
      table.total weight + weigh weight entries := by
  induction entries generalizing table with
  | nil => rfl
  | cons entry rest ih =>
    have later := ih (table.insert entry.1 entry.2)
    have step := table.total_insert weight entry.1 entry.2
    rw [insertAll_cons, replaced, weigh_append, weigh_old, weigh_cons]
    omega

theorem named_old (table : Table α) (name other : String) :
    weigh weight (named name ((table.get? other).map (Prod.mk other)).toList) =
      if name = other then (table.get? other).elim 0 weight else 0 := by
  cases table.get? other with
  | none => simp [weigh, named]
  | some value =>
    rw [Option.map_some, Option.toList_some, named_cons]
    split <;> simp [weigh, named]

theorem elim_get?_insertAll (table : Table α) (entries : List (String × α)) (name : String) :
    ((table.insertAll entries).get? name).elim 0 weight + weigh weight (named name (table.replaced entries)) =
      (table.get? name).elim 0 weight + weigh weight (named name entries) := by
  induction entries generalizing table with
  | nil => rfl
  | cons entry rest ih =>
    have later := ih (table.insert entry.1 entry.2)
    rw [get?_insert] at later
    rw [insertAll_cons, replaced, named_append, weigh_append, named_old, named_cons, weigh_append]
    by_cases here : name = entry.1
    · subst here
      rw [if_pos rfl, Option.elim_some] at later
      rw [if_pos rfl, if_pos rfl, weigh_cons]
      simp only [weigh, List.map_nil, List.sum_nil] at later ⊢
      omega
    · rw [if_neg here] at later
      rw [if_neg here, if_neg here]
      simp only [weigh, List.map_nil, List.sum_nil] at later ⊢
      omega

/-- No entry that one of the same name follows weighs anything. -/
def Light (entries : List (String × α)) : Prop := entries.Pairwise fun entry later => entry.1 = later.1 → weight entry.2 = 0

theorem weigh_replaced_eq_zero_iff (table : Table α) (entries : List (String × α)) :
    weigh weight (table.replaced entries) = 0 ↔
      (∀ entry ∈ entries, (table.get? entry.1).elim 0 weight = 0) ∧ Light weight entries := by
  induction entries generalizing table with
  | nil => simp [replaced, weigh, Light]
  | cons entry rest ih =>
    rw [replaced, weigh_append, weigh_old, Nat.add_eq_zero_iff, ih, Light, Light, List.pairwise_cons, List.forall_mem_cons]
    simp only [get?_insert]
    constructor
    -- What the head replaces was in the table; what replaces the head is an entry behind it.
    · rintro ⟨here, found, light⟩
      refine ⟨⟨here, fun later among => ?_⟩, fun later among same => ?_, light⟩
      · by_cases same : later.1 = entry.1
        · rw [same]
          exact here
        · have old := found later among
          rwa [if_neg same] at old
      · have new := found later among
        rwa [if_pos same.symm] at new
    · rintro ⟨⟨here, found⟩, followed, light⟩
      refine ⟨here, fun later among => ?_, light⟩
      by_cases same : later.1 = entry.1
      · rw [if_pos same]
        exact followed later among same.symm
      · rw [if_neg same]
        exact found later among

theorem weigh_named_le (name : String) (entries : List (String × α)) :
    weigh weight (named name entries) ≤ weigh weight entries := by
  induction entries with
  | nil => exact Nat.le_refl _
  | cons entry rest ih =>
    rw [named_cons, weigh_append, weigh_cons]
    refine Nat.add_le_add ?_ ih
    split
    · exact Nat.le_refl _
    · exact Nat.zero_le _

/-- The table of some entries holds what they come to, under each name and together. -/
def Conserves (entries : List (String × α)) : Prop :=
  (∀ name, ((ofList entries).get? name).elim 0 weight = weigh weight (named name entries)) ∧
    (ofList entries).total weight = weigh weight entries

theorem total_ofList (entries : List (String × α)) :
    (ofList entries).total weight + weigh weight (empty.replaced entries) = weigh weight entries :=
  (total_insertAll weight empty entries).trans (Nat.zero_add _)

theorem elim_get?_ofList (entries : List (String × α)) (name : String) :
    ((ofList entries).get? name).elim 0 weight + weigh weight (named name (empty.replaced entries)) =
      weigh weight (named name entries) :=
  (elim_get?_insertAll weight empty entries name).trans (Nat.zero_add _)

theorem conserves_iff (entries : List (String × α)) : Conserves weight entries ↔ Light weight entries := by
  have all := total_ofList weight entries
  have light : weigh weight (empty.replaced entries) = 0 ↔ Light weight entries :=
    (weigh_replaced_eq_zero_iff weight empty entries).trans (and_iff_right fun _ _ => rfl)
  rw [← light]
  constructor
  · rintro ⟨-, whole⟩
    omega
  · intro nothing
    -- Nothing of weight is replaced at all, so none under a name.
    refine ⟨fun name => ?_, by omega⟩
    have each := elim_get?_ofList weight entries name
    have part := weigh_named_le weight name (empty.replaced entries)
    omega

end Waymark.Table
