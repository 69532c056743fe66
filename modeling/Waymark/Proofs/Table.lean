import Mathlib.Algebra.GroupWithZero.Nat
import Waymark.Table

/-! Tables made of entries in any order. Each name is looked up as in the entries, and the entries of a
table make the table again.
-/

set_option autoImplicit false

namespace Waymark

variable {α : Type} {entries : List (String × α)} {name other : String} {value : α}

theorem lookup_first : ((name, value) :: entries).lookup other =
    if other = name then some value else entries.lookup other := by
  rw [List.lookup_cons]
  by_cases here : other = name
  · simp [here]
  · rw [beq_eq_false_iff_ne.2 here, if_neg here]

theorem lookup_insertEntry :
    (insertEntry name value entries).lookup other =
      if other = name then some value else entries.lookup other := by
  induction entries with
  | nil => exact lookup_first
  | cons entry rest ih =>
    obtain ⟨first, old⟩ := entry
    unfold insertEntry
    split
    · exact lookup_first
    · split
      · rename_i same
        subst same
        rw [lookup_first, lookup_first]
        by_cases here : other = name <;> simp [here]
      · rename_i apart
        rw [lookup_first, lookup_first, ih]
        by_cases here : other = first
        · subst here
          simp [Ne.symm apart]
        · simp [here]

theorem lookup_eq_none_of_lt {entry : String × α} (ascending : Ascending (entry :: entries))
    (before : name < entry.1) : (entry :: entries).lookup name = none := by
  refine List.lookup_eq_none_iff.2 fun other among => ?_
  rw [bne_iff_ne]
  rcases List.mem_cons.1 among with rfl | among
  · exact Std.ne_of_lt before
  · exact Std.ne_of_lt (String.lt_trans before ((List.pairwise_cons.1 ascending).1 other among))

theorem insertEntry_last (behind : ∀ entry ∈ entries, entry.1 < name) :
    insertEntry name value entries = entries ++ [(name, value)] := by
  induction entries with
  | nil => rfl
  | cons entry rest ih =>
    have before := behind entry List.mem_cons_self
    have notBefore : ¬ name < entry.1 := fun after => String.lt_irrefl _ (String.lt_trans before after)
    have apart : name ≠ entry.1 := fun same => String.lt_irrefl _ (same ▸ before)
    rw [insertEntry, if_neg notBefore, if_neg apart,
      ih fun entry member => behind entry (List.mem_cons_of_mem _ member)]
    rfl

namespace Table

theorem nodup_names (table : Table α) : (table.entries.map Prod.fst).Nodup :=
  List.pairwise_map.2 (table.ascending.imp fun before => Std.ne_of_lt before)

def insertAll (table : Table α) (entries : List (String × α)) : Table α :=
  entries.foldl (fun table entry => table.insert entry.1 entry.2) table

theorem ofList_eq (entries : List (String × α)) : ofList entries = empty.insertAll entries := rfl

theorem get?_insertAll (table : Table α) (distinct : (entries.map Prod.fst).Nodup) :
    (table.insertAll entries).get? name = (entries.lookup name).or (table.get? name) := by
  induction entries generalizing table with
  | nil => rfl
  | cons entry rest ih =>
    obtain ⟨first, value⟩ := entry
    rw [List.map_cons, List.nodup_cons] at distinct
    have step : (table.insert first value).get? name =
        if name = first then some value else table.get? name := lookup_insertEntry
    have next : table.insertAll ((first, value) :: rest) = (table.insert first value).insertAll rest := rfl
    rw [next, ih _ distinct.2, step, lookup_first]
    by_cases here : name = first
    · -- No later entry has the name of this one.
      subst here
      have missing : rest.lookup name = none := by
        refine List.lookup_eq_none_iff.2 fun entry member => ?_
        rw [bne_iff_ne]
        intro same
        exact distinct.1 (List.mem_map.2 ⟨entry, member, same.symm⟩)
      simp [missing]
    · simp [here]

theorem get?_ofList (distinct : (entries.map Prod.fst).Nodup) :
    (ofList entries).get? name = entries.lookup name := by
  rw [ofList_eq, get?_insertAll empty distinct]
  exact Option.or_none

theorem insertAll_entries {table : Table α} (ascending : Ascending (table.entries ++ entries)) :
    (table.insertAll entries).entries = table.entries ++ entries := by
  induction entries generalizing table with
  | nil => simp [insertAll]
  | cons entry rest ih =>
    have behind : ∀ before ∈ table.entries, before.1 < entry.1 := fun before member =>
      (List.pairwise_append.1 ascending).2.2 before member entry List.mem_cons_self
    have step : (table.insert entry.1 entry.2).entries = table.entries ++ [entry] := insertEntry_last behind
    have next : table.insertAll (entry :: rest) = (table.insert entry.1 entry.2).insertAll rest := rfl
    rw [next, ih (by rw [step]; simpa using ascending), step]
    simp

@[simp] theorem ofList_entries (table : Table α) : ofList table.entries = table := by
  have same : (ofList table.entries).entries = table.entries := by
    rw [ofList_eq, insertAll_entries]
    · rfl
    · exact table.ascending
  cases whole : ofList table.entries with
  | mk entries ascending =>
    rw [whole] at same
    cases table
    cases same
    rfl

theorem lookup_of_mem {entry : String × α} (distinct : (entries.map Prod.fst).Nodup)
    (member : entry ∈ entries) : entries.lookup entry.1 = some entry.2 := by
  induction entries with
  | nil => cases member
  | cons first rest ih =>
    rw [List.map_cons, List.nodup_cons] at distinct
    rw [lookup_first]
    rcases List.mem_cons.1 member with rfl | later
    · simp
    · have apart : entry.1 ≠ first.1 := fun same => distinct.1 (same ▸ List.mem_map_of_mem later)
      rw [if_neg apart]
      exact ih distinct.2 later

theorem get?_of_mem {table : Table α} {entry : String × α} (member : entry ∈ table.entries) :
    table.get? entry.1 = some entry.2 := lookup_of_mem table.nodup_names member

theorem eq_of_entries {a b : Table α} (same : a.entries = b.entries) : a = b := by
  cases a
  cases b
  cases same
  rfl

theorem get?_insert (table : Table α) (name : String) (value : α) (other : String) :
    (table.insert name value).get? other = if other = name then some value else table.get? other :=
  lookup_insertEntry

theorem mem_of_get? {table : Table α} {name : String} {value : α} (found : table.get? name = some value) :
    (name, value) ∈ table.entries := by
  obtain ⟨before, behind, same, -⟩ := List.lookup_eq_some_iff.1 found
  rw [same]
  simp

theorem ext_get? {a b : Table α} (same : ∀ name, a.get? name = b.get? name) : a = b := by
  have nodup : ∀ table : Table α, table.entries.Nodup := fun table =>
    List.Pairwise.of_map Prod.fst (fun _ _ apart same => apart (congrArg Prod.fst same)) table.nodup_names
  have members : ∀ entry, entry ∈ a.entries ↔ entry ∈ b.entries := fun entry =>
    ⟨fun among => mem_of_get? ((same entry.1).symm.trans (get?_of_mem among)),
      fun among => mem_of_get? ((same entry.1).trans (get?_of_mem among))⟩
  have perm := (List.perm_ext_iff_of_nodup (nodup a) (nodup b)).2 members
  refine eq_of_entries (perm.eq_of_pairwise ?_ a.ascending b.ascending)
  exact fun _ _ _ _ before behind => absurd (String.lt_trans before behind) (String.lt_irrefl _)

theorem insert_insert (table : Table α) (name : String) (value later : α) :
    (table.insert name value).insert name later = table.insert name later := by
  refine ext_get? fun other => ?_
  rw [get?_insert, get?_insert, get?_insert]
  split <;> rfl

theorem insert_comm (table : Table α) {first second : String} (apart : first ≠ second) (a b : α) :
    (table.insert first a).insert second b = (table.insert second b).insert first a := by
  refine ext_get? fun other => ?_
  rw [get?_insert, get?_insert, get?_insert, get?_insert]
  by_cases here : other = first
  · subst here
    rw [if_neg apart, if_pos rfl, if_pos rfl]
  · rw [if_neg here, if_neg here]

/-! Functions of the values -/

variable {β : Type} (f : α → β)

theorem get?_map (table : Table α) (name : String) : (table.map f).get? name = (table.get? name).map f := by
  have entries : ∀ entries : List (String × α),
      (entries.map fun entry => (entry.1, f entry.2)).lookup name = (entries.lookup name).map f := by
    intro entries
    induction entries with
    | nil => rfl
    | cons entry rest ih =>
      obtain ⟨other, value⟩ := entry
      rw [List.map_cons, lookup_first, lookup_first, ih]
      split <;> rfl
  exact entries table.entries

theorem map_insert (table : Table α) (name : String) (value : α) :
    (table.insert name value).map f = (table.map f).insert name (f value) := by
  have entries : ∀ entries : List (String × α),
      (insertEntry name value entries).map (fun entry => (entry.1, f entry.2)) =
        insertEntry name (f value) (entries.map fun entry => (entry.1, f entry.2)) := by
    intro entries
    induction entries with
    | nil => rfl
    | cons entry rest ih =>
      obtain ⟨other, old⟩ := entry
      rw [List.map_cons, insertEntry, insertEntry]
      split
      · rfl
      · split
        · rfl
        · rw [List.map_cons, ih]
  exact eq_of_entries (entries table.entries)

/-- What the values of a table come to together. -/
def total (table : Table α) (weight : α → Nat) : Nat := (table.values.map weight).sum

theorem total_insert (table : Table α) (weight : α → Nat) (name : String) (value : α) :
    (table.insert name value).total weight + (table.get? name).elim 0 weight = table.total weight + weight value := by
  obtain ⟨entries, ascending⟩ := table
  have entries : ((insertEntry name value entries).map (weight ·.2)).sum + (entries.lookup name).elim 0 weight =
      (entries.map (weight ·.2)).sum + weight value := by
    induction entries with
    | nil => simp [insertEntry]
    | cons entry rest ih =>
      obtain ⟨other, old⟩ := entry
      have later := ih (List.pairwise_cons.1 ascending).2
      unfold insertEntry
      split
      · rename_i before
        rw [lookup_eq_none_of_lt ascending before]
        simp only [List.map_cons, List.sum_cons, Option.elim_none]
        omega
      · split
        · rename_i same
          subst same
          rw [lookup_first, if_pos rfl]
          simp only [List.map_cons, List.sum_cons, Option.elim_some]
          omega
        · rename_i apart
          rw [lookup_first, if_neg apart]
          simp only [List.map_cons, List.sum_cons]
          omega
  simpa only [total, values, insert, get?, List.map_map, Function.comp_def] using entries

theorem total_map (table : Table α) (weight : β → Nat) : (table.map f).total weight = table.total (weight ∘ f) := by
  simp only [total, values, map, List.map_map]
  rfl

theorem elim_get?_le_total (table : Table α) (weight : α → Nat) (name : String) :
    (table.get? name).elim 0 weight ≤ table.total weight := by
  cases found : table.get? name with
  | none => exact Nat.zero_le _
  | some value =>
    obtain ⟨before, behind, same, -⟩ := List.lookup_eq_some_iff.1 found
    simp only [Option.elim_some, total, values, same, List.map_append, List.map_cons, List.sum_append, List.sum_cons]
    omega

end Table

end Waymark
