/-! Tables from names to values. The entries stand in strictly ascending order of their names, so a
table has one form whatever the order of insertion.
-/

set_option autoImplicit false

namespace Waymark

variable {α β : Type}

/-- Inserts an entry at its place; an entry of the same name is replaced. -/
def insertEntry (name : String) (value : α) : List (String × α) → List (String × α)
  | [] => [(name, value)]
  | (other, old) :: rest =>
    if name < other then (name, value) :: (other, old) :: rest
    else if name = other then (name, value) :: rest
    else (other, old) :: insertEntry name value rest

def Ascending (entries : List (String × α)) : Prop :=
  entries.Pairwise fun a b => a.1 < b.1

theorem name_mem_insertEntry {name : String} {value : α} {entries : List (String × α)}
    {entry : String × α} (h : entry ∈ insertEntry name value entries) :
    entry.1 = name ∨ entry ∈ entries := by
  induction entries with
  | nil => simp_all [insertEntry]
  | cons head rest ih =>
    obtain ⟨other, old⟩ := head
    unfold insertEntry at h
    split at h
    · rcases List.mem_cons.1 h with rfl | h
      · exact .inl rfl
      · exact .inr h
    · split at h
      · rcases List.mem_cons.1 h with rfl | h
        · exact .inl rfl
        · exact .inr (List.mem_cons_of_mem _ h)
      · rcases List.mem_cons.1 h with rfl | h
        · exact .inr List.mem_cons_self
        · exact (ih h).imp_right (List.mem_cons_of_mem _)

theorem ascending_insertEntry (name : String) (value : α) {entries : List (String × α)}
    (h : Ascending entries) : Ascending (insertEntry name value entries) := by
  induction entries with
  | nil => simp [insertEntry, Ascending]
  | cons head rest ih =>
    obtain ⟨other, old⟩ := head
    obtain ⟨first, later⟩ := List.pairwise_cons.1 h
    unfold insertEntry
    split
    · rename_i below
      refine List.pairwise_cons.2 ⟨fun entry mem => ?_, h⟩
      rcases List.mem_cons.1 mem with rfl | mem
      · exact below
      · exact String.lt_trans below (first entry mem)
    · split
      · rename_i same
        exact List.pairwise_cons.2 ⟨fun entry mem => same ▸ first entry mem, later⟩
      · rename_i notBelow differs
        have above : other < name := by
          rcases Std.le_total (a := name) (b := other) with le | le
          · exact absurd (Std.lt_of_le_of_ne le differs) notBelow
          · exact Std.lt_of_le_of_ne le (Ne.symm differs)
        refine List.pairwise_cons.2 ⟨fun entry mem => ?_, ih later⟩
        rcases name_mem_insertEntry mem with same | mem
        · exact same ▸ above
        · exact first entry mem

structure Table (α : Type) where
  entries : List (String × α)
  ascending : Ascending entries

namespace Table

def empty : Table α := ⟨[], List.Pairwise.nil⟩

instance : Inhabited (Table α) := ⟨empty⟩

instance [DecidableEq α] : DecidableEq (Table α) := fun a b =>
  if h : a.entries = b.entries then isTrue (by cases a; cases b; simp_all)
  else isFalse fun same => h (same ▸ rfl)

def get? (table : Table α) (name : String) : Option α := table.entries.lookup name

def insert (table : Table α) (name : String) (value : α) : Table α :=
  ⟨insertEntry name value table.entries, ascending_insertEntry name value table.ascending⟩

/-- Later entries of the list win over earlier ones of the same name. -/
def ofList (entries : List (String × α)) : Table α :=
  entries.foldl (fun table entry => table.insert entry.1 entry.2) empty

def isEmpty (table : Table α) : Bool := table.entries.isEmpty

def names (table : Table α) : List String := table.entries.map Prod.fst

def values (table : Table α) : List α := table.entries.map Prod.snd

def map (f : α → β) (table : Table α) : Table β where
  entries := table.entries.map fun entry => (entry.1, f entry.2)
  ascending := by
    have h := table.ascending
    simpa [Ascending, List.pairwise_map] using h

end Table

end Waymark
