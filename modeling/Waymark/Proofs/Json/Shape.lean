import Waymark.Json.Shape
import Waymark.Proofs.Json.Read

/-! Records are read back out of the objects that they were written as. The order of the members makes
no difference, for every field is looked up by its name.
-/

set_option autoImplicit false

namespace Waymark.Json

variable {α β : Type} {members : List (String × Json)} {name : String} {json : Json}

def arrangedMembers (members : List (String × Json)) : Table Json :=
  .ofList (members.map fun member => (member.1, member.2.arranged))

theorem lookup_arrangedMembers (distinct : (members.map Prod.fst).Nodup) (name : String) :
    (arrangedMembers members).entries.lookup name = (members.lookup name).map arranged := by
  have distinct' : ((members.map fun member => (member.1, member.2.arranged)).map Prod.fst).Nodup := by
    rw [List.map_map]
    exact distinct
  have looked : (arrangedMembers members).get? name =
      (members.map fun member => (member.1, member.2.arranged)).lookup name := Table.get?_ofList distinct'
  unfold Table.get? at looked
  rw [looked]
  clear distinct distinct' looked
  induction members with
  | nil => rfl
  | cons member members ih =>
    rw [List.map_cons, lookup_first, lookup_first, ih]
    split <;> rfl

/-- What is encoded is decoded, once it was printed and read. -/
def Restores (encode : α → Json) (decode : Json → Except Refusal α) : Prop :=
  ∀ value, decode (encode value).arranged = .ok value

theorem mapM_restores {encode : α → β} {decode : β → Except Refusal α}
    (restores : ∀ value, decode (encode value) = .ok value) (values : List α) :
    (values.map encode).mapM decode = .ok values := by
  induction values with
  | nil => rfl
  | cons value values ih =>
    rw [List.map_cons, List.mapM_cons, restores, ih]
    rfl

variable {encode : α → Json} {decode : Json → Except Refusal α}

theorem Restores.list (h : Restores encode decode) : Restores (ofList encode) (toList decode) := by
  intro values
  rw [ofList, arranged_list, List.map_map]
  exact mapM_restores h values

theorem Restores.option (h : Restores encode decode) (some : ∀ value, (encode value).arranged ≠ .null) :
    Restores (ofOption encode) (Shape.nullable decode) := by
  intro value
  cases value with
  | none =>
    rw [ofOption, arranged_scalar (by simp) (by simp)]
    rfl
  | some value =>
    rw [ofOption, Shape.nullable, h value]
    · rfl
    · exact some value

theorem Restores.table (h : Restores encode decode) : Restores (ofTable encode) (toTable decode) := by
  intro table
  have sorted : arranged (ofTable encode table) = .object (table.map fun value => (encode value).arranged).entries := by
    rw [ofTable, arranged_object]
    have same : ((table.map encode).entries.map fun member => (member.1, member.2.arranged)) =
        (table.map fun value => (encode value).arranged).entries := List.map_map ..
    rw [same, Table.ofList_entries]
  have members : (table.map fun value => (encode value).arranged).entries =
      table.entries.map fun entry => (entry.1, (encode entry.2).arranged) := rfl
  rw [sorted, toTable, members, mapM_restores]
  · simp [Except.map]
  · intro entry
    rw [h entry.2]
    rfl

namespace Shape

/-- Among the members a shape finds its fields, and reads a value from them. -/
structure Finds (shape : Shape α) (members : List (String × Json)) (value : α) : Prop where
  read : shape.ofMembers members = .ok value
  checked : ∀ check ∈ shape.checks, ∀ json, members.lookup check.1 = some json → check.2 json = .ok ()

variable {shape : Shape α} {value : α} {read : List (String × Json)} {unnamed short : Option α}

theorem finds_field (found : read.lookup name = some json) (decoded : decode json = .ok value) :
    Finds (field name decode unnamed short) read value where
  read := by
    simp only [field, found]
    exact decoded
  checked check member other there := by
    cases List.mem_singleton.1 member
    rw [found] at there
    cases there
    simp only [decoded, Except.map]

theorem finds_absent (missing : read.lookup name = none) : Finds (field name decode (some value) short) read value where
  read := by
    simp only [field, missing]
    rfl
  checked check member json there := by
    cases List.mem_singleton.1 member
    rw [missing] at there
    cases there

theorem Finds.map {f : α → β} (h : Finds shape read value) : Finds (f <$> shape) read (f value) where
  read := by
    have mapped : (f <$> shape).ofMembers read = (shape.ofMembers read).map f := rfl
    rw [mapped, h.read]
    rfl
  checked := h.checked

theorem Finds.seq {shape : Shape (α → β)} {f : α → β} {second : Shape α} (h : Finds shape read f)
    (h' : Finds second read value) : Finds (shape <*> second) read (f value) where
  read := by
    have both : (shape <*> second).ofMembers read =
        (shape.ofMembers read >>= fun f => second.ofMembers read >>= fun value => .ok (f value)) := rfl
    rw [both, h.read, h'.read]
    rfl
  checked check member := by
    rcases List.mem_append.1 member with member | member
    · exact h.checked check member
    · exact h'.checked check member

theorem checkMembers_ok {table : Table Json} (h : Finds shape table.entries value)
    (some : members ⊆ table.entries) : shape.checkMembers members = .ok () := by
  induction members with
  | nil => rfl
  | cons member members ih =>
    obtain ⟨name, json⟩ := member
    have rest := ih fun entry later => some (List.mem_cons_of_mem _ later)
    have found : table.entries.lookup name = .some json := Table.get?_of_mem (some List.mem_cons_self)
    rw [checkMembers]
    split
    · rename_i check looked
      have among : (name, check) ∈ shape.checks := by
        obtain ⟨before, after, split, -⟩ := List.lookup_eq_some_iff.1 looked
        rw [split]
        simp
      have passed : check json = .ok () := h.checked (name, check) among json found
      rw [passed]
      exact rest
    · exact rest

theorem Finds.decodeMembers {table : Table Json} (h : Finds shape table.entries value) :
    shape.decodeMembers table.entries = .ok value := by
  rw [Shape.decodeMembers, checkMembers_ok h (List.Subset.refl _)]
  exact h.read

theorem Finds.decode_object (h : Finds shape (arrangedMembers members).entries value) :
    shape.decode (Json.object members).arranged = .ok value := by
  rw [arranged_object]
  exact h.decodeMembers

theorem finds_member (distinct : (members.map Prod.fst).Nodup) (h : Restores encode decode)
    (found : members.lookup name = some (encode value)) :
    Finds (field name decode unnamed short) (arrangedMembers members).entries value := by
  have looked := lookup_arrangedMembers distinct name
  rw [found] at looked
  exact finds_field looked (h value)

theorem finds_none (distinct : (members.map Prod.fst).Nodup) (missing : members.lookup name = none) :
    Finds (field name decode (some value) short) (arrangedMembers members).entries value := by
  have looked := lookup_arrangedMembers distinct name
  rw [missing] at looked
  exact finds_absent looked

theorem finds_omissible (distinct : (members.map Prod.fst).Nodup) (h : Restores encode decode)
    (visible : ∀ value, (encode value).arranged ≠ .null) {value : Option α}
    (found : members.lookup name = value.map encode) :
    Finds (omissible name decode) (arrangedMembers members).entries value := by
  cases value with
  | none => exact finds_none distinct found
  | some value => exact finds_member distinct (h.option visible) found

end Shape

/-! Plain values -/

theorem plain_ofList {depth : Nat} (plain : ∀ value, Plain depth (encode value)) (values : List α) :
    Plain (depth + 1) (ofList encode values) := by
  intro item member
  obtain ⟨value, -, rfl⟩ := List.mem_map.1 member
  exact plain value

theorem plain_ofEntries {depth : Nat} {table : Table α}
    (plain : ∀ entry ∈ table.entries, Plain depth (encode entry.2)) : Plain (depth + 1) (ofTable encode table) := by
  intro member among
  obtain ⟨entry, inside, rfl⟩ := List.mem_map.1 among
  exact plain entry inside

theorem plain_ofTable {depth : Nat} (plain : ∀ value, Plain depth (encode value)) (table : Table α) :
    Plain (depth + 1) (ofTable encode table) :=
  plain_ofEntries fun entry _ => plain entry.2

theorem plain_null (depth : Nat) : Plain depth .null := by cases depth <;> trivial

theorem plain_text (depth : Nat) (text : String) : Plain depth (.text text) := by cases depth <;> trivial

theorem plain_count (depth : Nat) (n : Count) : Plain depth (.count n) := by cases depth <;> trivial

theorem plain_float (depth : Nat) {x : Float}
    (legible : ∃ whole fraction, Token.Legible x whole fraction) : Plain depth (.float x) := by
  cases depth with
  | zero => exact legible
  | succ depth => exact legible

theorem plain_ofOption {depth : Nat} (plain : ∀ value, Plain depth (encode value)) (value : Option α) :
    Plain depth (ofOption encode value) := by
  cases value with
  | none => exact plain_null depth
  | some value => exact plain value

end Waymark.Json
