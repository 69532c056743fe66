import Waymark.Count
import Waymark.Table

/-! JSON values. Integers from zero up to the limit of a counter are counts; every number that is
no integer of 64 bits is a float.
-/

set_option autoImplicit false

namespace Waymark

inductive Json where
  | null
  | bool (value : Bool)
  | count (value : Count)
  /-- The integer `-magnitude`. -/
  | negative (magnitude : Nat)
  | float (value : Float)
  | text (value : String)
  | list (items : List Json)
  /-- Members in the order in which they are written. -/
  | object (members : List (String × Json))
  deriving Inhabited

namespace Json

def get? (json : Json) (key : String) : Option Json :=
  match json with
  | .object members => members.lookup key
  | _ => none

def ofList {α : Type} (encode : α → Json) (items : List α) : Json := .list (items.map encode)

def ofOption {α : Type} (encode : α → Json) : Option α → Json
  | none => .null
  | some value => encode value

def ofTable {α : Type} (encode : α → Json) (table : Table α) : Json :=
  .object (table.map encode).entries

end Json

end Waymark
