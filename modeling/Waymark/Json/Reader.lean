import Waymark.Json.Token

/-! From tokens to values. A draft is a text's structure as it is written: members in their order,
repeated keys and scalars without a value included. Its value keeps the last of equal keys, sorts
the members, and exists only where every scalar has one and the nesting is not too deep.
-/

set_option autoImplicit false

namespace Waymark.Json

inductive Draft where
  | scalar (value : Option Json)
  | list (items : List Draft)
  | object (members : List (Option String × Draft))

/-- A container that is still open, its content in reverse order. -/
inductive Frame where
  | list (items : List Draft)
  | object (members : List (Option String × Draft))
  | member (members : List (Option String × Draft)) (key : Option String)

inductive Awaited where
  | value
  | firstItem
  | firstKey
  | key
  | colon
  | separator
  | nothing
  deriving DecidableEq

structure Reader where
  awaited : Awaited
  frames : List Frame
  finished : Option Draft

namespace Reader

def start : Reader := ⟨.value, [], none⟩

def deliver (draft : Draft) : List Frame → Option Reader
  | [] => some ⟨.nothing, [], some draft⟩
  | .list items :: frames => some ⟨.separator, .list (draft :: items) :: frames, none⟩
  | .member members key :: frames => some ⟨.separator, .object ((key, draft) :: members) :: frames, none⟩
  | .object _ :: _ => none

def beginValue (frames : List Frame) : Token → Option Reader
  | .scalar value => deliver (.scalar value) frames
  | .text value => deliver (.scalar (value.map .text)) frames
  | .openList => some ⟨.firstItem, .list [] :: frames, none⟩
  | .openObject => some ⟨.firstKey, .object [] :: frames, none⟩
  | _ => none

def step (reader : Reader) (token : Token) : Option Reader :=
  match reader.awaited, reader.frames, token with
  | .value, frames, token => beginValue frames token
  | .firstItem, .list items :: frames, .closeList => deliver (.list items.reverse) frames
  | .firstItem, frames, token => beginValue frames token
  | .firstKey, .object members :: frames, .closeObject => deliver (.object members.reverse) frames
  | .firstKey, .object members :: frames, .text key => some ⟨.colon, .member members key :: frames, none⟩
  | .key, .object members :: frames, .text key => some ⟨.colon, .member members key :: frames, none⟩
  | .colon, frames, .colon => some ⟨.value, frames, none⟩
  | .separator, .list items :: frames, .comma => some ⟨.value, .list items :: frames, none⟩
  | .separator, .list items :: frames, .closeList => deliver (.list items.reverse) frames
  | .separator, .object members :: frames, .comma => some ⟨.key, .object members :: frames, none⟩
  | .separator, .object members :: frames, .closeObject => deliver (.object members.reverse) frames
  | _, _, _ => none

def run (reader : Reader) : List Token → Option Reader
  | [] => some reader
  | token :: tokens => (reader.step token).bind fun next => next.run tokens

end Reader

def draft? (text : List Char) : Option Draft := do
  let tokens ← Token.scan text
  let reader ← Reader.start.run tokens
  reader.finished

mutual

/-- The value of a draft with at most `depth` containers inside each other. -/
def Draft.value? (depth : Nat) : Draft → Option Json
  | .scalar value => value
  | .list items =>
    match depth with
    | 0 => none
    | depth + 1 => (itemValues? depth items).map .list
  | .object members =>
    match depth with
    | 0 => none
    | depth + 1 => (memberValues? depth [] members).map .object

def itemValues? (depth : Nat) : List Draft → Option (List Json)
  | [] => some []
  | item :: items =>
    match item.value? depth, itemValues? depth items with
    | some value, some values => some (value :: values)
    | _, _ => none

def memberValues? (depth : Nat) (read : List (String × Json)) :
    List (Option String × Draft) → Option (List (String × Json))
  | [] => some read
  | (some key, member) :: members =>
    match member.value? depth with
    | some value => memberValues? depth (insertEntry key value read) members
    | none => none
  | (none, _) :: _ => none

end

def maxDepth : Nat := 127

def read? (text : List Char) : Option Json := (draft? text).bind (·.value? maxDepth)

/-- What to keep of a text: a value as it is, or certain members of an object. -/
inductive Selection where
  | value
  | record (fields : List (String × Selection))

def Draft.repeatsKey : Draft → Bool
  | .object members => !decide (members.map Prod.fst).Nodup
  | _ => false

mutual

/-- The selected part of a draft. Members that are not selected need no value; a selected member
may stand only once. In a list the selections apply to the items in order. -/
def Draft.select? (depth : Nat) (draft : Draft) : Selection → Option Json
  | .value => if draft.repeatsKey then none else draft.value? depth
  | .record fields =>
    match depth, draft with
    | depth + 1, .object members => (selectMembers? depth members fields).map .object
    | depth + 1, .list items => (selectItems? depth items fields).map .list
    | depth, draft => draft.value? depth

def selectMembers? (depth : Nat) (members : List (Option String × Draft)) :
    List (String × Selection) → Option (List (String × Json))
  | [] => if members.all (·.1.isSome) then some [] else none
  | (name, selection) :: fields =>
    match members.filter (·.1 == some name), selectMembers? depth members fields with
    | [], some rest => some rest
    | [(_, member)], some rest =>
      (member.select? depth selection).map fun value => insertEntry name value rest
    | _, _ => none

def selectItems? (depth : Nat) (items : List Draft) :
    List (String × Selection) → Option (List Json)
  | [] => itemValues? depth items
  | (_, selection) :: fields =>
    match items with
    | [] => some []
    | item :: rest =>
      match item.select? depth selection, selectItems? depth rest fields with
      | some value, some values => some (value :: values)
      | _, _ => none

end

end Waymark.Json
