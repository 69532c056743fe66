import Waymark.Json.Basic

/-! Reading records out of JSON values. A record is an object with named members or a list of its
fields in order. In an object the first member that cannot be read, in the order of the object,
decides the refusal; only then the first missing field does.
-/

set_option autoImplicit false

namespace Waymark.Json

inductive Refusal where
  | missingField (name : String)
  | unknownVariant (name : String) (expected : List String)
  /-- The value is refused with a sentence of its own. -/
  | unfit (reason : String)
  | malformed
  deriving Repr, DecidableEq

namespace Refusal

def quotedName (name : String) : String := "`" ++ name ++ "`"

def alternatives : List String → String
  | [one] => quotedName one
  | [one, other] => quotedName one ++ " or " ++ quotedName other
  | names => "one of " ++ ", ".intercalate (names.map quotedName)

/-- The sentence of a refusal; a malformed value has none of its own. -/
def reason : Refusal → Option String
  | .missingField name => some ("missing field " ++ quotedName name)
  | .unknownVariant name expected =>
    some ("unknown variant " ++ quotedName name ++ ", expected " ++ alternatives expected)
  | .unfit reason => some reason
  | .malformed => none

end Refusal

structure Shape (α : Type) where
  /-- Checks of the members that the record knows. -/
  checks : List (String × (Json → Except Refusal Unit))
  ofMembers : List (String × Json) → Except Refusal α
  /-- Reads the first items and leaves the others. -/
  ofItems : List Json → Except Refusal (α × List Json)

namespace Shape

variable {α β : Type}

/-- A field with the values that stand for its absence from an object and from the end of a list. -/
def field (name : String) (decode : Json → Except Refusal α) (unnamed short : Option α) : Shape α where
  checks := [(name, fun json => (decode json).map fun _ => ())]
  ofMembers members :=
    match members.lookup name with
    | some json => decode json
    | none => unnamed.elim (.error (.missingField name)) .ok
  ofItems
    | [] => short.elim (.error .malformed) fun value => .ok (value, [])
    | json :: rest => (decode json).map fun value => (value, rest)

def required (name : String) (decode : Json → Except Refusal α) : Shape α :=
  field name decode none none

def withDefault (name : String) (decode : Json → Except Refusal α) (value : α) : Shape α :=
  field name decode (some value) (some value)

/-- Null counts as absent. -/
def nullable (decode : Json → Except Refusal α) : Json → Except Refusal (Option α)
  | .null => .ok none
  | json => (decode json).map some

/-- May be missing from an object, but not from the end of a list. -/
def optional (name : String) (decode : Json → Except Refusal α) : Shape (Option α) :=
  field name (nullable decode) (some none) none

/-- May be missing from an object and from the end of a list. -/
def omissible (name : String) (decode : Json → Except Refusal α) : Shape (Option α) :=
  withDefault name (nullable decode) none

def map (f : α → β) (shape : Shape α) : Shape β where
  checks := shape.checks
  ofMembers members := (shape.ofMembers members).map f
  ofItems items := (shape.ofItems items).map fun (value, rest) => (f value, rest)

def pure (value : α) : Shape α where
  checks := []
  ofMembers _ := .ok value
  ofItems items := .ok (value, items)

def seq (first : Shape (α → β)) (second : Shape α) : Shape β where
  checks := first.checks ++ second.checks
  ofMembers members := do
    let f ← first.ofMembers members
    return f (← second.ofMembers members)
  ofItems items := do
    let (f, rest) ← first.ofItems items
    let (value, rest) ← second.ofItems rest
    return (f value, rest)

instance : Functor Shape := ⟨fun f shape => shape.map f, fun value shape => shape.map fun _ => value⟩

instance : Pure Shape := ⟨pure⟩

instance : Seq Shape := ⟨fun first second => first.seq (second ())⟩

def checkMembers (shape : Shape α) : List (String × Json) → Except Refusal Unit
  | [] => .ok ()
  | (name, json) :: rest =>
    match shape.checks.lookup name with
    | some check => check json >>= fun _ => shape.checkMembers rest
    | none => shape.checkMembers rest

def decodeMembers (shape : Shape α) (members : List (String × Json)) : Except Refusal α :=
  shape.checkMembers members >>= fun _ => shape.ofMembers members

def decodeItems (shape : Shape α) (items : List Json) : Except Refusal α :=
  match shape.ofItems items with
  | .ok (value, []) => .ok value
  | .ok (_, _ :: _) => .error .malformed
  | .error refusal => .error refusal

def decode (shape : Shape α) : Json → Except Refusal α
  | .object members => shape.decodeMembers members
  | .list items => shape.decodeItems items
  | _ => .error .malformed

end Shape

def toCount : Json → Except Refusal Count
  | .count n => .ok n
  | _ => .error .malformed

def toText : Json → Except Refusal String
  | .text s => .ok s
  | _ => .error .malformed

/-- Any number; an integer is taken as the nearest float. -/
def toFloat : Json → Except Refusal Float
  | .float x => .ok x
  | .count n => .ok n.toFloat
  | .negative n => .ok (-(UInt64.ofNat n).toFloat)
  | _ => .error .malformed

def toList {α : Type} (decode : Json → Except Refusal α) : Json → Except Refusal (List α)
  | .list items => items.mapM decode
  | _ => .error .malformed

def toTable {α : Type} (decode : Json → Except Refusal α) : Json → Except Refusal (Table α)
  | .object members =>
    (members.mapM fun member => (decode member.2).map fun value => (member.1, value)).map Table.ofList
  | _ => .error .malformed

/-- A name out of a table, as a text or as the only key of an object whose value says nothing. -/
def toVariant {α : Type} (names : List (String × α)) (isNothing : Json → Bool) :
    Json → Except Refusal α
  | .text name => find name
  | .object [(name, content)] => do
    let value ← find name
    if isNothing content then return value else throw .malformed
  | _ => .error .malformed
where
  find (name : String) : Except Refusal α :=
    (names.lookup name).elim (.error (.unknownVariant name (names.map Prod.fst))) .ok

/-- What a variant without content may hold in a stored document. -/
def isNothing : Json → Bool
  | .null => true
  | .object [] => true
  | _ => false

/-- What a variant without content may hold in a configuration. -/
def isNull : Json → Bool
  | .null => true
  | _ => false

end Waymark.Json
