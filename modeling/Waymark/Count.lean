import Waymark.Text.Decimal

/-! Counters of 64 bits. An addition that does not fit is an outcome of its own, never a wrapped
value, and so is a slice that is not within its list.
-/

set_option autoImplicit false

namespace Waymark

abbrev Count := UInt64

/-- A number that leaves its range: a sum that does not fit in 64 bits, or the ends of a slice that a
list does not have. -/
inductive Overflow where
  | addition
  /-- From `first` on and before `stop`, of a list of `length` items. -/
  | slice (first stop length : Nat)
  deriving Repr, DecidableEq

def Overflow.message : Overflow → String
  | .addition => "attempt to add with overflow"
  | .slice first stop length =>
    let text (n : Nat) := String.ofList (Text.Decimal.write n)
    if stop < first then "slice index starts at " ++ text first ++ " but ends at " ++ text stop
    else "range end index " ++ text stop ++ " out of range for slice of length " ++ text length

namespace Count

def limit : Nat := 1 <<< 64

def ofNat? (n : Nat) : Option Count :=
  if n < limit then some (UInt64.ofNat n) else none

def ofLength {α : Type} (items : List α) : Count := UInt64.ofNat items.length

def add (a b : Count) : Except Overflow Count :=
  if a.toNat + b.toNat < limit then .ok (a + b) else .error .addition

def next (a : Count) : Except Overflow Count := add a 1

def text (a : Count) : List Char := Text.Decimal.write a.toNat

/-- Digits after at most one plus sign, with a value that fits. -/
def read? (text : List Char) : Option Count :=
  let digits := match text with
    | '+' :: rest => rest
    | _ => text
  (Text.Decimal.read? digits).bind ofNat?

end Count

end Waymark
