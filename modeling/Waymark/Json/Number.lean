import Waymark.Json.Basic

/-! Numbers of a JSON text. The digits fill a 64-bit significand from the left; whole digits that
no longer fit only raise the exponent and such fraction digits are dropped. An integer that fits
stays an integer. Any other number is the significand scaled by one power of ten.
-/

set_option autoImplicit false

namespace Waymark.Json

structure Numeral where
  isNegative : Bool
  whole : List Char
  fraction : List Char
  hasFraction : Bool
  /-- Sign and digits of the exponent; the sign is true for a negative one. -/
  power : Option (Bool × List Char)
  deriving Repr, DecidableEq

namespace Numeral

/-- Appends digits to a significand while it fits, and counts those that remain. -/
def absorb (significand : Nat) : List Char → Nat × Nat
  | [] => (significand, 0)
  | c :: rest =>
    let longer := significand * 10 + Text.Decimal.digitValue c
    if longer < Count.limit then absorb longer rest else (significand, rest.length + 1)

/-- `x · 10 ^ exponent`, if it is finite. Powers below `10 ^ -308` are divided out in steps. -/
def scale (x : Float) (exponent : Int) : Option Float :=
  if exponent.natAbs ≤ 308 then
    let power := Float.ofScientific 1 false exponent.natAbs
    if exponent < 0 then some (x / power)
    else if (x * power).isInf then none else some (x * power)
  else if x == 0 then some x
  else if 0 ≤ exponent then none
  else scale (x / 1e308) (exponent + 308)
termination_by exponent.natAbs
decreasing_by omega

/-- The largest exponent whose digits are taken at their value. -/
def powerLimit : Nat := 2147483647

def clamp (exponent : Int) : Int :=
  max (-2147483648) (min exponent powerLimit)

def signed (n : Numeral) (x : Float) : Json := .float (if n.isNegative then -x else x)

/-- The float with the given significand and with the written exponent added to `shift`. -/
def toFloat (n : Numeral) (significand : Nat) (shift : Int) : Option Json :=
  let base := (UInt64.ofNat significand).toFloat
  match n.power with
  | none => (scale base shift).map n.signed
  | some (below, digits) =>
    let power := Text.Decimal.value digits
    if power ≤ powerLimit then
      (scale base (clamp (if below then shift - power else shift + power))).map n.signed
    else if significand ≠ 0 && !below then none
    else some (n.signed 0)

def value (n : Numeral) : Option Json :=
  let (significand, raised) := absorb 0 n.whole
  if n.hasFraction then
    let (significand, dropped) := absorb significand n.fraction
    n.toFloat significand (raised - (n.fraction.length - dropped : Nat))
  else if n.power.isSome || raised ≠ 0 then n.toFloat significand raised
  else if !n.isNegative then some (.count (UInt64.ofNat significand))
  else if significand = 0 || significand > 1 <<< 63 then
    some (n.signed (UInt64.ofNat significand).toFloat)
  else some (.negative significand)

end Numeral

end Waymark.Json
