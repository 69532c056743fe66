import Waymark.Text.Decimal

/-! Identifiers of sessions: numbers of 128 bits, written as 26 digits of base 32. The digits are
the decimal ones and the letters without I, L, O and U.
-/

set_option autoImplicit false

namespace Waymark

def SessionId.count : Nat := 1 <<< 128

instance SessionId.neZero_count : @NeZero Nat Zero.ofOfNat0 SessionId.count := ⟨by decide⟩

structure SessionId where
  value : Fin SessionId.count
  deriving DecidableEq

namespace SessionId

inductive Refusal where
  | length
  | character
  deriving Repr, DecidableEq

def Refusal.message : Refusal → String
  | .length => "invalid length"
  | .character => "invalid character"

def digits : List Char := "0123456789ABCDEFGHJKMNPQRSTVWXYZ".toList

def width : Nat := 26

def digitValue? (c : Char) : Option Nat := digits.findIdx? (· == c.toUpper)

def writeDigits : Nat → Nat → List Char
  | 0, _ => []
  | width + 1, n => writeDigits width (n / 32) ++ [digits.getD (n % 32) '0']

def text (id : SessionId) : List Char := writeDigits width id.value

def toText (id : SessionId) : String := String.ofList id.text

def readDigits (n : Nat) : List Char → Option Nat
  | [] => some n
  | c :: rest => (digitValue? c).bind fun d => readDigits (n * 32 + d) rest

/-- Bits above the 128th are dropped. -/
def ofNat (n : Nat) : SessionId := ⟨Fin.ofNat count n⟩

/-- The identifier of a moment, in milliseconds since 1970, and eighty random bits. Identifiers of later
moments are greater. -/
def ofMoment (milliseconds random : Nat) : SessionId :=
  ofNat ((milliseconds % (1 <<< 48)) <<< 80 + random % (1 <<< 80))

def read (text : String) : Except Refusal SessionId :=
  if text.utf8ByteSize ≠ width then .error .length
  else (readDigits 0 text.toList).elim (.error .character) fun n => .ok (ofNat n)

end SessionId

end Waymark
