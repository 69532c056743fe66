/-! Natural numbers in decimal notation: writing without leading zeros, writing to a fixed width,
and reading.
-/

set_option autoImplicit false

namespace Waymark.Text.Decimal

def digit (value : Nat) : Char := Char.ofNat (0x30 + value)

def digitValue (c : Char) : Nat := c.toNat - 0x30

def write (n : Nat) : List Char :=
  if n < 10 then [digit n] else write (n / 10) ++ [digit (n % 10)]
termination_by n

def writePadded (width n : Nat) : List Char :=
  List.replicate (width - (write n).length) '0' ++ write n

/-- The value of a run of digits after the digits that make up `value`. -/
def valueFrom (value : Nat) (digits : List Char) : Nat :=
  digits.foldl (fun total c => total * 10 + digitValue c) value

def value (digits : List Char) : Nat := valueFrom 0 digits

def read? (text : List Char) : Option Nat :=
  if text.isEmpty || !text.all Char.isDigit then none else some (value text)

end Waymark.Text.Decimal
