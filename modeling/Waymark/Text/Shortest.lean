import Waymark.Text.Decimal

/-! The shortest decimal that reads back as a given binary number. The number is `m · 2 ^ q`; the
reals that round to it form an interval, and the answer is the point nearest to the number on the
coarsest decimal grid that has a point in the interval.
-/

set_option autoImplicit false

namespace Waymark.Text.Shortest

/-- A positive binary number `significand · 2 ^ exponent`. -/
structure Binary where
  significand : Nat
  exponent : Int
  /-- The next number below is only half as far away as the next one above. -/
  closerBelow : Bool
  deriving Repr, DecidableEq

/-- The number `digits · 10 ^ exponent`. -/
structure Scaled where
  digits : Nat
  exponent : Int
  deriving Repr, DecidableEq

/-- Quarters of a unit of the last binary place, as a fraction of `10 ^ grid`. -/
def Binary.fraction (b : Binary) (quarters : Nat) (grid : Int) : Nat × Nat :=
  let place := b.exponent - 2
  (quarters * Nat.pow 2 place.toNat * Nat.pow 10 (-grid).toNat,
    Nat.pow 2 (-place).toNat * Nat.pow 10 grid.toNat)

def Binary.rounds (b : Binary) (grid : Int) (point : Nat) : Bool :=
  let (low, unit) := b.fraction (4 * b.significand - if b.closerBelow then 1 else 2) grid
  let (high, _) := b.fraction (4 * b.significand + 2) grid
  if b.significand % 2 = 0 then low ≤ point * unit && point * unit ≤ high
  else low < point * unit && point * unit < high

/-- The neighbour of the number on the grid that rounds to it, the nearer one if both do. -/
def Binary.onGrid? (b : Binary) (grid : Int) : Option Scaled :=
  let (exact, unit) := b.fraction (4 * b.significand) grid
  let below := exact / unit
  let fromBelow := exact - below * unit
  let fromAbove := (below + 1) * unit - exact
  match b.rounds grid below && below != 0, b.rounds grid (below + 1) with
  | true, true =>
    if fromBelow < fromAbove || fromBelow == fromAbove && below % 2 == 0 then some ⟨below, grid⟩
    else some ⟨below + 1, grid⟩
  | true, false => some ⟨below, grid⟩
  | false, true => some ⟨below + 1, grid⟩
  | false, false => none

/-- No binary number of 64 bits is smaller than `10 ^ -340`. -/
def depth : Nat := 340

def Binary.leading (b : Binary) : Int :=
  let (exact, unit) := b.fraction (4 * b.significand) (-depth)
  ((Decimal.write (exact / unit)).length : Int) - 1 - depth

/-- Tries one digit more on each grid, `steps` grids at most. -/
def Binary.search (b : Binary) (grid : Int) : Nat → Scaled
  | 0 => ⟨0, grid⟩
  | steps + 1 => (b.onGrid? grid).getD (b.search (grid - 1) steps)

def Scaled.stripped (s : Scaled) : Nat → Scaled
  | 0 => s
  | steps + 1 =>
    if s.digits % 10 = 0 && s.digits ≠ 0 then Scaled.stripped ⟨s.digits / 10, s.exponent + 1⟩ steps
    else s

/-- Seventeen digits tell all binary numbers of 64 bits apart. -/
def Binary.shortest (b : Binary) : Scaled :=
  (b.search b.leading 17).stripped 17

def Binary.ofFloat (x : Float) : Binary :=
  let bits := x.toBits.toNat
  let mantissa := bits % (1 <<< 52)
  let exponent : Nat := bits >>> 52 % 2048
  if exponent = 0 then ⟨mantissa, -1074, false⟩
  else ⟨mantissa + 1 <<< 52, (exponent : Int) - 1075, mantissa == 0 && exponent != 1⟩

end Waymark.Text.Shortest
