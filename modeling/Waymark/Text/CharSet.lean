/-! Sets of characters given as closed ranges of scalar values, and maps that move runs of
characters by a fixed distance. The tables of the Unicode properties are values of these types.
-/

set_option autoImplicit false

namespace Waymark.Text

/-- Closed ranges of scalar values. -/
abbrev CharSet := List (Nat × Nat)

def CharSet.has (set : CharSet) (c : Char) : Bool :=
  set.any fun range => range.1 ≤ c.toNat && c.toNat ≤ range.2

/-- Every `step`-th scalar value from `first` to `last` moves by `shift`. -/
structure CharRun where
  first : Nat
  last : Nat
  step : Nat
  shift : Int
  deriving Repr, DecidableEq

def CharRun.covers (run : CharRun) (n : Nat) : Bool :=
  run.first ≤ n && n ≤ run.last && (n - run.first) % run.step == 0

abbrev CharMap := List CharRun

def CharMap.get? (map : CharMap) (c : Char) : Option Char :=
  (map.find? (·.covers c.toNat)).map fun run => Char.ofNat ((c.toNat : Int) + run.shift).toNat

def CharMap.sources (map : CharMap) (c : Char) : List Char :=
  map.filterMap fun run =>
    let source := ((c.toNat : Int) - run.shift).toNat
    if run.covers source then some (Char.ofNat source) else none

end Waymark.Text
