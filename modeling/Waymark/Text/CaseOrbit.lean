import Waymark.Text.Table.CaseOrbit

/-! Characters that are equal up to case under simple case folding. -/

set_option autoImplicit false

namespace Waymark.Text

/-- The smallest character equal to `c` up to case. -/
def caseRoot (c : Char) : Char := (Table.caseOrbit.get? c).getD c

def caseOrbit (c : Char) : List Char :=
  caseRoot c :: Table.caseOrbit.sources (caseRoot c)

end Waymark.Text
