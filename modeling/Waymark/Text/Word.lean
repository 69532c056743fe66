import Waymark.Text.Table.Alphabetic
import Waymark.Text.Table.Numeric

/-! Letters, numbers and the characters that make up an identifier-like word. -/

set_option autoImplicit false

namespace Waymark.Text

def isAlphanumeric (c : Char) : Bool :=
  if c.toNat < 0x80 then c.isAlphanum else Table.alphabetic.has c || Table.numeric.has c

/-- Letters, marks, decimal digits, connector punctuation and joiners. -/
def isWordChar (c : Char) : Bool :=
  if c.toNat < 0x80 then c.isAlphanum || c == '_'
  else Table.alphabetic.has c || Table.wordMark.has c

end Waymark.Text
