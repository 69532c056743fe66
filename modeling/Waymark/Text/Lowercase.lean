import Waymark.Text.Table.Cased
import Waymark.Text.Table.Lowercase

/-! Lower-casing of whole texts. Every character is lowered by itself except the capital sigma,
which has a form of its own at the end of a word.
-/

set_option autoImplicit false

namespace Waymark.Text

def lowerChar (c : Char) : List Char :=
  if c.toNat < 0x80 then [c.toLower]
  else if c.toNat = 0x130 then ['i', '\u0307']
  else [(Table.lowercase.get? c).getD c]

/-- The first character that is not passed over has case. -/
def meetsCased (text : List Char) : Bool :=
  match text.dropWhile Table.caseIgnorable.has with
  | [] => false
  | c :: _ => Table.cased.has c

/-- Lowers `rest`, which follows the reversed text `before`. -/
def lowercaseFrom (before : List Char) : List Char → List Char
  | [] => []
  | c :: rest =>
    let lowered :=
      if c = 'Σ' then
        if meetsCased before && !meetsCased rest then ['ς'] else ['σ']
      else lowerChar c
    lowered ++ lowercaseFrom (c :: before) rest

def lowercase (text : List Char) : List Char := lowercaseFrom [] text

def asciiLowercase (text : List Char) : List Char := text.map Char.toLower

end Waymark.Text
