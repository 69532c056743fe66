import Waymark.Text.CharSet

/-! White space in text: which characters are blank, trimming them off both ends, and the words
between them.
-/

set_option autoImplicit false

namespace Waymark.Text

/-- The characters with the Unicode property White_Space. -/
def blanks : CharSet :=
  [(0x9, 0xD), (0x20, 0x20), (0x85, 0x85), (0xA0, 0xA0), (0x1680, 0x1680), (0x2000, 0x200A),
   (0x2028, 0x2029), (0x202F, 0x202F), (0x205F, 0x205F), (0x3000, 0x3000)]

def isBlank (c : Char) : Bool := blanks.has c

def trimStart (text : List Char) : List Char := text.dropWhile isBlank

def dropWhileEnd (drop : Char → Bool) (text : List Char) : List Char :=
  (text.reverse.dropWhile drop).reverse

def trimEnd (text : List Char) : List Char := dropWhileEnd isBlank text

def trim (text : List Char) : List Char := trimEnd (trimStart text)

/-- Words read so far, the letters of the open word in reverse order. -/
def wordsFrom (word : List Char) : List Char → List (List Char)
  | [] => if word.isEmpty then [] else [word.reverse]
  | c :: rest =>
    if isBlank c then
      if word.isEmpty then wordsFrom [] rest else word.reverse :: wordsFrom [] rest
    else wordsFrom (c :: word) rest

/-- The maximal runs of characters that are not blank. -/
def words (text : List Char) : List (List Char) := wordsFrom [] text

end Waymark.Text
