/-! Lines of a text. A line ends at a line feed, which may follow one carriage return; other
separators do not end a line.
-/

set_option autoImplicit false

namespace Waymark.Text

/-- A reversed line without the carriage return before its line feed. -/
def dropReturn : List Char → List Char
  | '\r' :: line => line
  | line => line

/-- Lines of the text, the characters of the open line in reverse order. -/
def linesFrom (line : List Char) : List Char → List (List Char)
  | [] => if line.isEmpty then [] else [line.reverse]
  | c :: rest =>
    if c = '\n' then (dropReturn line).reverse :: linesFrom [] rest
    else linesFrom (c :: line) rest

/-- The lines without their ends; a final line feed opens no further line. -/
def lines (text : List Char) : List (List Char) := linesFrom [] text

/-- The pieces between the separators, always at least one. -/
def split (separator : Char) : List Char → List (List Char)
  | [] => [[]]
  | c :: rest =>
    if c = separator then [] :: split separator rest
    else
      match split separator rest with
      | [] => [[c]]
      | piece :: pieces => (c :: piece) :: pieces

def join (separator : List Char) : List (List Char) → List Char
  | [] => []
  | [piece] => piece
  | piece :: pieces => piece ++ separator ++ join separator pieces

def occursIn (part : List Char) : List Char → Bool
  | [] => part.isEmpty
  | c :: rest => part.isPrefixOf (c :: rest) || occursIn part rest

end Waymark.Text
