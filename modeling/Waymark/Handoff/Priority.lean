import Waymark.Text.Blank
import Waymark.Text.Lines
import Waymark.Text.Lowercase
import Waymark.Text.Word

/-! Phrases of a summary that the next session should look at first: a keyword and the words that
follow it.
-/

set_option autoImplicit false

namespace Waymark.Priority

def keywords : List String :=
  ["urgent", "critical", "important", "fix", "bug", "error", "complete", "todo", "blocked"]

def phraseLength : Nat := 5

def maxItems : Nat := 3

/-- A word without the marks around it. -/
def bare (word : List Char) : List Char :=
  Text.dropWhileEnd (!Text.isAlphanumeric ·) (word.dropWhile (!Text.isAlphanumeric ·))

def isKeyword (word : List Char) : Bool := keywords.contains (String.ofList (bare word))

/-- The phrases that start at each keyword with a word after it. -/
def phrases : List (List Char) → List (List Char)
  | [] => []
  | word :: rest =>
    let later := phrases rest
    if isKeyword word && !rest.isEmpty then
      Text.join [' '] ((word :: rest).take phraseLength) :: later
    else later

/-- The first phrases of a summary, in lower case. -/
def items (summary : String) : List String :=
  ((phrases (Text.words (Text.lowercase summary.toList))).take maxItems).map String.ofList

end Waymark.Priority
