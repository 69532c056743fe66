import Waymark.Text.Decimal
import Waymark.Text.Lines

/-! The settings of a version-controlled repository, read from the lines of its configuration. Bytes are
kept as characters of one byte each. A section stands in brackets, its subsection in quotes; a value may
be quoted and go on after a backslash at the end of the line.
-/

set_option autoImplicit false

namespace Waymark

/-- A setting under its full name, sections and keys in lower case. -/
structure Setting where
  name : List Char
  /-- None where only the name is given. -/
  value : Option (List Char)
  deriving DecidableEq

namespace Setting

def isSpace (c : Char) : Bool := [' ', '\t', '\n', '\x0b', '\x0c', '\r'].contains c

def isKeyChar (c : Char) : Bool := c.isAlphanum || c = '-'

def trimEnd (line : List Char) : List Char := (line.reverse.dropWhile isSpace).reverse

structure Stripped where
  text : List Char
  /-- Whether a quote is left open. -/
  isOpen : Bool

/-- Cuts the comment off a line. A comment sign in quotes or after a backslash starts none.
`afterBackslash` tells of the character before, `escaped` whether an odd number of backslashes stands
there. -/
def cutComment (isOpen afterBackslash escaped : Bool) : List Char → Stripped
  | [] => ⟨[], isOpen⟩
  | c :: rest =>
    let nowOpen := if c = '"' && !afterBackslash then !isOpen else isOpen
    if (c = ';' || c = '#') && !nowOpen && !escaped then ⟨[], nowOpen⟩
    else
      let later := cutComment nowOpen (c = '\\') (c = '\\' && !escaped) rest
      { later with text := c :: later.text }

def strip (isOpen : Bool) (line : List Char) : Stripped :=
  let cut := cutComment isOpen false false line
  { cut with text := trimEnd cut.text }

def escaped? : Char → Option Char
  | 'n' => some '\n'
  | 't' => some '\t'
  | 'b' => some '\x08'
  | '"' => some '"'
  | '\\' => some '\\'
  | _ => none

/-- A value without quotes and escapes, and whether it goes on in the next line. -/
def unescape? : List Char → Option (List Char × Bool)
  | [] => some ([], false)
  | ['\\'] => some ([], true)
  | '\\' :: c :: rest => do
    let plain ← escaped? c
    let (text, more) ← unescape? rest
    return (plain :: text, more)
  | c :: rest => do
    let (text, more) ← unescape? rest
    return (if c = '"' then text else c :: text, more)

/-- The further lines of a value and the lines after it. An empty line ends the value where the text
ends; a line that holds only a comment is passed over. -/
def furtherLines? (isOpen : Bool) : List (List Char) → Option (List Char × List (List Char))
  | [] => some ([], [])
  | line :: rest =>
    if line.isEmpty && rest.isEmpty then some ([], [])
    else
      let stripped := strip isOpen line
      if stripped.text.isEmpty then furtherLines? stripped.isOpen rest
      else do
        let (text, more) ← unescape? stripped.text
        if more then
          let (later, rest) ← furtherLines? stripped.isOpen rest
          return (text ++ later, rest)
        else return (text, rest)

def ofLine? (group : List Char) (line : List Char) (rest : List (List Char)) :
    Option (Setting × List (List Char)) :=
  let stripped := strip false line
  let key := stripped.text.takeWhile isKeyChar
  let after := (stripped.text.dropWhile isKeyChar).dropWhile isSpace
  let name := group ++ key.map Char.toLower
  if key.isEmpty then none
  else
    match after with
    | [] => some (⟨name, none⟩, rest)
    | '=' :: value => do
      let (text, more) ← unescape? (value.dropWhile isSpace)
      if more then
        let (later, rest) ← furtherLines? stripped.isOpen rest
        return (⟨name, some (text ++ later)⟩, rest)
      else return (⟨name, some text⟩, rest)
    | _ => none

def subsection? : List Char → Option (List Char × List Char)
  | '"' :: ']' :: rest => some ([], rest)
  | '"' :: _ => none
  | '\\' :: c :: rest => (subsection? rest).map fun (text, rest) => (c :: text, rest)
  | c :: rest => (subsection? rest).map fun (text, rest) => (c :: text, rest)
  | [] => none

/-- The section that a header names, with a point after it, and what follows the header. -/
def header? (line : List Char) : Option (List Char × List Char) :=
  let isNameChar (c : Char) : Bool := isKeyChar c || c = '.'
  let name := (line.takeWhile isNameChar).map Char.toLower
  if name.isEmpty then none
  else
    match line.dropWhile isNameChar with
    | ']' :: rest => some (name ++ ['.'], rest)
    | c :: rest =>
      if isSpace c then
        match rest.dropWhile isSpace with
        | '"' :: rest =>
          (subsection? rest).map fun (text, rest) => (name ++ '.' :: (text ++ ['.']), rest)
        | _ => none
      else none
    | [] => none

def ofLines? (group : List Char) : Nat → List (List Char) → Option (List Setting)
  | _, [] => some []
  | 0, _ :: _ => none
  | steps + 1, line :: rest =>
    match line.dropWhile isSpace with
    | [] => ofLines? group steps rest
    | ';' :: _ | '#' :: _ => ofLines? group steps rest
    | '[' :: header => do
      let (group, after) ← header? header
      ofLines? group steps (after :: rest)
    | text => do
      let (setting, rest) ← ofLine? group text rest
      return setting :: (← ofLines? group steps rest)

def mark : List Char := ['\u00EF', '\u00BB', '\u00BF']

def read? (content : ByteArray) : Option (List Setting) :=
  let chars := content.toList.map fun b => Char.ofNat b.toNat
  let chars := if mark.isPrefixOf chars then chars.drop mark.length else chars
  ofLines? [] (chars.length + 1) (Text.split '\n' chars)

def last? (settings : List Setting) (name : String) : Option (Option (List Char)) :=
  (settings.reverse.find? (·.name == name.toList)).map (·.value)

/-! Values -/

/-- An integer of base ten, or of base sixteen or eight after `0x` or `0`, with a sign and a letter for a
power of 1024. -/
def integer? (value : List Char) : Option Int :=
  let trimmed := value.dropWhile isSpace
  let (sign, body) : Int × List Char := match trimmed with
    | '-' :: rest => (-1, rest)
    | '+' :: rest => (1, rest)
    | _ => (1, trimmed)
  let (base, body) : Nat × List Char := match body with
    | '0' :: x :: rest => if x = 'x' || x = 'X' then (16, rest) else (8, '0' :: x :: rest)
    | _ => (10, body)
  let digitValue (c : Char) : Nat :=
    if c.isDigit then c.toNat - 0x30
    else if c.isAlpha then c.toLower.toNat - 0x61 + 10 else base
  let digits := body.takeWhile (digitValue · < base)
  let magnitude := digits.foldl (fun total c => total * base + digitValue c) 0
  if digits.isEmpty then none
  else
    match (body.dropWhile (digitValue · < base)).map Char.toLower with
    | [] => some (sign * magnitude)
    | ['k'] => some (sign * magnitude * 1024)
    | ['m'] => some (sign * magnitude * 1048576)
    | ['g'] => some (sign * magnitude * 1073741824)
    | _ => none

/-- A truth value as a word or a number; a name alone is true. -/
def truth? : Option (List Char) → Option Bool
  | none => some true
  | some value =>
    let word := String.ofList (value.map Char.toLower)
    if ["true", "yes", "on"].contains word then some true
    else if ["false", "no", "off", ""].contains word then some false
    else (integer? value).map (· != 0)

end Setting

end Waymark
