import Waymark.Json.Token
import Waymark.Toml.Basic

/-! The texts of a TOML document: strings in double quotes with escapes, strings in single quotes as
they stand, both over one line or over several, and keys.
-/

set_option autoImplicit false

namespace Waymark.Toml

/-- A character that a string or comment may hold as it is. -/
def isPlain (c : Char) : Bool := c = '\t' || (0x20 ≤ c.toNat && c.toNat != 0x7F)

def isGap (c : Char) : Bool := c = ' ' || c = '\t'

def skipGap (text : List Char) : List Char := text.dropWhile isGap

def lineEnd? : List Char → Option (List Char)
  | '\n' :: rest => some rest
  | '\r' :: '\n' :: rest => some rest
  | _ => none

def escaped? : Char → Option Char
  | '"' => some '"'
  | '\\' => some '\\'
  | 'b' => some '\x08'
  | 'f' => some '\x0c'
  | 'n' => some '\n'
  | 'r' => some '\r'
  | 't' => some '\t'
  | _ => none

def ofHex? (digits : List Char) : Option Char := do
  let values ← digits.mapM Json.Token.hexValue?
  let n := values.foldl (fun total value => total * 16 + value) 0
  if h : n.isValidChar then some (Char.ofNatAux n h) else none

def prepend (c : Char) (read : Option (List Char × List Char)) : Option (List Char × List Char) :=
  read.map fun (chars, rest) => (c :: chars, rest)

def quoted : List Char → Option (List Char × List Char)
  | '"' :: rest => some ([], rest)
  | '\\' :: 'u' :: a :: b :: c :: d :: rest =>
    (ofHex? [a, b, c, d]).bind fun char => prepend char (quoted rest)
  | '\\' :: 'U' :: a :: b :: c :: d :: e :: f :: g :: h :: rest =>
    (ofHex? [a, b, c, d, e, f, g, h]).bind fun char => prepend char (quoted rest)
  | '\\' :: c :: rest => (escaped? c).bind fun char => prepend char (quoted rest)
  | c :: rest => if isPlain c then prepend c (quoted rest) else none
  | [] => none

def literal : List Char → Option (List Char × List Char)
  | '\'' :: rest => some ([], rest)
  | c :: rest => if isPlain c then prepend c (literal rest) else none
  | [] => none

/-- What stands after three closing quotes; up to two more of them still belong to the text. -/
def closing (quote : Char) : List Char → List Char × List Char
  | a :: b :: rest =>
    if a = quote then if b = quote then ([a, b], rest) else ([a], b :: rest) else ([], a :: b :: rest)
  | [a] => if a = quote then ([a], []) else ([], [a])
  | [] => ([], [])

/-- Whether a line goes on after a backslash: only a gap stands before the line end. -/
def endsLine (text : List Char) : Bool := (lineEnd? (skipGap text)).isSome

/-- The inside of a string in double quotes over several lines. While `skipping`, blanks and line ends
are left out. -/
def quotedLines (skipping : Bool) : List Char → Option (List Char × List Char)
  | '"' :: '"' :: '"' :: rest => some (closing '"' rest)
  | '\r' :: '\n' :: rest =>
    if skipping then quotedLines true rest else prepend '\n' (quotedLines false rest)
  | '\\' :: 'u' :: a :: b :: c :: d :: rest =>
    (ofHex? [a, b, c, d]).bind fun char => prepend char (quotedLines false rest)
  | '\\' :: 'U' :: a :: b :: c :: d :: e :: f :: g :: h :: rest =>
    (ofHex? [a, b, c, d, e, f, g, h]).bind fun char => prepend char (quotedLines false rest)
  | '\\' :: c :: rest =>
    if endsLine (c :: rest) then quotedLines true (c :: rest)
    else (escaped? c).bind fun char => prepend char (quotedLines false rest)
  | c :: rest =>
    if skipping && (isGap c || c = '\n') then quotedLines true rest
    else if isPlain c || c = '\n' then prepend c (quotedLines false rest)
    else none
  | [] => none

def literalLines : List Char → Option (List Char × List Char)
  | '\'' :: '\'' :: '\'' :: rest => some (closing '\'' rest)
  | '\r' :: '\n' :: rest => prepend '\n' (literalLines rest)
  | c :: rest => if isPlain c || c = '\n' then prepend c (literalLines rest) else none
  | [] => none

def skipLineEnd (text : List Char) : List Char := (lineEnd? text).getD text

def string? : List Char → Option (String × List Char)
  | '"' :: '"' :: '"' :: rest => done (quotedLines false (skipLineEnd rest))
  | '"' :: rest => done (quoted rest)
  | '\'' :: '\'' :: '\'' :: rest => done (literalLines (skipLineEnd rest))
  | '\'' :: rest => done (literal rest)
  | _ => none
where
  done (read : Option (List Char × List Char)) : Option (String × List Char) :=
    read.map fun (chars, rest) => (String.ofList chars, rest)

def isBareKeyChar (c : Char) : Bool := c.isAlphanum || c = '-' || c = '_'

def keyPart? : List Char → Option (String × List Char)
  | '"' :: rest => (quoted rest).map fun (chars, rest) => (String.ofList chars, rest)
  | '\'' :: rest => (literal rest).map fun (chars, rest) => (String.ofList chars, rest)
  | chars =>
    let part := chars.takeWhile isBareKeyChar
    if part.isEmpty then none else some (String.ofList part, chars.dropWhile isBareKeyChar)

/-- Nothing is nested deeper, and no key has more parts. -/
def maxDepth : Nat := 79

def keyWithin : Nat → List Char → Option (Key × List Char)
  | 0, _ => none
  | parts + 1, chars => do
    let (part, rest) ← keyPart? (skipGap chars)
    match skipGap rest with
    | '.' :: rest =>
      let (key, rest) ← keyWithin parts rest
      return (⟨part :: key.path, key.name⟩, rest)
    | rest => return (⟨[], part⟩, rest)

def key? (text : List Char) : Option (Key × List Char) := keyWithin maxDepth text

end Waymark.Toml
