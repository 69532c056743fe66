import Waymark.Toml.Scalar

/-! Reading TOML documents: statements line by line, each with its value. -/

set_option autoImplicit false

namespace Waymark.Toml

abbrev Reader (α : Type) := List Char → Option (α × List Char)

def skipComment? (chars : List Char) : Option (List Char) :=
  let rest := chars.dropWhile isPlain
  if rest.isEmpty then some [] else lineEnd? rest

def skipLine? (chars : List Char) : Option (List Char) :=
  match skipGap chars with
  | [] => some []
  | '#' :: rest => skipComment? rest
  | rest => lineEnd? rest

/-- What follows blanks, line ends and comments; at most `steps` of them are skipped. -/
def skipLines : Nat → List Char → List Char
  | 0, chars => chars
  | steps + 1, chars =>
    match skipGap chars with
    | '#' :: rest => ((skipComment? rest).map (skipLines steps)).getD ('#' :: rest)
    | rest => ((lineEnd? rest).map (skipLines steps)).getD rest

def listItems (value : Reader Toml) : Nat → Reader (List Toml)
  | 0, _ => none
  | steps + 1, chars =>
    match skipLines chars.length chars with
    | ']' :: rest => some ([], rest)
    | chars => do
      let (item, rest) ← value chars
      match skipLines rest.length rest with
      | ']' :: rest => return ([item], rest)
      | ',' :: rest =>
        let (items, rest) ← listItems value steps rest
        return (item :: items, rest)
      | _ => none

def pair? (value : Reader Toml) : Reader (Key × Toml) := fun chars => do
  let (key, rest) ← key? chars
  match rest with
  | '=' :: rest =>
    let (value, rest) ← value (skipGap rest)
    return ((key, value), rest)
  | _ => none

def inlinePairs (value : Reader Toml) : Nat → Reader (List (Key × Toml))
  | 0, _ => none
  | steps + 1, chars => do
    let (pair, rest) ← pair? value chars
    match skipGap rest with
    | '}' :: rest => return ([pair], rest)
    | ',' :: rest =>
      let (pairs, rest) ← inlinePairs value steps rest
      return (pair :: pairs, rest)
    | _ => none

def inlineTable? (value : Reader Toml) : Reader Toml := fun chars =>
  match skipGap chars with
  | '}' :: rest => some (.table .inline [], rest)
  | chars => do
    let (pairs, rest) ← inlinePairs value (chars.length + 1) chars
    return (← ofPairs? pairs, rest)

def leaf? : Reader Toml := fun chars =>
  match chars with
  | '"' :: _ | '\'' :: _ => (string? chars).map fun (value, rest) => (.text value, rest)
  | _ => (Scalar.skip? chars).map fun rest => (.scalar, rest)

def value? : Nat → Reader Toml
  | 0 => leaf?
  | depth + 1 => fun chars =>
    match chars with
    | '[' :: rest =>
      (listItems (value? depth) (rest.length + 1) rest).map fun (items, rest) => (.list items, rest)
    | '{' :: rest => inlineTable? (value? depth) rest
    | _ => leaf? chars

def header? (closing : List Char) : Reader Key := fun chars => do
  let (key, rest) ← key? chars
  if closing.isPrefixOf rest then return (key, ← skipLine? (rest.drop closing.length)) else none

def statement? : Reader Statement := fun chars =>
  match chars with
  | '[' :: '[' :: rest =>
    (header? [']', ']'] rest).map fun (key, rest) => (.element key, rest)
  | '[' :: rest => (header? [']'] rest).map fun (key, rest) => (.header key, rest)
  | _ => do
    let ((key, value), rest) ← pair? (value? maxDepth) chars
    return (.pair key value, ← skipLine? rest)

def statements? : Nat → List Char → Option (List Statement)
  | steps, chars =>
    match skipLines chars.length chars, steps with
    | [], _ => some []
    | _ :: _, 0 => none
    | c :: chars, steps + 1 => do
      let (statement, rest) ← statement? (c :: chars)
      return statement :: (← statements? steps rest)

/-- Reads a document; a mark of byte order in front of it says nothing. -/
def read? (chars : List Char) : Option Toml :=
  let chars := if chars.head? = some '\uFEFF' then chars.drop 1 else chars
  (statements? chars.length chars).bind ofStatements?

end Waymark.Toml
