import Waymark.Json.Number

/-! Tokens of a JSON text. A number out of range and a string with an unpaired surrogate are
well-formed tokens without a value, because a member that nobody asks for may hold them.
-/

set_option autoImplicit false

namespace Waymark.Json

inductive Token where
  | openList
  | closeList
  | openObject
  | closeObject
  | comma
  | colon
  | scalar (value : Option Json)
  | text (value : Option String)

namespace Token

def hexValue? (c : Char) : Option Nat :=
  if '0' ≤ c && c ≤ '9' then some (c.toNat - 0x30)
  else if 'a' ≤ c && c ≤ 'f' then some (c.toNat - 0x61 + 10)
  else if 'A' ≤ c && c ≤ 'F' then some (c.toNat - 0x41 + 10)
  else none

def unit? (a b c d : Char) : Option Nat := do
  return (((← hexValue? a) * 16 + (← hexValue? b)) * 16 + (← hexValue? c)) * 16 + (← hexValue? d)

def isHighSurrogate (unit : Nat) : Bool := 0xD800 ≤ unit && unit ≤ 0xDBFF

def isLowSurrogate (unit : Nat) : Bool := 0xDC00 ≤ unit && unit ≤ 0xDFFF

def escaped? : Char → Option Char
  | '"' => some '"'
  | '\\' => some '\\'
  | '/' => some '/'
  | 'b' => some '\x08'
  | 'f' => some '\x0c'
  | 'n' => some '\n'
  | 'r' => some '\r'
  | 't' => some '\t'
  | _ => none

structure Gathered where
  /-- Characters in reverse order. -/
  reversed : List Char
  /-- A high surrogate that waits for its other half. -/
  high : Option Nat
  /-- All surrogates so far are paired. -/
  sound : Bool

namespace Gathered

def empty : Gathered := ⟨[], none, true⟩

/-- Appends a character; a surrogate that waits in front of it has no other half. -/
def push (g : Gathered) (c : Char) : Gathered :=
  ⟨c :: g.reversed, none, g.sound && g.high.isNone⟩

def pushUnit (g : Gathered) (unit : Nat) : Gathered :=
  if isHighSurrogate unit then ⟨g.reversed, some unit, g.sound && g.high.isNone⟩
  else if isLowSurrogate unit then
    match g.high with
    | some high => ⟨Char.ofNat (0x10000 + (high - 0xD800) * 0x400 + (unit - 0xDC00)) :: g.reversed, none, g.sound⟩
    | none => { g with sound := false }
  else g.push (Char.ofNat unit)

def text? (g : Gathered) : Option String :=
  if g.sound && g.high.isNone then some (String.ofList g.reversed.reverse) else none

end Gathered

def scanText (g : Gathered) : List Char → Option (Token × List Char)
  | '"' :: rest => some (.text g.text?, rest)
  | '\\' :: 'u' :: a :: b :: c :: d :: rest =>
    match unit? a b c d with
    | some unit => scanText (g.pushUnit unit) rest
    | none => none
  | '\\' :: c :: rest =>
    match escaped? c with
    | some plain => scanText (g.push plain) rest
    | none => none
  | c :: rest => if c.toNat < 0x20 then none else scanText (g.push c) rest
  | [] => none

def takeDigits (text : List Char) : List Char × List Char :=
  (text.takeWhile Char.isDigit, text.dropWhile Char.isDigit)

def scanFraction (text : List Char) : Option (Option (List Char) × List Char) :=
  match text with
  | '.' :: rest =>
    let (digits, rest) := takeDigits rest
    if digits.isEmpty then none else some (some digits, rest)
  | _ => some (none, text)

def scanPowerDigits (below : Bool) (text : List Char) :
    Option (Option (Bool × List Char) × List Char) :=
  let (digits, rest) := takeDigits text
  if digits.isEmpty then none else some (some (below, digits), rest)

def scanPower (text : List Char) : Option (Option (Bool × List Char) × List Char) :=
  match text with
  | c :: rest =>
    if c = 'e' || c = 'E' then
      match rest with
      | '+' :: rest => scanPowerDigits false rest
      | '-' :: rest => scanPowerDigits true rest
      | _ => scanPowerDigits false rest
    else some (none, text)
  | [] => some (none, text)

/-- Whole digits: a zero stands alone. -/
def scanWhole (text : List Char) : Option (List Char × List Char) :=
  match text with
  | '0' :: rest => some (['0'], rest)
  | _ =>
    let (digits, rest) := takeDigits text
    if digits.isEmpty then none else some (digits, rest)

def scanNumber (isNegative : Bool) (text : List Char) : Option (Token × List Char) := do
  let (whole, rest) ← scanWhole text
  let (fraction, rest) ← scanFraction rest
  let (power, rest) ← scanPower rest
  let numeral : Numeral := ⟨isNegative, whole, fraction.getD [], fraction.isSome, power⟩
  return (.scalar numeral.value, rest)

def scanOne : List Char → Option (Token × List Char)
  | '[' :: rest => some (.openList, rest)
  | ']' :: rest => some (.closeList, rest)
  | '{' :: rest => some (.openObject, rest)
  | '}' :: rest => some (.closeObject, rest)
  | ',' :: rest => some (.comma, rest)
  | ':' :: rest => some (.colon, rest)
  | '"' :: rest => scanText .empty rest
  | '-' :: rest => scanNumber true rest
  | 'n' :: 'u' :: 'l' :: 'l' :: rest => some (.scalar (some .null), rest)
  | 't' :: 'r' :: 'u' :: 'e' :: rest => some (.scalar (some (.bool true)), rest)
  | 'f' :: 'a' :: 'l' :: 's' :: 'e' :: rest => some (.scalar (some (.bool false)), rest)
  | chars => scanNumber false chars

def isSpace (c : Char) : Bool := c = ' ' || c = '\t' || c = '\n' || c = '\r'

/-- Reads tokens until the text ends; every token takes a character, so `steps` may be the length. -/
def scanWithin : Nat → List Char → Option (List Token)
  | steps, chars =>
    match steps, chars.dropWhile isSpace with
    | _, [] => some []
    | 0, _ :: _ => none
    | steps + 1, c :: rest =>
      match scanOne (c :: rest) with
      | none => none
      | some (token, rest) => (scanWithin steps rest).map (token :: ·)

def scan (text : List Char) : Option (List Token) := scanWithin text.length text

end Token

end Waymark.Json
