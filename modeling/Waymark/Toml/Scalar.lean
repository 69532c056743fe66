import Waymark.Text.Decimal
import Waymark.Time.Basic
import Waymark.Toml.Text

/-! Which words of a TOML document are numbers, truth values, dates and times. Their values are not
kept, only whether they are within bounds.
-/

set_option autoImplicit false

namespace Waymark.Toml.Scalar

def digits? (isDigit : Char → Bool) : List Char → Option (List Char)
  | [] => none
  | [c] => if isDigit c then some [c] else none
  | c :: '_' :: rest => if isDigit c then (digits? isDigit rest).map (c :: ·) else none
  | c :: rest => if isDigit c then (digits? isDigit rest).map (c :: ·) else none

def unsigned : List Char → List Char
  | '+' :: rest => rest
  | '-' :: rest => rest
  | word => word

def whole? (word : List Char) : Option (List Char) := do
  let digits ← digits? Char.isDigit word
  if digits.head? = some '0' && digits.length ≠ 1 then none else some digits

def ofBase? (base : Nat) (word : List Char) : Option Nat := do
  let isDigit (c : Char) : Bool := (Json.Token.hexValue? c).any (· < base)
  let digits ← digits? isDigit word
  return digits.foldl (fun total c => total * base + (Json.Token.hexValue? c).getD 0) 0

def isInteger : List Char → Bool
  | '0' :: 'x' :: rest => (ofBase? 16 rest).any (· < 1 <<< 63)
  | '0' :: 'o' :: rest => (ofBase? 8 rest).any (· < 1 <<< 63)
  | '0' :: 'b' :: rest => (ofBase? 2 rest).any (· < 1 <<< 63)
  | word =>
    let bound := if word.head? = some '-' then 1 <<< 63 else (1 <<< 63) - 1
    (whole? (unsigned word)).any fun digits => Text.Decimal.value digits ≤ bound

/-- Whether `digits · 10 ^ exponent` is nearer to infinity than to the greatest number of 64 bits. -/
def isHuge (digits : List Char) (exponent : Int) : Bool :=
  let digits := digits.dropWhile (· = '0')
  let size := digits.length + exponent
  if digits.isEmpty || size < 300 then false
  else if 320 < size then true
  else
    let limit := (1 <<< 1024) - (1 <<< 970)
    let value := Text.Decimal.value digits
    if 0 ≤ exponent then limit ≤ value * Nat.pow 10 exponent.toNat
    else limit * Nat.pow 10 exponent.natAbs ≤ value

def exponent? (word : List Char) : Option Int := do
  let value := Text.Decimal.value (← digits? Char.isDigit (unsigned word))
  return if word.head? = some '-' then -value else value

def isExponentLetter (c : Char) : Bool := c = 'e' || c = 'E'

/-- A number with a fraction or an exponent that does not round to positive infinity. -/
def isFloat (word : List Char) : Bool :=
  let body := unsigned word
  if body = "inf".toList || body = "nan".toList then true
  else
    let mantissa := body.takeWhile (!isExponentLetter ·)
    let power := (body.dropWhile (!isExponentLetter ·)).drop 1
    let hasPower := mantissa.length < body.length
    let front := mantissa.takeWhile (· != '.')
    let fraction := (mantissa.dropWhile (· != '.')).drop 1
    let hasFraction := front.length < mantissa.length
    let parts := do
      let front ← whole? front
      let fraction ← if hasFraction then digits? Char.isDigit fraction else some []
      let power ← if hasPower then exponent? power else some 0
      return (front ++ fraction, power - fraction.length)
    (hasFraction || hasPower) && parts.any fun (digits, exponent) =>
      word.head? = some '-' || !isHuge digits exponent

def isField (low high : Nat) (a b : Char) : Bool :=
  a.isDigit && b.isDigit &&
    low ≤ Text.Decimal.value [a, b] && Text.Decimal.value [a, b] ≤ high

def date? : List Char → Option (List Char)
  | y1 :: y2 :: y3 :: y4 :: '-' :: m1 :: m2 :: '-' :: d1 :: d2 :: rest =>
    let year := Text.Decimal.value [y1, y2, y3, y4]
    let month := Text.Decimal.value [m1, m2]
    if [y1, y2, y3, y4].all Char.isDigit && isField 1 12 m1 m2 &&
        isField 1 (daysInMonth year month) d1 d2 then some rest
    else none
  | _ => none

def fraction? : List Char → Option (List Char)
  | '.' :: rest =>
    if (rest.head?.any Char.isDigit) then some (rest.dropWhile Char.isDigit) else none
  | rest => some rest

def clock? : List Char → Option (List Char)
  | h1 :: h2 :: ':' :: m1 :: m2 :: ':' :: s1 :: s2 :: rest =>
    if isField 0 23 h1 h2 && isField 0 59 m1 m2 && isField 0 60 s1 s2 then fraction? rest else none
  | _ => none

def isOffset : List Char → Bool
  | [] => true
  | [z] => z = 'Z' || z = 'z'
  | [sign, h1, h2, ':', m1, m2] =>
    (sign = '+' || sign = '-') && isField 0 23 h1 h2 && isField 0 59 m1 m2
  | _ => false

def isOffsetClock (word : List Char) : Bool := (clock? word).any isOffset

def isTime (word : List Char) : Bool :=
  clock? word = some [] ||
    (date? word).any fun rest =>
      match rest with
      | [] => true
      | t :: rest => (t = 'T' || t = 't') && isOffsetClock rest

def isScalar (word : List Char) : Bool :=
  word = "true".toList || word = "false".toList || isInteger word || isFloat word || isTime word

def isWordChar (c : Char) : Bool :=
  c.isAlphanum || c = '+' || c = '-' || c = '_' || c = '.' || c = ':'

/-- What follows a scalar at the start of a text. A space may stand between a date and a time. -/
def skip? (text : List Char) : Option (List Char) :=
  let word := text.takeWhile isWordChar
  let rest := text.dropWhile isWordChar
  if isScalar word then
    match date? word, rest with
    | some [], ' ' :: later =>
      if isOffsetClock (later.takeWhile isWordChar) then some (later.dropWhile isWordChar)
      else some rest
    | _, _ => some rest
  else none

end Waymark.Toml.Scalar
