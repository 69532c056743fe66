import Waymark.Json.Basic
import Waymark.Text.Shortest

/-! JSON text as documents are stored: two spaces per level, one member or item per line, characters
outside ASCII as they are.
-/

set_option autoImplicit false

namespace Waymark.Json

def hexDigit (n : Nat) : Char :=
  if n < 10 then Text.Decimal.digit n else Char.ofNat (0x61 + (n - 10))

def escape (c : Char) : List Char :=
  match c with
  | '"' => ['\\', '"']
  | '\\' => ['\\', '\\']
  | '\x08' => ['\\', 'b']
  | '\x0c' => ['\\', 'f']
  | '\n' => ['\\', 'n']
  | '\r' => ['\\', 'r']
  | '\t' => ['\\', 't']
  | _ =>
    if c.toNat < 0x20 then ['\\', 'u', '0', '0', hexDigit (c.toNat / 16), hexDigit (c.toNat % 16)]
    else [c]

def quoted (text : String) : List Char :=
  '"' :: (text.toList.flatMap escape ++ ['"'])

/-- A positive decimal. Positional from `10 ^ -5` up to below `10 ^ 16`, always with a point. -/
def scaledText (s : Text.Shortest.Scaled) : List Char :=
  let digits := Text.Decimal.write s.digits
  let exponent := s.exponent + digits.length - 1
  if -5 ≤ exponent && exponent ≤ 15 then
    if exponent < 0 then '0' :: '.' :: (List.replicate (-exponent - 1).toNat '0' ++ digits)
    else
      let whole := exponent.toNat + 1
      if digits.length ≤ whole then digits ++ List.replicate (whole - digits.length) '0' ++ ['.', '0']
      else digits.take whole ++ '.' :: digits.drop whole
  else
    let mantissa := match digits with
      | first :: second :: rest => first :: '.' :: second :: rest
      | _ => digits
    let sign := if exponent < 0 then '-' else '+'
    mantissa ++ 'e' :: sign :: Text.Decimal.write exponent.natAbs

/-- The shortest decimal that reads back; what is no number is written as null. -/
def floatText (x : Float) : List Char :=
  let bits := x.toBits.toNat
  let magnitude := bits % (1 <<< 63)
  if magnitude >>> 52 = 2047 then "null".toList
  else
    let sign := if bits >>> 63 = 1 then ['-'] else []
    if magnitude = 0 then sign ++ ['0', '.', '0']
    else sign ++ scaledText (Text.Shortest.Binary.ofFloat x).shortest

def newline (level : Nat) : List Char := '\n' :: List.replicate (2 * level) ' '

mutual

def prettyAt (level : Nat) : Json → List Char
  | .null => "null".toList
  | .bool true => "true".toList
  | .bool false => "false".toList
  | .count n => n.text
  | .negative n => '-' :: Text.Decimal.write n
  | .float x => floatText x
  | .text s => quoted s
  | .list [] => ['[', ']']
  | .list (item :: items) =>
    '[' :: (newline (level + 1) ++ prettyAt (level + 1) item ++ prettyItems (level + 1) items ++
      newline level ++ [']'])
  | .object [] => ['{', '}']
  | .object ((key, value) :: members) =>
    '{' :: (newline (level + 1) ++ quoted key ++ ':' :: ' ' :: prettyAt (level + 1) value ++
      prettyMembers (level + 1) members ++ newline level ++ ['}'])

def prettyItems (level : Nat) : List Json → List Char
  | [] => []
  | item :: items => ',' :: (newline level ++ prettyAt level item ++ prettyItems level items)

def prettyMembers (level : Nat) : List (String × Json) → List Char
  | [] => []
  | (key, value) :: members =>
    ',' :: (newline level ++ quoted key ++ ':' :: ' ' :: prettyAt level value ++
      prettyMembers level members)

end

def pretty (json : Json) : List Char := prettyAt 0 json

def prettyText (json : Json) : String := String.ofList json.pretty

end Waymark.Json
