import Waymark.Time.Basic
import Waymark.Text.Blank

/-! Reading times. Documents admit a relaxed notation with blanks and short fields; older documents
use a strict notation with a zone, or one without a zone that means universal time.
-/

set_option autoImplicit false

namespace Waymark.Time

/-- A reader that takes characters from the front of a text or fails. -/
abbrev Scan := StateT (List Char) Option

namespace Scan

def blanks : Scan Unit := modify Text.trimStart

def literal (c : Char) : Scan Unit := fun
  | first :: rest => if first = c then some ((), rest) else none
  | [] => none

/-- A number of at least `least` digits; reading stops after `most`. -/
def number (least : Nat) (most : Option Nat) : Scan Nat := fun chars =>
  let digits := (most.elim chars (chars.take ·)).takeWhile Char.isDigit
  if digits.length < least then none
  else some (Text.Decimal.value digits, chars.drop digits.length)

/-- Up to nine digits of a fraction, as billionths; further digits are dropped. -/
def billionths : Scan Nat := fun chars =>
  let digits := (chars.take 9).takeWhile Char.isDigit
  if digits.isEmpty then none
  else some (Text.Decimal.value digits * Nat.pow 10 (9 - digits.length), chars.dropWhile Char.isDigit)

def fraction : Scan Nat := do
  match ← get with
  | '.' :: rest => set rest; billionths
  | _ => return 0

/-- A year; only one with a sign may have more digits than `most`. -/
def year (least : Nat) (most : Option Nat) : Scan Int := do
  match ← get with
  | '-' :: rest => set rest; return -(← number least none)
  | '+' :: rest => set rest; return ← number least none
  | _ => return ← number least most

/-- Two digits from 00 up to below `limit`. -/
def twoDigits (limit : Nat) : Scan Nat := do
  let n ← number 2 (some 2)
  if n < limit then return n else failure

/-- The minutes by which a zone is ahead; `gap` separates hours from minutes. -/
def offset (gap : Scan Unit) : Scan Int := do
  match ← get with
  | 'Z' :: rest | 'z' :: rest => set rest; return 0
  | '+' :: rest => set rest; return ← magnitude
  | '-' :: rest | '−' :: rest => set rest; return -(← magnitude)
  | _ => failure
where
  magnitude : Scan Int := do
    let hours ← twoDigits 24
    gap
    return (hours * 60 + (← twoDigits 60) : Nat)

def looseGap : Scan Unit := modify fun chars =>
  chars.dropWhile fun c => c == ':' || Text.isBlank c

end Scan

/-- The fields of a written time before they are checked against each other. -/
structure Written where
  year : Int
  month : Nat
  day : Nat
  hour : Nat
  minute : Nat
  second : Nat
  nanosecond : Nat

def Written.time? (w : Written) : Option Time := do
  ofFields? (← Date.of? w.year w.month w.day) w.hour w.minute w.second w.nanosecond

def atEnd {α : Type} : α × List Char → Option α
  | (value, []) => some value
  | _ => none

namespace Relaxed

def field : Scan Nat := do
  Scan.blanks
  Scan.number 1 (some 2)

def fieldAfter (separator : Char) : Scan Nat := do
  Scan.blanks
  Scan.literal separator
  field

/-- Date and clock are separated by a T of either case or by a blank. -/
def separator : Scan Unit := fun
  | 'T' :: rest | 't' :: rest => some ((), rest)
  | c :: rest => if Text.isBlank c then some ((), rest) else none
  | [] => none

def zone : Scan Int := do
  match ← get with
  | u :: t :: c :: rest =>
    if [u, t, c].map Char.toUpper = ['U', 'T', 'C'] then
      set rest
      return 0
    else Scan.offset Scan.looseGap
  | _ => Scan.offset Scan.looseGap

def scan : Scan (Written × Int) := do
  Scan.blanks
  let year ← Scan.year 1 (some 4)
  let month ← fieldAfter '-'
  let day ← fieldAfter '-'
  separator
  let hour ← field
  let minute ← fieldAfter ':'
  let second ← fieldAfter ':'
  let nanosecond ← Scan.fraction
  Scan.blanks
  let minutes ← zone
  Scan.blanks
  return (⟨year, month, day, hour, minute, second, nanosecond⟩, minutes)

end Relaxed

def read? (text : List Char) : Option Time := do
  let (written, minutes) ← atEnd (← Relaxed.scan text)
  (← written.time?).behind? minutes

namespace Strict

def field (separator : Char) : Scan Nat := do
  Scan.literal separator
  Scan.number 2 (some 2)

def separator : Scan Unit := fun
  | 'T' :: rest | 't' :: rest | ' ' :: rest => some ((), rest)
  | _ => none

def scan : Scan (Written × Int) := do
  let year ← Scan.year 4 (some 4)
  let month ← field '-'
  let day ← field '-'
  separator
  let hour ← Scan.number 2 (some 2)
  let minute ← field ':'
  let second ← field ':'
  let nanosecond ← Scan.fraction
  let minutes ← Scan.offset (Scan.literal ':')
  return (⟨year, month, day, hour, minute, second, nanosecond⟩, minutes)

/-- Reads a time with full-width fields and a zone. -/
def read? (text : List Char) : Option Time := do
  let (written, minutes) ← atEnd (← scan text)
  (← written.time?).behind? minutes

end Strict

namespace Zoneless

def field (separator : Char) : Scan Nat := do
  Scan.literal separator
  Relaxed.field

def scan : Scan Written := do
  Scan.blanks
  let year ← Scan.year 1 (some 4)
  let month ← field '-'
  let day ← field '-'
  let hour ← field 'T'
  let minute ← field ':'
  let second ← field ':'
  return ⟨year, month, day, hour, minute, second, ← Scan.fraction⟩

/-- Reads a time without a zone. -/
def read? (text : List Char) : Option Time := do
  (← atEnd (← scan text)).time?

end Zoneless

/-- Reads a time of an older document. What cannot be read is the epoch. -/
def readLegacy (text : List Char) : Time :=
  let text := Text.trim text
  match Strict.read? text with
  | some t => t
  | none => (Zoneless.read? (Text.dropWhileEnd (· == 'Z') text)).getD epoch

end Waymark.Time
