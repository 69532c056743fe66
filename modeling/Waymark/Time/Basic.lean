import Waymark.Text.Decimal

/-! Moments of coordinated universal time, kept as calendar fields. A leap second is the sixtieth
second of its minute and stays one.
-/

set_option autoImplicit false

namespace Waymark

def isLeapYear (year : Int) : Bool :=
  year % 4 == 0 && (year % 100 != 0 || year % 400 == 0)

def daysInMonth (year : Int) (month : Nat) : Nat :=
  if month = 2 then if isLeapYear year then 29 else 28
  else if month = 4 || month = 6 || month = 9 || month = 11 then 30
  else 31

/-- The calendar covers a little more than a quarter of a million years to both sides. -/
def isDate (year : Int) (month day : Nat) : Bool :=
  -262143 ≤ year && year ≤ 262142 && 1 ≤ month && month ≤ 12 && 1 ≤ day &&
    day ≤ daysInMonth year month

structure Date where
  year : Int
  month : Nat
  day : Nat
  valid : isDate year month day = true
  deriving DecidableEq

namespace Date

def of? (year : Int) (month day : Nat) : Option Date :=
  if h : isDate year month day = true then some ⟨year, month, day, h⟩ else none

def next? (d : Date) : Option Date :=
  of? d.year d.month (d.day + 1) <|> of? d.year (d.month + 1) 1 <|> of? (d.year + 1) 1 1

def previous? (d : Date) : Option Date :=
  if 1 < d.day then of? d.year d.month (d.day - 1)
  else if 1 < d.month then of? d.year (d.month - 1) (daysInMonth d.year (d.month - 1))
  else of? (d.year - 1) 12 31

/-- The day `1` later, `-1` earlier, or the day itself. -/
def shift? (d : Date) (days : Int) : Option Date :=
  if days = 0 then some d else if 0 < days then d.next? else d.previous?

end Date

structure Time where
  date : Date
  hour : Fin 24
  minute : Fin 60
  second : Fin 61
  nanosecond : Fin 1000000000
  deriving DecidableEq

namespace Time

def epoch : Time := ⟨⟨1970, 1, 1, rfl⟩, 0, 0, 0, 0⟩

instance : Inhabited Time := ⟨epoch⟩

def ofFields? (date : Date) (hour minute second nanosecond : Nat) : Option Time :=
  if h : hour < 24 ∧ minute < 60 ∧ second < 61 ∧ nanosecond < 1000000000 then
    some ⟨date, ⟨hour, h.1⟩, ⟨minute, h.2.1⟩, ⟨second, h.2.2.1⟩, ⟨nanosecond, h.2.2.2⟩⟩
  else none

/-- The moment that a clock shows which is ahead by the given minutes, less than a day. -/
def behind? (t : Time) (minutes : Int) : Option Time :=
  let total : Int := t.hour.val * 60 + t.minute.val - minutes
  let ofDay := (total % 1440).toNat
  (t.date.shift? (total / 1440)).bind fun date =>
    ofFields? date (ofDay / 60) (ofDay % 60) t.second t.nanosecond

/-- Four digits; a year that needs more or lies before year zero has a sign. -/
def yearText (year : Int) : List Char :=
  let digits := Text.Decimal.writePadded 4 year.natAbs
  if 0 ≤ year && year ≤ 9999 then digits else (if year < 0 then '-' else '+') :: digits

def twoDigits (n : Nat) : List Char := Text.Decimal.writePadded 2 n

/-- The fewest of 0, 3, 6 or 9 digits that lose nothing. -/
def fractionText (nanosecond : Nat) : List Char :=
  if nanosecond = 0 then []
  else if nanosecond % 1000000 = 0 then '.' :: Text.Decimal.writePadded 3 (nanosecond / 1000000)
  else if nanosecond % 1000 = 0 then '.' :: Text.Decimal.writePadded 6 (nanosecond / 1000)
  else '.' :: Text.Decimal.writePadded 9 nanosecond

def dateText (t : Time) (gap : List Char) : List Char :=
  yearText t.date.year ++ gap ++ twoDigits t.date.month ++ gap ++ twoDigits t.date.day

def clockText (t : Time) (gap : List Char) : List Char :=
  twoDigits t.hour ++ gap ++ twoDigits t.minute ++ gap ++ twoDigits t.second

/-- The form of times in documents, as in `2026-03-01T12:00:00.5Z`. -/
def text (t : Time) : List Char :=
  t.dateText ['-'] ++ 'T' :: t.clockText [':'] ++ fractionText t.nanosecond ++ ['Z']

def toText (t : Time) : String := String.ofList t.text

/-- The form of times in headings, as in `2026-03-01 12:00:00`. -/
def heading (t : Time) : List Char := t.dateText ['-'] ++ ' ' :: t.clockText [':']

/-- The form of times in file names, as in `20260301_120000`. -/
def stamp (t : Time) : List Char := t.dateText [] ++ '_' :: t.clockText []

end Time

end Waymark
