import Waymark.Time.Basic

/-! Moments as clocks count them, in seconds since the start of 1970. Dates repeat after an era of four
hundred years. Years are counted from March on here, so that a leap day is the last day of its year.
-/

set_option autoImplicit false

namespace Waymark

namespace Date

def daysPerEra : Nat := 146097

/-- The days from the first of March of year zero to the start of 1970. -/
def daysToEpoch : Nat := 719468

def yearOfEra (day : Nat) : Nat := (day - day / 1460 + day / 36524 - day / 146096) / 365

def daysBeforeYear (year : Nat) : Nat := 365 * year + year / 4 - year / 100

def daysBeforeMonth (month : Nat) : Nat := (153 * month + 2) / 5

def ofDays? (days : Int) : Option Date :=
  let shifted := days + daysToEpoch
  let dayOfEra := (shifted % daysPerEra).toNat
  let year := yearOfEra dayOfEra
  let dayOfYear := dayOfEra - daysBeforeYear year
  let month := (5 * dayOfYear + 2) / 153
  let firstOfYear := shifted / daysPerEra * 400 + year
  let day := dayOfYear - daysBeforeMonth month + 1
  if month < 10 then of? firstOfYear (month + 3) day else of? (firstOfYear + 1) (month - 9) day

end Date

namespace Time

def ofEpoch? (seconds : Int) (nanosecond : Nat) : Option Time :=
  let ofDay := (seconds % 86400).toNat
  (Date.ofDays? (seconds / 86400)).bind fun date =>
    ofFields? date (ofDay / 3600) (ofDay / 60 % 60) (ofDay % 60) nanosecond

end Time

end Waymark
