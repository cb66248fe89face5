namespace TypedTable

-- A day of the proleptic Gregorian calendar; the year before 1 is 0.
structure Date where
  year : Int
  month : Nat
  day : Nat
deriving DecidableEq

namespace Date

-- Years begin in March here, so that the leap day is the last day of its year.
-- Then 400 years have 146097 days, a century 36524, four years 1461, and each
-- last century, year of four and month takes the day that is left over.
def daysBeforeYear (year : Nat) : Nat := 365 * year + year / 4 - year / 100

def daysBeforeMonth (month : Nat) : Nat := (153 * month + 2) / 5

-- Days since 1970-01-01.
def toDays (d : Date) : Int :=
  let year := if d.month ≤ 2 then d.year - 1 else d.year
  let month := if d.month ≤ 2 then d.month + 9 else d.month - 3
  year / 400 * 146097 + daysBeforeYear (year % 400).toNat + daysBeforeMonth month
    + ((d.day : Int) - 1) - 719468

def ofDays (days : Int) : Date :=
  let shifted := days + 719468
  let ofEra := (shifted % 146097).toNat
  let century := min 3 (ofEra / 36524)
  let ofCentury := ofEra - 36524 * century
  let four := ofCentury / 1461
  let ofFour := ofCentury - 1461 * four
  let single := min 3 (ofFour / 365)
  let ofYear := ofFour - 365 * single
  let month := (5 * ofYear + 2) / 153
  let day := ofYear - daysBeforeMonth month + 1
  let year := shifted / 146097 * 400 + (100 * century + 4 * four + single : Nat)
  if month < 10 then ⟨year, month + 3, day⟩ else ⟨year + 1, month - 9, day⟩

-- A day exists when counting its days and back gives it again: this refuses
-- the thirteenth month, the thirty-first of April and most 29ths of February.
def exists? (d : Date) : Bool := ofDays d.toDays == d

end Date
end TypedTable
