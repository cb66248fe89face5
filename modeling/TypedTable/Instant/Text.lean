import TypedTable.Instant
import TypedTable.Numeral

namespace TypedTable
namespace Instant

-- Four digits; years outside 0..9999 carry their sign and all their digits.
def yearText (year : Int) : String :=
  if 0 ≤ year ∧ year ≤ 9999 then Numeral.padded 4 year.natAbs
  else (if year < 0 then "-" else "+") ++ Numeral.padded 4 year.natAbs

def dateText (d : Date) : String :=
  yearText d.year ++ "-" ++ Numeral.padded 2 d.month ++ "-" ++ Numeral.padded 2 d.day

-- Hours, minutes and seconds; a leap second is written as second 60.
def clockText (t : Instant) : String :=
  let second := t.secondOfDay % 60 + if t.isLeap then 1 else 0
  Numeral.padded 2 (t.secondOfDay / 3600) ++ ":" ++ Numeral.padded 2 (t.secondOfDay / 60 % 60) ++
    ":" ++ Numeral.padded 2 second

-- The form of filter literals: hundreds of nanoseconds, padded to seven
-- digits. Counted from the start of the numbered second they reach eight
-- digits in a leap second.
def fixedText (t : Instant) : String :=
  dateText t.date ++ "T" ++ t.clockText ++ "." ++ Numeral.padded 7 (t.nanos / 100) ++ "Z"

-- No fraction, or the fewest of 3, 6 and 9 digits that are exact.
def fractionText (nanos : Nat) : String :=
  if nanos = 0 then ""
  else if nanos % 1000000 = 0 then "." ++ Numeral.padded 3 (nanos / 1000000)
  else if nanos % 1000 = 0 then "." ++ Numeral.padded 6 (nanos / 1000)
  else "." ++ Numeral.padded 9 nanos

-- RFC 3339 with the given spelling of the zero offset.
def text (offset : String) (t : Instant) : String :=
  dateText t.date ++ "T" ++ t.clockText ++ fractionText t.subsecond ++ offset

end Instant
end TypedTable
