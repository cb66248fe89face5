import TypedTable.Date

namespace TypedTable

-- Seconds since 1970-01-01T00:00:00Z and nanoseconds within the second. A leap
-- second is second 60 of its minute: it shares the number of the second
-- before it and its nanoseconds start at 10^9.
structure Instant where
  seconds : Int
  nanos : Nat
  nanos_lt : nanos < 2000000000 := by decide
  leap : 1000000000 ≤ nanos → seconds % 60 = 59 := by decide
deriving DecidableEq

namespace Instant

def of? (seconds : Int) (nanos : Nat) : Option Instant :=
  if valid : nanos < 2000000000 ∧ (1000000000 ≤ nanos → seconds % 60 = 59) then
    some ⟨seconds, nanos, valid.1, valid.2⟩
  else none

def epoch : Instant := ⟨0, 0, by decide, by decide⟩

-- Chronological; a leap second comes after all of the second before it.
def order (a b : Instant) : Ordering := (compare a.seconds b.seconds).then (compare a.nanos b.nanos)

def isLeap (t : Instant) : Bool := 1000000000 ≤ t.nanos

def subsecond (t : Instant) : Nat := t.nanos % 1000000000

def date (t : Instant) : Date := .ofDays (t.seconds / 86400)

def secondOfDay (t : Instant) : Nat := (t.seconds % 86400).toNat

end Instant
end TypedTable
