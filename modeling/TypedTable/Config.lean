import TypedTable.Numeral

namespace TypedTable

-- How a table pages, how many rows a query may ask for, and whether filters
-- are logged.
structure Config where
  pageSize : Nat := 1000
  maxTake : Option Nat := none
  logFilters : Bool := true
deriving DecidableEq

namespace Config

-- A row count as text: below 2^32.
def count? (text : String) : Option Nat := (Numeral.nat? text.toList).filter (· < 2 ^ 32)

-- Reads the three settings; what is unset or makes no sense keeps its default.
-- A page size of zero makes no sense.
def ofSettings (pageSize maxTake logFilters : Option String) : Config where
  pageSize := ((pageSize.bind count?).filter (0 < ·)).getD 1000
  maxTake := maxTake.bind count?
  logFilters := logFilters.all (· ∈ ["1", "true", "yes", "TRUE", "YES"])

end Config
end TypedTable
