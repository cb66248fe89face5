import TypedTable.Bag

namespace TypedTable

-- Where a scan goes on: the keys of a row, which need not be stored.
structure Position where
  partition : String
  row : String
deriving DecidableEq

-- A part of the result of a scan; no position when the scan is complete.
structure Segment where
  rows : List Bag
  next : Option Position
deriving DecidableEq

-- What a scan is asked for: the text of a filter and a limit.
structure Request where
  filter : Option String := none
  take : Option Nat := none
deriving DecidableEq

end TypedTable
