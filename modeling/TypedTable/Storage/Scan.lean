import TypedTable.Filter
import TypedTable.Segment
import TypedTable.Storage

namespace TypedTable

-- Whether a row is not before the position.
def Position.reaches (start : Position) (partition row : String) : Bool :=
  start.partition < partition || (start.partition == partition && start.row ≤ row)

namespace Storage

-- All rows with their positions, by partition key and then row key.
def rows (s : Storage) : List (Position × Bag) :=
  s.partitions.toList.flatMap fun (partition, rows) =>
    rows.toList.map fun (row, bag) => (⟨partition, row⟩, bag)

-- The rows from a position on.
def rowsFrom (s : Storage) (start : Option Position) : List (Position × Bag) :=
  s.rows.filter fun (position, _) => start.all (·.reaches position.partition position.row)

-- The first rows that the filter accepts, up to the limit. When there are as
-- many as that, the next row, accepted or not, is where the scan goes on.
def segment (filter : Option Filter) : Nat → List (Position × Bag) → Segment
  | _, [] => ⟨[], none⟩
  | 0, (position, _) :: _ => ⟨[], some position⟩
  | limit + 1, (_, bag) :: rest =>
    if filter.all (·.accepts bag) then
      let more := segment filter limit rest
      ⟨bag :: more.rows, more.next⟩
    else segment filter (limit + 1) rest

def scan (s : Storage) (filter : Option Filter) (limit : Nat) (start : Option Position) : Segment :=
  segment filter limit (s.rowsFrom start)

end Storage
end TypedTable
