import TypedTable.Bag
import TypedTable.Storage.Refusal

namespace TypedTable

-- What the table writes into every row that it stores.
structure Stamp where
  time : Instant
  etag : String
deriving DecidableEq

-- The rows of one table: partitions by partition key, rows by row key. A
-- partition may be empty. The count is kept, not computed.
structure Storage where
  partitions : Std.ExtTreeMap String (Std.ExtTreeMap String Bag) := ∅
  count : Nat := 0

namespace Storage

-- The ETag that stands for every version of a row.
def anyEtag : String := "*"

def key (row : Bag) (column : String) : Except Refusal String :=
  match row.string? column with
  | some key => .ok key
  | none => .error (.missingKey column)

-- Partition key and row key, both strings; the partition key is looked at
-- first.
def keys (row : Bag) : Except Refusal (String × String) := do
  let partition ← key row Column.partitionKey
  return (partition, ← key row Column.rowKey)

def get? (s : Storage) (partition row : String) : Option Bag :=
  s.partitions[partition]?.bind (·[row]?)

-- Stores a row under its keys, whatever was there.
def put (s : Storage) (partition row : String) (bag : Bag) : Storage :=
  let rows := (s.partitions[partition]?).getD ∅
  { partitions := s.partitions.insert partition (rows.insert row bag)
    count := if rows.contains row then s.count else s.count + 1 }

-- Removes the row and keeps its partition.
def remove (s : Storage) (partition row : String) : Storage :=
  { partitions := s.partitions.modify partition (·.erase row), count := s.count - 1 }

def stamped (stamp : Stamp) (row : Bag) : Bag :=
  (row.insert Column.timestamp (.dateTime stamp.time)).insert Column.etag (.string stamp.etag)

-- Whether a request's ETag, if it is a string, is * or that of the stored row.
def etagAllows (request stored : Bag) : Bool :=
  (request.string? Column.etag).all fun etag =>
    etag == anyEtag || stored.string? Column.etag == some etag

-- The stored row under the keys of a request, if its ETag allows the request.
def current (s : Storage) (request : Bag) (partition row : String) : Except Refusal Bag :=
  match s.get? partition row with
  | none => .error (.notFound partition row)
  | some stored =>
    if etagAllows request stored then .ok stored
    else
      .error (.preconditionFailed partition row ((request.string? Column.etag).getD ""))

-- Every operation answers with a row and the storage afterwards: the row
-- stored, or for a deletion the row removed.

def insert (s : Storage) (stamp : Stamp) (row : Bag) : Except Refusal (Bag × Storage) := do
  let (p, r) ← keys row
  match s.get? p r with
  | some _ => .error (.conflict p r)
  | none => return (stamped stamp row, s.put p r (stamped stamp row))

def replace (s : Storage) (stamp : Stamp) (row : Bag) : Except Refusal (Bag × Storage) := do
  let (p, r) ← keys row
  let _ ← s.current row p r
  return (stamped stamp row, s.put p r (stamped stamp row))

-- Never looks at the ETag.
def upsert (s : Storage) (stamp : Stamp) (row : Bag) : Except Refusal (Bag × Storage) := do
  let (p, r) ← keys row
  return (stamped stamp row, s.put p r (stamped stamp row))

def delete (s : Storage) (row : Bag) : Except Refusal (Bag × Storage) := do
  let (p, r) ← keys row
  let stored ← s.current row p r
  return (stored, s.remove p r)

def write (s : Storage) (kind : WriteKind) (stamp : Stamp) (row : Bag) :
    Except Refusal (Bag × Storage) :=
  match kind with
  | .insert => s.insert stamp row
  | .replace => s.replace stamp row
  | .insertOrReplace => s.upsert stamp row
  | .delete => s.delete row

end Storage
end TypedTable
