import TypedTable.Bag

namespace TypedTable

-- A reserved column that a member of a record can stand for.
inductive Role where
  | partitionKey
  | rowKey
  | timestamp
  | etag
deriving DecidableEq

namespace Role

def all : List Role := [.partitionKey, .rowKey, .timestamp, .etag]

def column : Role → String
  | .partitionKey => Column.partitionKey
  | .rowKey => Column.rowKey
  | .timestamp => Column.timestamp
  | .etag => Column.etag

def kind : Role → Kind
  | .timestamp => .dateTime
  | _ => .string

end Role
end TypedTable
