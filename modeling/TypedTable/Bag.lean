import Std.Data.ExtTreeMap
import TypedTable.Value

namespace TypedTable

-- A row: the columns it holds, by name.
abbrev Bag := Std.ExtTreeMap String Value

namespace Column

def partitionKey : String := "PartitionKey"
def rowKey : String := "RowKey"
def timestamp : String := "Timestamp"
def etag : String := "ETag"

-- The four columns that the table itself gives a meaning.
def isReserved (name : String) : Bool :=
  name == partitionKey || name == rowKey || name == timestamp || name == etag

end Column

namespace Bag

def string? (row : Bag) (column : String) : Option String := row[column]?.bind Value.string?

end Bag

-- What a write does with the row under its keys.
inductive WriteKind where
  | insert
  | replace
  | insertOrReplace
  | delete
deriving DecidableEq

def WriteKind.all : List WriteKind := [.insert, .replace, .insertOrReplace, .delete]

def WriteKind.name : WriteKind → String
  | .insert => "Insert"
  | .replace => "Replace"
  | .insertOrReplace => "InsertOrReplace"
  | .delete => "Delete"

end TypedTable
