import TypedTable.Double
import TypedTable.Instant
import TypedTable.Guid

namespace TypedTable

-- The kinds of values that a column can hold.
inductive Kind where
  | string
  | int32
  | int64
  | double
  | boolean
  | binary
  | dateTime
  | guid
deriving DecidableEq

namespace Kind

def all : List Kind := [.string, .int32, .int64, .double, .boolean, .binary, .dateTime, .guid]

def name : Kind → String
  | .string => "String"
  | .int32 => "Int32"
  | .int64 => "Int64"
  | .double => "Double"
  | .boolean => "Boolean"
  | .binary => "Binary"
  | .dateTime => "DateTime"
  | .guid => "Guid"

-- The name in the entity data model.
def modelName (kind : Kind) : String := "Edm." ++ kind.name

end Kind

-- What one column of one row holds.
inductive Value where
  | string (text : String)
  | int32 (n : Int32)
  | int64 (n : Int64)
  | double (x : Double)
  | boolean (b : Bool)
  | binary (bytes : List UInt8)
  | dateTime (t : Instant)
  | guid (g : Guid)
deriving DecidableEq

namespace Value

def kind : Value → Kind
  | .string _ => .string
  | .int32 _ => .int32
  | .int64 _ => .int64
  | .double _ => .double
  | .boolean _ => .boolean
  | .binary _ => .binary
  | .dateTime _ => .dateTime
  | .guid _ => .guid

def string? : Value → Option String
  | .string text => some text
  | _ => none

def boolean? : Value → Option Bool
  | .boolean b => some b
  | _ => none

-- Integers of both widths.
def integer? : Value → Option Int
  | .int32 n => some n.toInt
  | .int64 n => some n.toInt
  | _ => none

-- Numbers of all kinds. A large Int64 is rounded to the nearest double.
def double? : Value → Option Double
  | .int32 n => some (.ofInt n.toInt)
  | .int64 n => some (.ofInt n.toInt)
  | .double x => some x
  | _ => none

-- Strings by code points, which is the order of their UTF-8 bytes; bytes as
-- unsigned numbers; false before true. Two integers compare exactly, a double
-- compares with any number as doubles do. All other pairs are incomparable.
def compare? (a b : Value) : Option Ordering :=
  match a, b with
  | .string a, .string b => some (compare a b)
  | .boolean a, .boolean b => some (compare a b)
  | .binary a, .binary b => some (compare a b)
  | .dateTime a, .dateTime b => some (a.order b)
  | .guid a, .guid b => some (a.order b)
  | .double a, b => b.double?.bind a.compare?
  | a, .double b => a.double?.bind (·.compare? b)
  | a, b => a.integer?.bind fun m => b.integer?.map (compare m)

-- Same kind and same content; doubles as numbers, so that 0 is -0 and NaN is
-- nothing.
def same : Value → Value → Bool
  | .double a, .double b => a.same b
  | a, b => a == b

end Value
end TypedTable
