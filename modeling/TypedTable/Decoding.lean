import TypedTable.Json
import TypedTable.Text.Escape

namespace TypedTable

-- What a member of a record can be read from.
inductive Wanted where
  | string
  | int32
  | int64
  | word64
  | byte
  | double
  | boolean
  | sequence
  | dateTime
  | guid
  | record
deriving DecidableEq

def Wanted.text : Wanted → String
  | .string => "a string"
  | .int32 => "i32"
  | .int64 => "i64"
  | .word64 => "u64"
  | .byte => "u8"
  | .double => "f64"
  | .boolean => "a boolean"
  | .sequence => "a sequence"
  | .dateTime => "an RFC 3339 formatted date and time string"
  | .guid => "a formatted UUID string"
  | .record => "a record"

-- Why a serialized form is no record.
inductive DecodeError where
  | wrongKind (found : Json) (wanted : Wanted)
  | outOfRange (n : Int) (wanted : Wanted)
  -- A text that is no instant or no GUID.
  | rejected
  | missing (member : String)

namespace DecodeError

def describe : Json → String
  | .null => "null"
  | .boolean b => "boolean " ++ ticked (if b then "true" else "false")
  | .integer n => "integer " ++ ticked (Numeral.ofInt n)
  | .double x => "floating point " ++ ticked (Double.Layout.serialized.write x)
  | .string text => "string " ++ Text.quoted text
  | .list _ => "sequence"
  | .object _ => "map"
where
  ticked (text : String) : String := "`" ++ text ++ "`"

def message : DecodeError → String
  | .wrongKind found wanted => "invalid type: " ++ describe found ++ ", expected " ++ wanted.text
  | .outOfRange n wanted =>
    "invalid value: integer `" ++ Numeral.ofInt n ++ "`, expected " ++ wanted.text
  | .rejected => "<text rejected>"
  | .missing member => "missing field `" ++ member ++ "`"

end DecodeError
end TypedTable
