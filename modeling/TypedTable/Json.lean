import TypedTable.Double.Shortest

namespace TypedTable

-- The serialized form of records. Integers and doubles are told apart, and
-- the doubles in it are finite.
inductive Json where
  | null
  | boolean (b : Bool)
  | integer (n : Int)
  | double (x : Double)
  | string (text : String)
  | list (items : List Json)
  | object (members : List (String × Json))

namespace Json

def escapeChar (c : Char) : List Char :=
  if c = '"' ∨ c = '\\' then ['\\', c]
  else if c = '\n' then ['\\', 'n']
  else if c = '\r' then ['\\', 'r']
  else if c = '\t' then ['\\', 't']
  else if c = '\x08' then ['\\', 'b']
  else if c = '\x0c' then ['\\', 'f']
  else if c.toNat < 32 then
    let digits := Nat.toDigits 16 c.toNat
    ['\\', 'u'] ++ List.replicate (4 - digits.length) '0' ++ digits
  else [c]

def quoted (text : String) : String :=
  "\"" ++ String.ofList (text.toList.flatMap escapeChar) ++ "\""

mutual

def text : Json → String
  | .null => "null"
  | .boolean true => "true"
  | .boolean false => "false"
  | .integer n => Numeral.ofInt n
  | .double x => Double.Layout.serialized.write x
  | .string text => quoted text
  | .list items => "[" ++ String.intercalate "," (texts items) ++ "]"
  | .object members => "\x7b" ++ String.intercalate "," (memberTexts members) ++ "\x7d"

def texts : List Json → List String
  | [] => []
  | item :: rest => item.text :: texts rest

def memberTexts : List (String × Json) → List String
  | [] => []
  | (name, item) :: rest => (quoted name ++ ":" ++ item.text) :: memberTexts rest

end

end Json
end TypedTable
