import TypedTable.Double.Shortest
import TypedTable.Hex
import TypedTable.Instant.Text
import TypedTable.Text.Quote
import TypedTable.Value

namespace TypedTable
namespace Value

-- The words of the filter language.
def booleanText (b : Bool) : String := if b then "true" else "false"

-- Plain text; it does not tell the kinds apart.
def text : Value → String
  | .string text => text
  | .int32 n => Numeral.ofInt n.toInt
  | .int64 n => Numeral.ofInt n.toInt
  | .double x => Double.Layout.plain.write x
  | .boolean b => booleanText b
  | .binary bytes => String.ofList (Hex.encode bytes)
  | .dateTime t => t.fixedText
  | .guid g => g.text

-- The literal of the filter language; every kind has a form of its own. NaN
-- and the infinities get a text too, but the language has none for them.
def literal : Value → String
  | .string text => "'" ++ String.ofList (Text.doubleQuotes text.toList) ++ "'"
  | .int32 n => Numeral.ofInt n.toInt
  | .int64 n => Numeral.ofInt n.toInt ++ "L"
  | .double x => Double.Layout.literal.write x
  | .boolean b => booleanText b
  | .binary bytes => "X'" ++ String.ofList (Hex.encode bytes) ++ "'"
  | .dateTime t => "datetime'" ++ t.fixedText ++ "'"
  | .guid g => "guid'" ++ g.text ++ "'"

end Value
end TypedTable
