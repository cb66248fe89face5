import TypedTable.Text.EscapeTable

namespace TypedTable
namespace Text

-- Characters that a reader of the page could not make out: they show nothing,
-- merge with their neighbour, or have no settled form.
def isHidden (c : Char) : Bool := extendingMarks.has c || ignorable.has c || unprintable.has c

-- How a character is shown inside double quotes.
def escapeChar (c : Char) : List Char :=
  if c = '\x00' then ['\\', '0']
  else if c = '\t' then ['\\', 't']
  else if c = '\r' then ['\\', 'r']
  else if c = '\n' then ['\\', 'n']
  else if c = '"' ∨ c = '\\' then ['\\', c]
  else if isHidden c then
    ['\\', 'u', '\x7b'] ++ Nat.toDigits 16 c.toNat ++ ['\x7d']
  else [c]

def quoted (text : String) : String :=
  String.ofList (['"'] ++ text.toList.flatMap escapeChar ++ ['"'])

end Text
end TypedTable
