import TypedTable.Hex

namespace TypedTable

-- Sixteen bytes, in the order in which they are written.
structure Guid where
  bytes : List UInt8
  size : bytes.length = 16
deriving DecidableEq

namespace Guid

def ofBytes? (bytes : List UInt8) : Option Guid :=
  if size : bytes.length = 16 then some ⟨bytes, size⟩ else none

def nil : Guid := ⟨List.replicate 16 0, by decide⟩

def order (a b : Guid) : Ordering := compare a.bytes b.bytes

-- Hyphens after the eighth, twelfth, sixteenth and twentieth digit.
def hyphenate (digits : List Char) : List Char :=
  digits.take 8 ++ ['-'] ++ (digits.drop 8).take 4 ++ ['-'] ++ (digits.drop 12).take 4 ++ ['-'] ++
    (digits.drop 16).take 4 ++ ['-'] ++ digits.drop 20

def text (g : Guid) : String := String.ofList (hyphenate (Hex.encode g.bytes))

-- Removes the four hyphens, each at its place, from a text of 36 characters.
def unhyphenate? (text : List Char) : Option (List Char) :=
  if text.length = 36 ∧ text[8]? = some '-' ∧ text[13]? = some '-' ∧ text[18]? = some '-' ∧
      text[23]? = some '-' then
    some (text.take 8 ++ (text.drop 9).take 4 ++ (text.drop 14).take 4 ++ (text.drop 19).take 4 ++
      text.drop 24)
  else none

-- The hyphenated digits inside braces or behind urn:uuid: are unwrapped.
def unwrap (text : List Char) : List Char :=
  if text.length = 38 ∧ text.head? = some '\x7b' ∧ text.getLast? = some '\x7d' then
    (text.drop 1).take 36
  else if text.length = 45 ∧ (text.take 9).map Char.toLower = "urn:uuid:".toList then text.drop 9
  else text

-- Plain digits; or hyphenated digits, alone or wrapped.
def ofText? (text : String) : Option Guid := do
  let digits ← if text.toList.length = 32 then some text.toList else unhyphenate? (unwrap text.toList)
  ofBytes? (← Hex.decode? digits)

end Guid
end TypedTable
