import TypedTable.Text.CaseTable

namespace TypedTable
namespace Text

-- A character outside the tables is its own image.
def mapCase (ranges : List CaseRange) (sequences : List (Nat × List Nat)) (c : Char) : List Char :=
  match sequences.lookup c.toNat with
  | some codes => codes.map Char.ofNat
  | none =>
    match ranges.find? (·.has c.toNat) with
    | some range => [Char.ofNat (c.toNat + range.delta).toNat]
    | none => [c]

def upper (text : List Char) : List Char := text.flatMap (mapCase upperRanges upperSequences)

-- Whether a cased character comes next, not counting case-ignorable ones.
def meetsCased (text : List Char) : Bool :=
  match text.dropWhile caseIgnorable.has with
  | c :: _ => cased.has c
  | [] => false

-- A capital sigma that ends a word becomes the final small sigma: something
-- cased stands before it and nothing cased behind it. The first argument is
-- the text already read, last character first.
def lowerAfter (read : List Char) : List Char → List Char
  | [] => []
  | c :: rest =>
    let image :=
      if c = 'Σ' then [if meetsCased read && !meetsCased rest then 'ς' else 'σ']
      else mapCase lowerRanges lowerSequences c
    image ++ lowerAfter (c :: read) rest

def lower (text : List Char) : List Char := lowerAfter [] text

end Text
end TypedTable
