namespace TypedTable
namespace Text

-- A set of characters as ranges of code points, both ends included.
abbrev CodePoints := List (Nat × Nat)

def CodePoints.has (ranges : CodePoints) (c : Char) : Bool :=
  ranges.any fun range => range.1 ≤ c.toNat && c.toNat ≤ range.2

end Text
end TypedTable
