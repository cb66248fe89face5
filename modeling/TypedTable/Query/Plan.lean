import TypedTable.Error

namespace TypedTable

-- What a chain asks for: rows that pass a filter, at most so many of them,
-- and what the cardinality method requires of the result.
structure Plan where
  filter : Option String := none
  take : Option Nat := none
  cardinality : Option Cardinality := none
deriving DecidableEq

namespace Cardinality

-- What the method makes of all rows of a sequence.
def apply {α : Type} : Cardinality → List α → Except Error (Option α)
  | .first, [] => .error (.invalidOperation .noElements)
  | .first, item :: _ => .ok (some item)
  | .firstOrDefault, items => .ok items.head?
  | .single, [] => .error (.invalidOperation .noElements)
  | .single, [item] => .ok (some item)
  | .single, _ => .error (.invalidOperation .manyElements)
  | .singleOrDefault, [] => .ok none
  | .singleOrDefault, [item] => .ok (some item)
  | .singleOrDefault, _ => .error (.invalidOperation .manyElements)

-- So many rows decide what the method does.
def needed : Cardinality → Nat
  | .first | .firstOrDefault => 1
  | .single | .singleOrDefault => 2

end Cardinality
end TypedTable
