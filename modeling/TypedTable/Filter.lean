import TypedTable.Bag
import TypedTable.Operator
import TypedTable.Value.Literal

namespace TypedTable

-- A condition on one row.
inductive Filter where
  | compare (column : String) (op : Comparison) (value : Value)
  | column (name : String)
  | constant (b : Bool)
  | logical (op : Connective) (left right : Filter)
  | not (inner : Filter)
deriving DecidableEq

namespace Filter

-- Every connective and every negated filter gets its own parentheses.
def text : Filter → String
  | .compare name op value => name ++ " " ++ op.token ++ " " ++ value.literal
  | .column name => name
  | .constant b => Value.booleanText b
  | .logical op left right => "(" ++ left.text ++ " " ++ op.token ++ " " ++ right.text ++ ")"
  | .not inner => "not (" ++ inner.text ++ ")"

-- Whether the row holds a value in the column that compares with the literal
-- and the comparison holds. A missing column satisfies no comparison.
def holds (row : Bag) (column : String) (op : Comparison) (value : Value) : Bool :=
  ((row[column]?.bind (·.compare? value)).map op.holds).getD false

-- Whether the column holds true.
def holdsTrue (row : Bag) (column : String) : Bool :=
  (row[column]?.bind Value.boolean?).getD false

def accepts (row : Bag) : Filter → Bool
  | .compare name op value => holds row name op value
  | .column name => holdsTrue row name
  | .constant b => b
  | .logical op left right => op.join (left.accepts row) (right.accepts row)
  | .not inner => !inner.accepts row

end Filter
end TypedTable
