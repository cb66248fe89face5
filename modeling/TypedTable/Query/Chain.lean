import TypedTable.Expr
import TypedTable.Query.Method

namespace TypedTable

-- Method calls on a table, the innermost call first.
inductive Chain where
  | root (table : String)
  | call (source : Chain) (method : Method) (arguments : List Expr)
deriving DecidableEq

namespace Chain

-- The number of calls.
def size : Chain → Nat
  | .root _ => 0
  | .call source _ _ => source.size + 1

def text : Chain → String
  | .root table => table
  | .call source method arguments =>
    source.text ++ "." ++ method.name ++ "(" ++ String.intercalate ", " (arguments.map Expr.text) ++ ")"

end Chain
end TypedTable
