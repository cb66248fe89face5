import TypedTable.Proofs.Grammar

namespace TypedTable

namespace Token

-- Another name for each column.
def rename (g : String → String) : Token → Token
  | .column name => .column (g name)
  | t => t

end Token

namespace Filter

def columns : Filter → List String
  | .compare name _ _ | .column name => [name]
  | .constant _ => []
  | .logical _ left right => left.columns ++ right.columns
  | .not inner => inner.columns

def rename (g : String → String) : Filter → Filter
  | .compare name op value => .compare (g name) op value
  | .column name => .column (g name)
  | .constant b => .constant b
  | .logical op left right => .logical op (left.rename g) (right.rename g)
  | .not inner => .not (inner.rename g)

end Filter

namespace Grammar

variable {rule : Rule} {ts : List Token} {f : Filter}

-- The columns of a filter are those among its tokens.
theorem Derives.columns (derives : Derives rule ts f) (name : String) :
    name ∈ f.columns ↔ .column name ∈ ts := by
  induction derives with
  | single first ih => exact ih
  | extend earlier last ih ih' => simp [Filter.columns,ih,ih']
  | not inner ih => simp [Filter.columns,ih]
  | plain inner ih => exact ih
  | parentheses inner ih => simp [ih]
  | column | constant | columnFirst | valueFirst => simp [Filter.columns]

-- The names of the columns have no part in the structure of a filter.
theorem Derives.rename (derives : Derives rule ts f) (g : String → String) :
    Derives rule (ts.map (Token.rename g)) (f.rename g) := by
  induction derives with
  | single first ih => exact .single ih
  | extend earlier last ih ih' =>
    rw [List.map_append,List.map_cons]
    exact .extend ih ih'
  | not inner ih => exact .not ih
  | plain inner ih => exact .plain ih
  | parentheses inner ih =>
    rw [List.map_cons,List.map_append]
    exact .parentheses ih
  | column name => exact .column (g name)
  | constant b => exact .constant b
  | columnFirst name op v => exact .columnFirst (g name) op v
  | valueFirst name op v => exact .valueFirst (g name) op v

end Grammar
end TypedTable
