import TypedTable.Expr.FilterText
import TypedTable.Proofs.Lexing.Literal

namespace TypedTable

namespace Expr

variable (env : Environment) (names : NameTable)

-- What an expression without a parameter stands for.
def closedValue? (e : Expr) : Option Value := if e.isOpen then none else (e.value env).toOption

-- An operand of a comparison on a row: a member of the parameter is what its
-- column holds.
def operandOn (row : Bag) : Expr → Option Value
  | .member (.parameter _) field => row[names.resolve field]?
  | e => e.closedValue? env

-- Whether a predicate is true of a row, said of the expression itself. Missing
-- columns and incomparable operands satisfy no comparison.
def holdsOn (row : Bag) (e : Expr) : Bool :=
  if e.isOpen then
    match e with
    | .member _ field => row[names.resolve field]? == some (.boolean true)
    | .compare left op right =>
      (((left.operandOn env names row).bind fun l =>
        (right.operandOn env names row).bind fun r => l.compare? r).map op.holds).getD false
    | .logical op left right => op.join (left.holdsOn row) (right.holdsOn row)
    | .not inner => !inner.holdsOn row
    | .lambda _ body => body.holdsOn row
    | _ => false
  else e.closedValue? env == some (.boolean true)

def columns : Expr → List String
  | .member (.parameter _) field => [names.resolve field]
  | .member target _ | .call target _ => target.columns
  | .compare left _ right | .logical _ left right => left.columns ++ right.columns
  | .not inner => inner.columns
  | .lambda _ body => body.columns
  | .parameter _ | .constant _ | .captured _ _ => []

-- The closed operands of the comparisons that cannot be decided without a row.
def literals : Expr → List Value
  | .compare left _ right =>
    if left.isOpen || right.isOpen then
      (left.closedValue? env).toList ++ (right.closedValue? env).toList
    else []
  | .logical _ left right => left.literals ++ right.literals
  | .not inner => inner.literals
  | .lambda _ body => body.literals
  | .member _ _ | .call _ _ | .parameter _ | .constant _ | .captured _ _ => []

-- Predicates of which the filter language can say everything: it takes the
-- columns for columns, and reads the literals back.
structure IsExact (e : Expr) : Prop where
  named : ∀ name ∈ e.columns names, IsName name
  fixed : ∀ t, .dateTime t ∈ e.literals env → t.IsFixed

theorem reduce_constant {env : Environment} {e : Expr} {v : Value} :
    e.reduce env = .ok (.constant v) ↔ e.closedValue? env = some v := by
  unfold reduce closedValue?
  split
  · rename_i isOpen
    constructor
    · intro stays; cases stays; cases isOpen
    · nofun
  · cases e.value env with
    | error => exact ⟨nofun,nofun⟩
    | ok w =>
      constructor
      · intro reduced; cases reduced; rfl
      · intro closed; cases closed; rfl

end Expr
end TypedTable
