import TypedTable.Expr.Evaluate
import TypedTable.NameTable

namespace TypedTable
namespace Expr

-- The column behind a member access. With a bound parameter the access must
-- be on that one, otherwise any parameter will do.
def column (names : NameTable) (bound : Option String) (target : Expr) (field : String) :
    Except Error String :=
  match target with
  | .parameter name =>
    if bound.all (· == name) then .ok (names.resolve field)
    else .error (.unsupported (.otherParameter field name))
  | target => .error (.unsupported (.nestedMember target field))

-- The filter language has no literal for NaN and the infinities.
def literal : Value → Except Error String
  | .double x => if x.isFinite then .ok (Value.double x).literal else .error (.unsupported (.nonFinite x))
  | value => .ok value.literal

-- A closed condition is its truth value.
def condition : Value → Except Error String
  | .boolean b => .ok (Value.booleanText b)
  | value => .error (.unsupported (.noCondition value))

-- The member comes first in the text; the comparison is flipped when it was
-- on the right.
def comparisonText (env : Environment) (names : NameTable) (bound : Option String)
    (left : Expr) (op : Comparison) (right : Expr) : Except Error String := do
  let l ← left.reduce env
  let r ← right.reduce env
  match l, r with
  | .member target field, .constant value => do
    return (← column names bound target field) ++ " " ++ op.token ++ " " ++ (← literal value)
  | .constant value, .member target field => do
    return (← column names bound target field) ++ " " ++ op.flip.token ++ " " ++ (← literal value)
  | .member _ _, .member _ _ => .error (.unsupported (.twoMembers l op r))
  | _, _ => .error (.unsupported (.noOperands l op r))

def isMember : Expr → Bool
  | .member _ _ => true
  | _ => false

-- Whether e is an open combination with the other connective, which needs
-- parentheses as an operand.
def needsParentheses (parent : Connective) : Expr → Bool
  | .logical op left right => op != parent && (Expr.logical op left right).isOpen
  | _ => false

def parenthesize (needed : Bool) (text : String) : String :=
  if needed then "(" ++ text ++ ")" else text

-- The text of a condition over the members of a parameter. Closed parts are
-- evaluated; no part is left out.
def conditionText (env : Environment) (names : NameTable) (bound : Option String) (e : Expr) :
    Except Error String :=
  if e.isOpen then
    match e with
    | .member target field => column names bound target field
    | .not inner => do
      let text ← conditionText env names bound inner
      return "not " ++ parenthesize (!inner.isMember) text
    | .logical op left right => do
      let l ← conditionText env names bound left
      let r ← conditionText env names bound right
      return parenthesize (needsParentheses op left) l ++ " " ++ op.token ++ " " ++
        parenthesize (needsParentheses op right) r
    | .compare left op right => comparisonText env names bound left op right
    | other => .error (.unsupported (.noPredicate other))
  else do condition (← e.value env)

-- A lambda binds its parameter; a bare condition may use any.
def filterText (env : Environment) (names : NameTable) : Expr → Except Error String
  | .lambda name body => conditionText env names (some name) body
  | body => conditionText env names none body

end Expr
end TypedTable
