import TypedTable.Error
import TypedTable.Text.Blank
import TypedTable.Text.Case

namespace TypedTable
namespace Expr

-- Counts characters. Start and length are unbounded numbers, so their sum
-- cannot wrap.
def substring (text : List Char) (start : Nat) (length : Option Nat) :
    Except Error (List Char) :=
  let size := text.length
  if size < start then .error (.outOfRange (.substringStart start size))
  else
    match length with
    | none => .ok (text.drop start)
    | some length =>
      if size - start < length then .error (.outOfRange (.substringLength length start size))
      else .ok ((text.drop start).take length)

-- Every value has a text; all other methods need a string.
def applyMethod (method : TextMethod) (receiver : Value) : Except Error Value :=
  match method, receiver with
  | .toText, value => .ok (.string value.text)
  | .substring start length, .string text =>
    (substring text.toList start length).map fun part => .string (String.ofList part)
  | .upper, .string text => .ok (.string (String.ofList (Text.upper text.toList)))
  | .lower, .string text => .ok (.string (String.ofList (Text.lower text.toList)))
  | .trim, .string text => .ok (.string (String.ofList (Text.trim text.toList)))
  | method, value => .error (.unsupported (.noMethod method value.kind))

def compareValues (left : Value) (op : Comparison) (right : Value) : Except Error Value :=
  match left.compare? right with
  | some order => .ok (.boolean (op.holds order))
  | none => .error (.unsupported (.incomparable left.kind right.kind))

-- The value of e as an operand of a connective or a negation.
def truth (e : Expr) : Value → Except Error Bool
  | .boolean b => .ok b
  | value => .error (.unsupported (.noBoolean value.kind e))

-- The value of a closed expression. The right operand of a connective is not
-- looked at when the left one decides.
def value (env : Environment) : Expr → Except Error Value
  | .constant v => .ok v
  | .captured _ source => .ok (source.read env)
  | .call target method => do applyMethod method (← target.value env)
  | .compare left op right => do
    let l ← left.value env
    let r ← right.value env
    compareValues l op r
  | .logical op left right => do
    let l ← truth left (← left.value env)
    if l = (op == .or) then return .boolean l
    return .boolean (← truth right (← right.value env))
  | .not inner => do return .boolean !(← truth inner (← inner.value env))
  | .member _ field => .error (.unsupported (.strayMember field))
  | .parameter name => .error (.unsupported (.noValue (.parameter name)))
  | .lambda name body => .error (.unsupported (.noValue (.lambda name body)))

-- A closed expression becomes the constant it stands for; an open one stays.
def reduce (env : Environment) (e : Expr) : Except Error Expr :=
  if e.isOpen then .ok e else (e.value env).map .constant

end Expr
end TypedTable
