import TypedTable.Operator
import TypedTable.Value.Literal

namespace TypedTable

-- What can be called on a closed value.
inductive TextMethod where
  | substring (start : Nat) (length : Option Nat)
  | toText
  | upper
  | lower
  | trim
deriving DecidableEq

def TextMethod.text : TextMethod → String
  | .substring start none => "Substring(" ++ Numeral.ofNat start ++ ")"
  | .substring start (some length) =>
    "Substring(" ++ Numeral.ofNat start ++ ", " ++ Numeral.ofNat length ++ ")"
  | .toText => "ToString()"
  | .upper => "ToUpper()"
  | .lower => "ToLower()"
  | .trim => "Trim()"

-- Where a captured value comes from: fixed when it was captured, or read from
-- a variable whenever the expression is evaluated.
inductive Source where
  | fixed (value : Value)
  | variable (name : String)
deriving DecidableEq

-- The variables and what they hold at the moment.
abbrev Environment := String → Value

def Source.read (env : Environment) : Source → Value
  | .fixed value => value
  | .variable name => env name

inductive Expr where
  | parameter (name : String)
  | member (target : Expr) (field : String)
  | constant (value : Value)
  | captured (name : String) (source : Source)
  | call (target : Expr) (method : TextMethod)
  | compare (left : Expr) (op : Comparison) (right : Expr)
  | logical (op : Connective) (left right : Expr)
  | not (inner : Expr)
  | lambda (parameter : String) (body : Expr)
deriving DecidableEq

namespace Expr

-- A member of the parameter p, the one that predicates are written over.
def field (name : String) : Expr := .member (.parameter "p") name

def predicate (body : Expr) : Expr := .lambda "p" body

-- Open expressions mention a parameter or bind one; all others have a value
-- of their own.
def isOpen : Expr → Bool
  | .parameter _ | .lambda _ _ => true
  | .constant _ | .captured _ _ => false
  | .member target _ | .call target _ => target.isOpen
  | .compare left _ right | .logical _ left right => left.isOpen || right.isOpen
  | .not inner => inner.isOpen

-- The word for the node in messages.
def noun : Expr → String
  | .parameter _ => "parameter"
  | .member _ _ => "member access"
  | .constant _ => "constant"
  | .captured _ _ => "captured value"
  | .call _ _ => "method call"
  | .compare _ _ _ => "comparison"
  | .logical _ _ _ => "logical expression"
  | .not _ => "negation"
  | .lambda _ _ => "lambda"

def text : Expr → String
  | .parameter name => name
  | .member target name => target.text ++ "." ++ name
  | .constant value => value.literal
  | .captured name _ => name
  | .call target method => target.text ++ "." ++ method.text
  | .compare left op right => "(" ++ left.text ++ " " ++ op.symbol ++ " " ++ right.text ++ ")"
  | .logical op left right => "(" ++ left.text ++ " " ++ op.symbol ++ " " ++ right.text ++ ")"
  | .not inner => "!" ++ inner.text
  | .lambda name body => name ++ " => " ++ body.text

end Expr
end TypedTable
