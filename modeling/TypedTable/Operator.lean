namespace TypedTable

-- How two values of a condition are compared.
inductive Comparison where
  | eq
  | ne
  | lt
  | le
  | gt
  | ge
deriving DecidableEq

namespace Comparison

-- The word in the filter language.
def token : Comparison → String
  | .eq => "eq"
  | .ne => "ne"
  | .lt => "lt"
  | .le => "le"
  | .gt => "gt"
  | .ge => "ge"

-- Words are read in either case.
def ofToken? (word : List Char) : Option Comparison :=
  match word.map Char.toLower with
  | ['e', 'q'] => some .eq
  | ['n', 'e'] => some .ne
  | ['l', 't'] => some .lt
  | ['l', 'e'] => some .le
  | ['g', 't'] => some .gt
  | ['g', 'e'] => some .ge
  | _ => none

-- The sign in printed expressions.
def symbol : Comparison → String
  | .eq => "=="
  | .ne => "!="
  | .lt => "<"
  | .le => "<="
  | .gt => ">"
  | .ge => ">="

-- The comparison with its operands exchanged.
def flip : Comparison → Comparison
  | .eq => .eq
  | .ne => .ne
  | .lt => .gt
  | .le => .ge
  | .gt => .lt
  | .ge => .le

def holds : Comparison → Ordering → Bool
  | .eq, order => order == .eq
  | .ne, order => order != .eq
  | .lt, order => order == .lt
  | .le, order => order != .gt
  | .gt, order => order == .gt
  | .ge, order => order != .lt

end Comparison

-- How two conditions are joined.
inductive Connective where
  | and
  | or
deriving DecidableEq

namespace Connective

def all : List Connective := [.and, .or]

def token : Connective → String
  | .and => "and"
  | .or => "or"

def symbol : Connective → String
  | .and => "&&"
  | .or => "||"

def join : Connective → Bool → Bool → Bool
  | .and, a, b => a && b
  | .or, a, b => a || b

end Connective
end TypedTable
