namespace TypedTable

-- How many rows a query may have, and what becomes of them.
inductive Cardinality where
  | first
  | firstOrDefault
  | single
  | singleOrDefault
deriving DecidableEq

namespace Cardinality

def all : List Cardinality := [.first, .firstOrDefault, .single, .singleOrDefault]

def method : Cardinality → String
  | .first => "First"
  | .firstOrDefault => "FirstOrDefault"
  | .single => "Single"
  | .singleOrDefault => "SingleOrDefault"

def directive : Cardinality → String
  | .first => "TakeFirst"
  | .firstOrDefault => "TakeFirstOrDefault"
  | .single => "RequireSingle"
  | .singleOrDefault => "RequireSingleOrDefault"

end Cardinality

inductive Method where
  | filter
  | cardinality (c : Cardinality)
  | take
deriving DecidableEq

namespace Method

def all : List Method := [.filter] ++ Cardinality.all.map .cardinality ++ [.take]

def name : Method → String
  | .filter => "Where"
  | .cardinality c => c.method
  | .take => "Take"

-- Nothing can be called on the result of a terminal method.
def isTerminal : Method → Bool
  | .cardinality _ => true
  | _ => false

end Method
end TypedTable
