import TypedTable.Expr.FilterText
import TypedTable.Query.Chain
import TypedTable.Query.Plan

namespace TypedTable

-- Row counts are below 2^32.
def rowCountBound : Nat := 2 ^ 32

-- What planning a chain depends on besides the chain.
structure Planner where
  env : Environment
  names : NameTable := ∅
  maxTake : Option Nat := none

-- A step of planning: it may fail, and what it wrote before it failed
-- stays written.
abbrev PlanM := ExceptT Error (StateM Plan)

-- What is left of a chain when some of its calls have been planned.
abbrev Inner (chain : Chain) := { rest : Chain // rest.size < chain.size }

namespace Planner

def oneArgument (method : Method) : List Expr → Except Error Expr
  | [argument] => .ok argument
  | arguments => .error (.outOfRange (.oneArgument method arguments.length))

def expect (expected found : Method) : Except Error Unit :=
  if found = expected then .ok () else .error (.outOfRange (.otherMethod expected found))

def filterText (t : Planner) (predicate : Expr) : Except Error String :=
  predicate.filterText t.env t.names

-- The count of Take: a closed integer within the bounds.
def count (t : Planner) (argument : Expr) : Except Error Nat := do
  let reduced ← argument.reduce t.env
  let n ← match reduced with
    | .constant value =>
      match value.integer? with
      | some n => .ok n
      | none => .error (.outOfRange (.noCount reduced))
    | _ => .error (.outOfRange (.noCount reduced))
  if n < 0 ∨ rowCountBound ≤ n then .error (.outOfRange (.noRowCount n))
  else
    match t.maxTake with
    | some maximum =>
      if maximum < n.toNat then .error (.outOfRange (.aboveMaximum n.toNat maximum))
      else .ok n.toNat
    | none => .ok n.toNat

def planFilter (t : Planner) (source : Chain) (method : Method) (arguments : List Expr) :
    PlanM (Inner (.call source method arguments)) := do
  expect .filter method
  let predicate ← oneArgument method arguments
  if (← get).filter.isSome then throw (.outOfRange .secondPredicate)
  let text ← t.filterText predicate
  modify fun so => { so with filter := some text }
  return ⟨source, Nat.lt_succ_self _⟩

def planTake (t : Planner) (source : Chain) (method : Method) (arguments : List Expr) :
    PlanM (Inner (.call source method arguments)) := do
  expect .take method
  let n ← t.count (← oneArgument method arguments)
  if (← get).take.isSome then throw (.outOfRange .secondTake)
  modify fun so => { so with take := some n }
  return ⟨source, Nat.lt_succ_self _⟩

-- The arguments of the Where that a chain ends in, and the chain before it.
def lastFilter? : (chain : Chain) → Option (List Expr × Inner chain)
  | .call source .filter arguments => some (arguments, ⟨source, Nat.lt_succ_self _⟩)
  | _ => none

-- A cardinality method takes its predicate from its own argument or from a
-- Where that it is called on directly, and then it stands for both calls.
def planCardinality (t : Planner) (c : Cardinality) (source : Chain) (method : Method)
    (arguments : List Expr) : PlanM (Inner (.call source method arguments)) := do
  expect (.cardinality c) method
  let next ← match arguments, lastFilter? source with
    | [], some (predicates, inner) => do
      let text ← t.filterText (← oneArgument .filter predicates)
      modify fun so => { so with filter := some text }
      pure ⟨inner.val, Nat.lt_succ_of_lt inner.property⟩
    | [], none => pure ⟨source, Nat.lt_succ_self _⟩
    | [_], some _ => throw (.outOfRange (.predicateOnWhere (.cardinality c)))
    | [predicate], none => do
      let text ← t.filterText predicate
      modify fun so => { so with filter := some text }
      pure ⟨source, Nat.lt_succ_self _⟩
    | _, _ => throw (.outOfRange (.onePredicate (.cardinality c) arguments.length))
  modify fun so => { so with cardinality := some c }
  return next

-- Plans a call as one of the expected method, whichever it is.
def planCall (t : Planner) (expected : Method) (source : Chain) (method : Method)
    (arguments : List Expr) : PlanM (Inner (.call source method arguments)) :=
  match expected with
  | .filter => t.planFilter source method arguments
  | .take => t.planTake source method arguments
  | .cardinality c => t.planCardinality c source method arguments

-- Walks from the last call of the chain to its root.
def walk (t : Planner) (table : String) (outermost : Bool) (chain : Chain) : PlanM Unit :=
  match chain with
  | .root found => if found = table then pure () else throw (.outOfRange (.otherRoot found table))
  | .call source method arguments => do
    if method.isTerminal && !outermost then throw (.outOfRange (.notLast method))
    if method = .take && (← get).filter.isSome then throw (.outOfRange .predicateAfterTake)
    let ⟨next, _⟩ ← t.planCall method source method arguments
    t.walk table false next
termination_by chain.size

-- The plan of a chain on the table.
def plan (t : Planner) (table : String) (chain : Chain) : Except Error Plan :=
  match (t.walk table true chain).run.run {} with
  | (.ok (), so) => .ok so
  | (.error e, _) => .error e

end Planner
end TypedTable
