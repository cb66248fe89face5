import TypedTable.Proofs.Except
import TypedTable.Proofs.Expr.Meaning
import TypedTable.Query.Planner

namespace TypedTable
namespace Chain

-- All predicates of a chain, whichever calls they are written in.
def predicates : Chain → List Expr
  | .root _ => []
  | .call source .take _ => source.predicates
  | .call source .filter arguments | .call source (.cardinality _) arguments =>
    source.predicates ++ arguments

def limits : Chain → List Expr
  | .root _ => []
  | .call source .take arguments => source.limits ++ arguments
  | .call source .filter _ | .call source (.cardinality _) _ => source.limits

def cardinality? : Chain → Option Cardinality
  | .call _ (.cardinality c) _ => some c
  | _ => none

variable (env : Environment) (names : NameTable)

def accepts (chain : Chain) (row : Bag) : Bool := chain.predicates.all (·.holdsOn env names row)

def limit? (chain : Chain) : Option Nat :=
  chain.limits.head?.bind fun argument => ((argument.closedValue? env).bind Value.integer?).map Int.toNat

end Chain

namespace Planner

-- A value that says how many rows.
inductive Counts : Value → Nat → Prop where
  | int32 {v : Int32} {n : Nat} (same : v.toInt = n) : Counts (.int32 v) n
  | int64 {v : Int64} {n : Nat} (same : v.toInt = n) : Counts (.int64 v) n

-- The arguments of Take that limit a query to n rows.
structure RowCount (t : Planner) (argument : Expr) (n : Nat) : Prop where
  value : ∃ v, argument.closedValue? t.env = some v ∧ Counts v n
  bounded : n < 2 ^ 32
  allowed : ∀ maximum, t.maxTake = some maximum → n ≤ maximum

-- What planning a call does when it succeeds: the rest of the chain, and the
-- plan afterwards.
inductive Plans (t : Planner) (so : Plan) : Method → Chain → List Expr → Chain → Plan → Prop where
  | filter {source : Chain} {p : Expr} {text : String} (free : so.filter = none)
      (written : t.filterText p = .ok text) :
      Plans t so .filter source [p] source { so with filter := some text }
  | take {source : Chain} {argument : Expr} {n : Nat} (free : so.take = none)
      (counted : t.count argument = .ok n) :
      Plans t so .take source [argument] source { so with take := some n }
  | bare {c : Cardinality} {source : Chain} (apart : lastFilter? source = none) :
      Plans t so (.cardinality c) source [] source { so with cardinality := some c }
  | own {c : Cardinality} {source : Chain} {p : Expr} {text : String} (apart : lastFilter? source = none)
      (written : t.filterText p = .ok text) :
      Plans t so (.cardinality c) source [p] source { so with filter := some text, cardinality := some c }
  | joined {c : Cardinality} {inner : Chain} {p : Expr} {text : String}
      (written : t.filterText p = .ok text) :
      Plans t so (.cardinality c) (.call inner .filter [p]) [] inner
        { so with filter := some text, cardinality := some c }

variable {t : Planner} {source chain : Chain} {method : Method} {arguments : List Expr} {so so' : Plan}

theorem oneArgument_parts {argument : Expr} (one : oneArgument method arguments = .ok argument) :
    arguments = [argument] := by
  unfold oneArgument at one
  split at one
  · cases one; rfl
  · cases one

theorem lastFilter_parts {found : List Expr × Inner source} (last : lastFilter? source = some found) :
    source = .call found.2.val .filter found.1 := by
  unfold lastFilter? at last
  split at last
  · cases last; rfl
  · cases last

theorem planFilter_plans {rest : Inner (.call source .filter arguments)}
    (ran : Ran (t.planFilter source .filter arguments) so (.ok rest) so') :
    Plans t so .filter source arguments rest.val so' := by
  unfold planFilter at ran
  obtain ⟨_,_,afterMethod⟩ := ran.lift_parts
  obtain ⟨p,one,afterArgument⟩ := afterMethod.lift_parts
  obtain ⟨_,_,got,afterGet⟩ := afterArgument.parts
  cases got
  split at afterGet
  · obtain ⟨_,_,thrown,_⟩ := afterGet.parts
    cases thrown
  · rename_i free
    obtain ⟨text,written,afterText⟩ := afterGet.lift_parts
    cases afterText
    rw [oneArgument_parts one]
    exact .filter (by simpa using free) written

theorem planTake_plans {rest : Inner (.call source .take arguments)}
    (ran : Ran (t.planTake source .take arguments) so (.ok rest) so') :
    Plans t so .take source arguments rest.val so' := by
  unfold planTake at ran
  obtain ⟨_,_,afterMethod⟩ := ran.lift_parts
  obtain ⟨argument,one,afterArgument⟩ := afterMethod.lift_parts
  obtain ⟨n,counted,afterCount⟩ := afterArgument.lift_parts
  obtain ⟨_,_,got,afterGet⟩ := afterCount.parts
  cases got
  split at afterGet
  · obtain ⟨_,_,thrown,_⟩ := afterGet.parts
    cases thrown
  · rename_i free
    cases afterGet
    rw [oneArgument_parts one]
    exact .take (by simpa using free) counted

theorem planCardinality_plans {c : Cardinality} {rest : Inner (.call source (.cardinality c) arguments)}
    (ran : Ran (t.planCardinality c source (.cardinality c) arguments) so (.ok rest) so') :
    Plans t so (.cardinality c) source arguments rest.val so' := by
  unfold planCardinality at ran
  obtain ⟨_,_,afterMethod⟩ := ran.lift_parts
  split at afterMethod
  · rename_i predicates inner last
    obtain ⟨inner,_⟩ := inner
    obtain ⟨p,one,afterArgument⟩ := afterMethod.lift_parts
    obtain ⟨text,written,afterText⟩ := afterArgument.lift_parts
    have whole : source = .call inner .filter predicates := lastFilter_parts last
    have alone : predicates = [p] := oneArgument_parts one
    subst whole alone
    cases afterText
    exact .joined written
  · rename_i apart
    cases afterMethod
    exact .bare apart
  · obtain ⟨_,_,thrown,_⟩ := afterMethod.parts
    cases thrown
  · rename_i apart
    obtain ⟨text,written,afterText⟩ := afterMethod.lift_parts
    cases afterText
    exact .own apart written
  · obtain ⟨_,_,thrown,_⟩ := afterMethod.parts
    cases thrown

theorem planCall_plans {rest : Inner (.call source method arguments)}
    (ran : Ran (t.planCall method source method arguments) so (.ok rest) so') :
    Plans t so method source arguments rest.val so' := by
  cases method with
  | filter => exact planFilter_plans ran
  | take => exact planTake_plans ran
  | cardinality c => exact planCardinality_plans ran

-- What the plan says of the chain: the text of its predicate, the count of its
-- Take and its cardinality method, each only if the chain has one.
structure Planned (t : Planner) (chain : Chain) (so so' : Plan) : Prop where
  filter : ∃ texts, chain.predicates.mapM t.filterText = .ok texts ∧
    so'.filter.toList = texts ++ so.filter.toList
  take : ∃ counts, chain.limits.mapM t.count = .ok counts ∧ so'.take.toList = counts ++ so.take.toList
  cardinality : so'.cardinality = chain.cardinality?.or so.cardinality

theorem walk_parts {table : String} {outermost : Bool}
    (ran : Ran (t.walk table outermost (.call source method arguments)) so (.ok ()) so') :
    (method.isTerminal = true → outermost = true) ∧ (method = .take → so.filter = none) ∧
      ∃ rest mid, rest.size < (Chain.call source method arguments).size ∧
        Plans t so method source arguments rest mid ∧ Ran (t.walk table false rest) mid (.ok ()) so' := by
  rw [walk] at ran
  split at ran
  · obtain ⟨_,_,thrown,_⟩ := ran.parts
    cases thrown
  · rename_i last
    obtain ⟨_,_,got,afterGet⟩ := Ran.parts ran
    cases got
    split at afterGet
    · obtain ⟨_,_,thrown,_⟩ := afterGet.parts
      cases thrown
    · rename_i unfiltered
      refine ⟨fun terminal => by simpa [terminal] using last,
        fun takes => by simpa [takes] using unfiltered,?_⟩
      obtain ⟨⟨rest,smaller⟩,mid,planned,walked⟩ := Ran.parts afterGet
      exact ⟨rest,mid,smaller,planCall_plans planned,walked⟩

theorem counts_integer {v : Value} {n : Nat} : Counts v n ↔ v.integer? = some (n : Int) := by
  constructor
  · rintro (same | same)
    · exact congrArg some same
    · exact congrArg some same
  · intro integer
    cases v with
    | int32 v => exact .int32 (Option.some.inj integer)
    | int64 v => exact .int64 (Option.some.inj integer)
    | _ => cases integer

theorem count_exact {argument : Expr} {n : Nat} : t.count argument = .ok n ↔ t.RowCount argument n := by
  constructor
  · intro counted
    unfold count at counted
    obtain ⟨reduced,closed,rest⟩ := bind_parts counted
    clear counted
    cases reduced with
    | constant v =>
      dsimp only at rest
      cases integer : v.integer? with
      | none => rw [integer] at rest; cases rest
      | some k =>
        rw [integer] at rest
        obtain ⟨_,same,checked⟩ := bind_parts rest
        cases same
        split at checked
        · cases checked
        · rename_i within
          have bounds : 0 ≤ k ∧ k.toNat < rowCountBound := by omega
          have counts : Counts v k.toNat := counts_integer.mpr (by rw [integer,Int.toNat_of_nonneg bounds.1])
          have value := Expr.reduce_constant.mp closed
          split at checked
          · rename_i maximum given
            split at checked
            · cases checked
            · rename_i allowed
              cases checked
              refine ⟨⟨v,value,counts⟩,bounds.2,fun other same => ?_⟩
              rw [Option.some.inj (same.symm.trans given)]
              exact Nat.le_of_not_lt allowed
          · rename_i unlimited
            cases checked
            exact ⟨⟨v,value,counts⟩,bounds.2,fun maximum given => nomatch given.symm.trans unlimited⟩
    | _ => cases rest
  · rintro ⟨⟨v,value,counts⟩,bounded,allowed⟩
    have within : ¬((n : Int) < 0 ∨ (rowCountBound : Int) ≤ n) := by unfold rowCountBound; omega
    unfold count
    rw [Expr.reduce_constant.mpr value]
    dsimp only [Bind.bind,Except.bind]
    rw [counts_integer.mp counts]
    dsimp only
    rw [if_neg within,Int.toNat_natCast]
    split
    · rename_i maximum given
      exact if_neg (Nat.not_lt.mpr (allowed maximum given))
    · rfl

theorem Planned.limit (planned : Planned t chain {} so) : chain.limit? t.env = so.take := by
  obtain ⟨counts,counted,take⟩ := planned.take
  have only : so.take.toList = counts := take.trans (List.append_nil counts)
  subst only
  unfold Chain.limit?
  cases given : so.take with
  | none =>
    rw [given] at counted
    rw [mapM_nil_parts counted]
    rfl
  | some n =>
    rw [given] at counted
    obtain ⟨argument,rest,limits,one,_⟩ := mapM_cons_parts counted
    obtain ⟨v,value,counts⟩ := (count_exact.mp one).value
    rw [limits,List.head?_cons,Option.bind_some,value,Option.bind_some,counts_integer.mp counts]
    rfl

end Planner
end TypedTable
