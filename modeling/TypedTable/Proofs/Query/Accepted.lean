import TypedTable.Proofs.Query.Chain

namespace TypedTable
namespace Chain

def filtered (chain : Chain) : Option Expr → Chain
  | some predicate => .call chain .filter [predicate]
  | none => chain

def limited (chain : Chain) : Option Expr → Chain
  | some argument => .call chain .take [argument]
  | none => chain

def ended (chain : Chain) : Option Cardinality → Chain
  | some c => .call chain (.cardinality c) []
  | none => chain

-- The chains that filter, then limit, then count the rows of the table, with
-- what each call is given.
inductive Asks (table : String) : Chain → Option Expr → Option Expr → Option Cardinality → Prop where
  | calls (predicate limit : Option Expr) (c : Option Cardinality) :
      Asks table ((((Chain.root table).filtered predicate).limited limit).ended c) predicate limit c
  | own (p : Expr) (c : Cardinality) :
      Asks table (.call (.root table) (.cardinality c) [p]) (some p) none (some c)

end Chain

namespace Planner

-- The filter is the text of the predicate, and there is none without one.
def Filters (t : Planner) (predicate : Option Expr) (filter : Option String) : Prop :=
  Option.Rel (fun p text => p.filterText t.env t.names = .ok text) predicate filter

-- The plan has what a chain asks for: the text of the predicate, the count of
-- the limit and the cardinality, and nothing that it does not ask for.
structure Carries (t : Planner) (predicate limit : Option Expr) (c : Option Cardinality) (so : Plan) :
    Prop where
  filter : t.Filters predicate so.filter
  take : Option.Rel t.RowCount limit so.take
  cardinality : so.cardinality = c

variable {t : Planner} {source chain : Chain} {method : Method} {arguments : List Expr} {so so' : Plan}
  {table : String} {outermost : Bool} {predicate limit : Option Expr} {text : Option String} {n : Option Nat}

theorem expect_self : expect method method = .ok () := if_pos rfl

theorem Plans.ran {rest : Chain} (plans : Plans t so method source arguments rest so') :
    ∃ smaller, Ran (t.planCall method source method arguments) so (.ok ⟨rest,smaller⟩) so' := by
  cases plans with
  | filter free written =>
    refine ⟨Nat.lt_succ_self _,Ran.bind_lift expect_self (Ran.bind_lift rfl ((Ran.get so).bind ?_))⟩
    rw [free]
    exact Ran.bind_lift written rfl
  | take free counted =>
    refine ⟨Nat.lt_succ_self _,
      Ran.bind_lift expect_self (Ran.bind_lift rfl (Ran.bind_lift counted ((Ran.get so).bind ?_)))⟩
    rw [free]
    rfl
  | bare apart =>
    refine ⟨Nat.lt_succ_self _,Ran.bind_lift expect_self ?_⟩
    rw [apart]
    rfl
  | own apart written =>
    refine ⟨Nat.lt_succ_self _,Ran.bind_lift expect_self ?_⟩
    rw [apart]
    exact Ran.bind_lift written rfl
  | joined written =>
    refine ⟨Nat.lt_succ_of_lt (Nat.lt_succ_self _),?_⟩
    exact Ran.bind_lift expect_self (Ran.bind_lift rfl (Ran.bind_lift written rfl))

theorem walk_root {found : String} :
    Ran (t.walk table outermost (.root found)) so (.ok ()) so' ↔ found = table ∧ so' = so := by
  rw [walk]
  constructor
  · intro ran
    split at ran
    · rename_i same
      cases ran
      exact ⟨same,rfl⟩
    · cases ran
  · rintro ⟨rfl,rfl⟩
    rw [if_pos rfl]
    rfl

theorem walk_ran {rest : Chain} {mid : Plan} {result : Except Error Unit}
    (last : method.isTerminal = true → outermost = true) (unfiltered : method = .take → so.filter = none)
    (plans : Plans t so method source arguments rest mid)
    (walked : Ran (t.walk table false rest) mid result so') :
    Ran (t.walk table outermost (.call source method arguments)) so result so' := by
  obtain ⟨smaller,planned⟩ := plans.ran
  rw [walk,if_neg (by simpa using last)]
  refine (Ran.get so).bind ?_
  rw [if_neg (by simpa using unfiltered)]
  exact planned.bind walked

theorem walk_failed {e : Error} (last : method.isTerminal = true → outermost = true)
    (unfiltered : method = .take → so.filter = none)
    (failed : Ran (t.planCall method source method arguments) so (.error e) so') :
    Ran (t.walk table outermost (.call source method arguments)) so (.error e) so' := by
  rw [walk,if_neg (by simpa using last)]
  refine (Ran.get so).bind ?_
  rw [if_neg (by simpa using unfiltered)]
  exact failed.bind_failed

-- Before a call that filters only the table may stand, before one that limits
-- at most one filter. So what is left of a chain depends on what is planned.
theorem walk_filtered (ran : Ran (t.walk table false chain) so (.ok ()) so') (planned : so.filter ≠ none) :
    chain = .root table ∧ so' = so := by
  cases chain with
  | root found =>
    obtain ⟨rfl,same⟩ := walk_root.mp ran
    exact ⟨rfl,same⟩
  | call source method arguments =>
    obtain ⟨last,unfiltered,_,_,_,plans,_⟩ := walk_parts ran
    cases plans with
    | filter free _ => exact absurd free planned
    | take _ _ => exact absurd (unfiltered rfl) planned
    | bare _ | own _ _ | joined _ => exact absurd (last rfl) Bool.false_ne_true

theorem walk_limited (ran : Ran (t.walk table false chain) so (.ok ()) so')
    (unfiltered : so.filter = none) (planned : so.take ≠ none) :
    ∃ predicate, chain = (Chain.root table).filtered predicate ∧
      t.Filters predicate so'.filter ∧ so' = { so with filter := so'.filter } := by
  cases chain with
  | root found =>
    obtain ⟨rfl,rfl⟩ := walk_root.mp ran
    exact ⟨none,rfl,unfiltered ▸ .none,rfl⟩
  | call source method arguments =>
    obtain ⟨last,_,rest,mid,_,plans,walked⟩ := walk_parts ran
    cases plans with
    | filter _ written =>
      obtain ⟨rfl,rfl⟩ := walk_filtered walked (Option.some_ne_none _)
      exact ⟨some _,rfl,.some written,rfl⟩
    | take free _ => exact absurd free planned
    | bare _ | own _ _ | joined _ => exact absurd (last rfl) Bool.false_ne_true

theorem walk_fresh (ran : Ran (t.walk table false chain) so (.ok ()) so') (unfiltered : so.filter = none)
    (unlimited : so.take = none) :
    ∃ predicate limit, chain = ((Chain.root table).filtered predicate).limited limit ∧
      t.Carries predicate limit so.cardinality so' := by
  cases chain with
  | root found =>
    obtain ⟨rfl,rfl⟩ := walk_root.mp ran
    exact ⟨none,none,rfl,unfiltered ▸ .none,unlimited ▸ .none,rfl⟩
  | call source method arguments =>
    obtain ⟨last,_,rest,mid,_,plans,walked⟩ := walk_parts ran
    cases plans with
    | filter _ written =>
      obtain ⟨rfl,rfl⟩ := walk_filtered walked (Option.some_ne_none _)
      exact ⟨some _,none,rfl,.some written,unlimited ▸ .none,rfl⟩
    | take _ counted =>
      obtain ⟨predicate,rfl,filters,same⟩ := walk_limited walked unfiltered (Option.some_ne_none _)
      rw [same]
      exact ⟨predicate,some _,rfl,filters,.some (count_exact.mp counted),rfl⟩
    | bare _ | own _ _ | joined _ => exact absurd (last rfl) Bool.false_ne_true

theorem walk_asks (ran : Ran (t.walk table true chain) {} (.ok ()) so) :
    ∃ predicate limit c, chain.Asks table predicate limit c ∧ t.Carries predicate limit c so := by
  cases chain with
  | root found =>
    obtain ⟨rfl,rfl⟩ := walk_root.mp ran
    exact ⟨none,none,none,.calls none none none,.none,.none,rfl⟩
  | call source method arguments =>
    obtain ⟨_,unfiltered,rest,mid,_,plans,walked⟩ := walk_parts ran
    cases plans with
    | filter free written =>
      obtain ⟨rfl,rfl⟩ := walk_filtered walked (Option.some_ne_none _)
      exact ⟨some _,none,none,.calls (some _) none none,.some written,.none,rfl⟩
    | take free counted =>
      obtain ⟨predicate,rfl,filters,same⟩ := walk_limited walked rfl (Option.some_ne_none _)
      rw [same]
      exact ⟨predicate,some _,none,.calls predicate (some _) none,filters,.some (count_exact.mp counted),rfl⟩
    | bare apart =>
      obtain ⟨predicate,limit,rfl,carries⟩ := walk_fresh walked rfl rfl
      exact ⟨predicate,limit,some _,.calls predicate limit (some _),carries⟩
    | own apart written =>
      obtain ⟨rfl,rfl⟩ := walk_filtered walked (Option.some_ne_none _)
      exact ⟨some _,none,some _,.own _ _,.some written,.none,rfl⟩
    | joined written =>
      obtain ⟨rfl,rfl⟩ := walk_filtered walked (Option.some_ne_none _)
      exact ⟨some _,none,some _,.calls (some _) none (some _),.some written,.none,rfl⟩

theorem filtered_walk (filters : t.Filters predicate text) (unfiltered : so.filter = none) :
    Ran (t.walk table outermost ((Chain.root table).filtered predicate)) so (.ok ())
      { so with filter := text } := by
  cases filters with
  | none => exact walk_root.mpr ⟨rfl,by rw [← unfiltered]⟩
  | some written => exact walk_ran nofun nofun (.filter unfiltered written) (walk_root.mpr ⟨rfl,rfl⟩)

theorem limited_walk (filters : t.Filters predicate text) (counts : Option.Rel t.RowCount limit n)
    (unfiltered : so.filter = none) (unlimited : so.take = none) :
    Ran (t.walk table outermost (((Chain.root table).filtered predicate).limited limit)) so (.ok ())
      { so with filter := text, take := n } := by
  cases counts with
  | none =>
    rw [← unlimited]
    exact filtered_walk filters unfiltered
  | some counted =>
    exact walk_ran nofun (fun _ => unfiltered) (.take unlimited (count_exact.mpr counted))
      (filtered_walk filters unfiltered)

theorem asks_walk {c : Option Cardinality} (asks : chain.Asks table predicate limit c)
    (carries : t.Carries predicate limit c so) : Ran (t.walk table true chain) {} (.ok ()) so := by
  obtain ⟨filter,take,cardinality⟩ := so
  obtain ⟨filters,counts,same⟩ := carries
  cases same
  cases asks with
  | own p c =>
    cases filters with
    | some written =>
      cases counts with
      | none => exact walk_ran (fun _ => rfl) nofun (.own rfl written) (walk_root.mpr ⟨rfl,rfl⟩)
  | calls =>
    cases cardinality with
    | none => exact limited_walk filters counts rfl rfl
    | some c =>
      -- The cardinality method takes a filter that it is called on itself, and
      -- leaves it to the walk when a limit is between them.
      cases counts with
      | some counted =>
        exact walk_ran (fun _ => rfl) nofun (.bare rfl) (limited_walk filters (.some counted) rfl rfl)
      | none =>
        cases filters with
        | none => exact walk_ran (fun _ => rfl) nofun (.bare rfl) (walk_root.mpr ⟨rfl,rfl⟩)
        | some written => exact walk_ran (fun _ => rfl) nofun (.joined written) (walk_root.mpr ⟨rfl,rfl⟩)

theorem plan_walk : t.plan table chain = .ok so ↔ Ran (t.walk table true chain) {} (.ok ()) so := by
  unfold plan
  constructor
  · intro planned
    split at planned
    · rename_i walked
      cases planned
      exact walked
    · cases planned
  · intro walked
    rw [show (t.walk table true chain).run.run {} = (.ok (),so) from walked]

-- A cardinality method with a predicate is the same as one on a Where.
theorem plan_own {c : Cardinality} {p : Expr} :
    t.plan table (.call (.call source .filter [p]) (.cardinality c) []) = .ok so ↔
      t.plan table (.call source (.cardinality c) [p]) = .ok so := by
  rw [plan_walk,plan_walk]
  constructor
  · intro ran
    obtain ⟨_,_,rest,mid,_,plans,walked⟩ := walk_parts ran
    cases plans with
    | bare apart => cases apart
    | joined written =>
      obtain ⟨rfl,_⟩ := walk_filtered walked (Option.some_ne_none _)
      exact walk_ran (fun _ => rfl) nofun (.own rfl written) walked
  · intro ran
    obtain ⟨_,_,rest,mid,_,plans,walked⟩ := walk_parts ran
    cases plans with
    | own _ written => exact walk_ran (fun _ => rfl) nofun (.joined written) walked

theorem walk_own {c : Cardinality} {p : Expr} (apart : lastFilter? source = none) :
    ∃ result so', Ran (t.walk table true (.call (.call source .filter [p]) (.cardinality c) [])) so result so' ∧
      Ran (t.walk table true (.call source (.cardinality c) [p])) so result so' := by
  cases translated : t.filterText p with
  | ok text =>
    refine ⟨_,_,walk_ran (fun _ => rfl) nofun (.joined translated) rfl,?_⟩
    exact walk_ran (fun _ => rfl) nofun (.own apart translated) rfl
  | error e =>
    refine ⟨.error e,so,walk_failed (fun _ => rfl) nofun ?_,walk_failed (fun _ => rfl) nofun ?_⟩
    · refine Ran.bind_lift expect_self (Ran.bind_lift rfl ?_)
      rw [translated]
      rfl
    · refine Ran.bind_lift expect_self ?_
      rw [apart]
      refine Ran.bind_failed ?_
      rw [translated]
      rfl

-- Exactly the chains that filter, then limit, then count are planned, and the
-- plan is what they ask for. The two places of the predicate of a cardinality
-- method give the same plan, and on the table itself also the same error.
theorem plan_exact (t : Planner) (table : String) (chain : Chain) (so : Plan) :
    (t.plan table chain = .ok so ↔
      ∃ predicate limit c, chain.Asks table predicate limit c ∧ t.Carries predicate limit c so) ∧
    (∀ source c p,
      t.plan table (.call (.call source .filter [p]) (.cardinality c) []) = .ok so ↔
        t.plan table (.call source (.cardinality c) [p]) = .ok so) ∧
    ∀ found c p, t.plan table (.call (.call (.root found) .filter [p]) (.cardinality c) []) =
      t.plan table (.call (.root found) (.cardinality c) [p]) := by
  refine ⟨?_,fun _ _ _ => plan_own,?_⟩
  · rw [plan_walk]
    constructor
    · exact walk_asks
    · rintro ⟨predicate,limit,c,asks,carries⟩
      exact asks_walk asks carries
  · intro found c p
    have apart : lastFilter? (.root found) = none := rfl
    obtain ⟨result,so',joined,own⟩ := walk_own apart
    unfold plan
    rw [show _ = (result,so') from joined,show _ = (result,so') from own]

end Planner
end TypedTable
