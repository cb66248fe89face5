import TypedTable.Proofs.Query.Accepted

namespace TypedTable
namespace Planner

-- Where a cardinality method has its predicate from: its own argument, or the
-- Where that it is called on directly. The walk goes on before that call.
inductive Supplies : Chain → List Expr → Expr → Chain → Prop where
  | own {source : Chain} {p : Expr} : Supplies source [p] p source
  | joined {inner : Chain} {p : Expr} : Supplies (.call inner .filter [p]) [] p inner

-- What a call has done to the plan: nothing but its own part is another one.
def OwnPart (t : Planner) (so : Plan) (source : Chain) (arguments : List Expr) (next : Chain) (so' : Plan) :
    Method → Prop
  | .filter => next = source ∧ so' = { so with filter := so'.filter }
  | .take => next = source ∧ so' = { so with take := so'.take }
  | .cardinality c => so' = { so with filter := so'.filter, cardinality := some c } ∧
      ((arguments = [] ∧ (∀ inner given, source ≠ .call inner .filter given) ∧ next = source ∧
          so'.filter = so.filter) ∨
        ∃ p text, Supplies source arguments p next ∧ t.filterText p = .ok text ∧ so'.filter = some text)

variable {t : Planner} {expected method : Method} {source rest : Chain} {arguments : List Expr} {so so' : Plan}

theorem lastFilter?_none (apart : lastFilter? source = none) (inner : Chain) (given : List Expr) :
    source ≠ .call inner .filter given := by
  rintro rfl
  cases apart

theorem Plans.ownPart (plans : Plans t so method source arguments rest so') :
    t.OwnPart so source arguments rest so' method := by
  cases plans with
  | filter => exact ⟨rfl,rfl⟩
  | take => exact ⟨rfl,rfl⟩
  | bare apart => exact ⟨rfl,.inl ⟨rfl,lastFilter?_none apart,rfl,rfl⟩⟩
  | own _ written => exact ⟨rfl,.inr ⟨_,_,.own,written,rfl⟩⟩
  | joined written => exact ⟨rfl,.inr ⟨_,_,.joined,written,rfl⟩⟩

-- All checks of a call come before it writes, so a call that fails has written
-- nothing.
theorem planFilter_atomic : Atomic (t.planFilter source method arguments) := by
  refine .lift_bind fun _ => .lift_bind fun p => .get_bind fun so => ?_
  split
  · exact .throw_bind _ _
  · exact .lift_bind fun text => .of_ran fun s => ⟨_,_,rfl⟩

theorem planTake_atomic : Atomic (t.planTake source method arguments) := by
  refine .lift_bind fun _ => .lift_bind fun argument => .lift_bind fun n => .get_bind fun so => ?_
  split
  · exact .throw_bind _ _
  · exact .of_ran fun s => ⟨_,_,rfl⟩

-- A cardinality method writes in two places, the filter first; between the two
-- nothing fails.
theorem planCardinality_atomic (c : Cardinality) : Atomic (t.planCardinality c source method arguments) := by
  refine .lift_bind fun _ => ?_
  split
  · exact .lift_bind fun p => .lift_bind fun text => .of_ran fun s => ⟨_,_,rfl⟩
  · exact .of_ran fun s => ⟨_,_,rfl⟩
  · exact .throw_bind _ _
  · exact .lift_bind fun text => .of_ran fun s => ⟨_,_,rfl⟩
  · exact .throw_bind _ _

theorem planCall_atomic : Atomic (t.planCall expected source method arguments) := by
  cases expected with
  | filter => exact planFilter_atomic
  | take => exact planTake_atomic
  | cardinality c => exact planCardinality_atomic c

theorem planCall_other (other : method ≠ expected) :
    Ran (t.planCall expected source method arguments) so (.error (.outOfRange (.otherMethod expected method))) so := by
  have refused : expect expected method = .error (.outOfRange (.otherMethod expected method)) := if_neg other
  cases expected with
  | filter => exact Ran.bind_failed (Ran.lifted refused so)
  | take => exact Ran.bind_failed (Ran.lifted refused so)
  | cardinality c => exact Ran.bind_failed (Ran.lifted refused so)

theorem planCall_exact : (∃ smaller, Ran (t.planCall expected source method arguments) so (.ok ⟨rest,smaller⟩) so') ↔
    method = expected ∧ Plans t so expected source arguments rest so' := by
  constructor
  · rintro ⟨smaller,ran⟩
    by_cases same : method = expected
    · subst same
      exact ⟨rfl,planCall_plans ran⟩
    · cases (ran.unique (planCall_other same)).1
  · rintro ⟨rfl,plans⟩
    exact plans.ran

-- A call that fails leaves the plan as it was, and so does one of another method
-- whatever its arguments are. A call is planned in exactly the cases of Plans,
-- and then it has changed its own part of the plan only.
theorem planCall_own_part (t : Planner) (expected method : Method) (source : Chain) (arguments : List Expr)
    (so : Plan) :
    (∀ problem so', Ran (t.planCall expected source method arguments) so (.error problem) so' → so' = so) ∧
    (method ≠ expected → Ran (t.planCall expected source method arguments) so
      (.error (.outOfRange (.otherMethod expected method))) so) ∧
    (OutOfRange.otherMethod expected method).parameter = "method" ∧
    (∀ rest so', (∃ smaller, Ran (t.planCall expected source method arguments) so (.ok ⟨rest,smaller⟩) so') ↔
      method = expected ∧ Plans t so expected source arguments rest so') ∧
    ∀ rest so', Ran (t.planCall expected source method arguments) so (.ok rest) so' →
      t.OwnPart so source arguments rest.val so' expected := by
  refine ⟨planCall_atomic so,planCall_other,rfl,fun _ _ => planCall_exact,fun rest so' ran => ?_⟩
  obtain ⟨rfl,plans⟩ := planCall_exact.mp ⟨rest.property,ran⟩
  exact plans.ownPart

end Planner
end TypedTable
