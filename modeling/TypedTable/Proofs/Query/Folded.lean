import TypedTable.Proofs.Expr.Folded
import TypedTable.Proofs.Query.Accepted

namespace TypedTable

namespace Chain

-- The same calls on the same table, with arguments that are related one by one.
inductive Alike (related : Expr → Expr → Prop) : Chain → Chain → Prop where
  | root (table : String) : Alike related (.root table) (.root table)
  | call {source source' : Chain} {arguments arguments' : List Expr} (method : Method)
      (sources : Alike related source source') (each : List.Forall₂ related arguments arguments') :
      Alike related (.call source method arguments) (.call source' method arguments')

variable {related : Expr → Expr → Prop} {chain chain' : Chain}

theorem Alike.flip (alike : Alike related chain chain') : Alike (flip related) chain' chain := by
  induction alike with
  | root table => exact .root table
  | call method _ each ih => exact .call method ih each.flip

-- Some parts of the arguments are replaced by the values that they have at
-- first, in calls of any kind.
def Folds (env later : Environment) : Chain → Chain → Prop := Alike (Expr.Folds env later)

end Chain

namespace Planner

-- Arguments that one planner takes for what the other one takes the related
-- argument for.
structure Takes (t t' : Planner) (related : Expr → Expr → Prop) : Prop where
  filter : ∀ p p' text, related p p' → t.filterText p = .ok text → t'.filterText p' = .ok text
  count : ∀ p p' n, related p p' → t.count p = .ok n → t'.count p' = .ok n

variable {t t' : Planner} {related : Expr → Expr → Prop} {source source' chain chain' rest : Chain}
  {method : Method} {arguments arguments' : List Expr} {so so' mid : Plan} {table : String} {outermost : Bool}

theorem lastFilter_alike (sources : Chain.Alike related source source') (apart : lastFilter? source = none) :
    lastFilter? source' = none := by
  cases sources with
  | root => rfl
  | call method =>
    cases method with
    | filter => cases apart
    | take | cardinality => rfl

theorem Plans.alike (takes : Takes t t' related) (sources : Chain.Alike related source source')
    (each : List.Forall₂ related arguments arguments') (plans : Plans t so method source arguments rest mid) :
    ∃ rest', Chain.Alike related rest rest' ∧ Plans t' so method source' arguments' rest' mid := by
  cases plans with
  | filter free written =>
    cases each with
    | cons one others =>
      cases others
      exact ⟨_,sources,.filter free (takes.filter _ _ _ one written)⟩
  | take free counted =>
    cases each with
    | cons one others =>
      cases others
      exact ⟨_,sources,.take free (takes.count _ _ _ one counted)⟩
  | bare apart =>
    cases each
    exact ⟨_,sources,.bare (lastFilter_alike sources apart)⟩
  | own apart written =>
    cases each with
    | cons one others =>
      cases others
      exact ⟨_,sources,.own (lastFilter_alike sources apart) (takes.filter _ _ _ one written)⟩
  | joined written =>
    cases each
    cases sources with
    | call _ inner predicates =>
      cases predicates with
      | cons one others =>
        cases others
        exact ⟨_,inner,.joined (takes.filter _ _ _ one written)⟩

theorem walk_alike (takes : Takes t t' related) (alike : Chain.Alike related chain chain')
    (ran : Ran (t.walk table outermost chain) so (.ok ()) so') :
    Ran (t'.walk table outermost chain') so (.ok ()) so' := by
  -- A call may plan more than itself, so the induction is on the size of the
  -- chain and not on the chain.
  induction size : chain.size using Nat.strongRecOn generalizing chain chain' outermost so with
  | ind n ih =>
    cases alike with
    | root found => exact walk_root.mpr (walk_root.mp ran)
    | call method sources each =>
      obtain ⟨last,unfiltered,rest,mid,smaller,plans,walked⟩ := walk_parts ran
      obtain ⟨rest',others,plans'⟩ := plans.alike takes sources each
      exact walk_ran last unfiltered plans' (ih rest.size (size ▸ smaller) others walked rfl)

theorem plan_alike (takes : Takes t t' related) (alike : Chain.Alike related chain chain')
    (planned : t.plan table chain = .ok so) : t'.plan table chain' = .ok so :=
  plan_walk.mpr (walk_alike takes alike (plan_walk.mp planned))

theorem rowCount_folded {env later : Environment} {names : NameTable} {maxTake : Option Nat} {e e' : Expr} {n : Nat}
    (folds : e.Folds env later e') :
    RowCount ⟨env,names,maxTake⟩ e n ↔ RowCount ⟨later,names,maxTake⟩ e' n := by
  have closed := folds.closedValue?_eq
  constructor
  · rintro ⟨value,bounded,allowed⟩
    exact ⟨closed ▸ value,bounded,allowed⟩
  · rintro ⟨value,bounded,allowed⟩
    exact ⟨closed ▸ value,bounded,allowed⟩

theorem takes_folded {env later : Environment} {names : NameTable} {maxTake : Option Nat} :
    Takes ⟨env,names,maxTake⟩ ⟨later,names,maxTake⟩ (Expr.Folds env later) ∧
      Takes ⟨later,names,maxTake⟩ ⟨env,names,maxTake⟩ (flip (Expr.Folds env later)) := by
  refine ⟨⟨?_,?_⟩,?_,?_⟩
  · intro p p' text folds written
    exact (folds.filterText_agree text).mp written
  · intro p p' n folds counted
    exact count_exact.mpr ((rowCount_folded folds).mp (count_exact.mp counted))
  · intro p p' text folds written
    exact (folds.filterText_agree text).mpr written
  · intro p p' n folds counted
    exact count_exact.mpr ((rowCount_folded folds).mpr (count_exact.mp counted))

-- Whatever is folded early, in a branch that decides nothing too: the plan
-- of a chain is the one that it has before, whether there is one, its text, its
-- count and its cardinality.
theorem plan_folded {env later : Environment} {chain chain' : Chain} (folds : chain.Folds env later chain')
    (names : NameTable) (maxTake : Option Nat) (table : String) (so : Plan) :
    plan ⟨later,names,maxTake⟩ table chain' = .ok so ↔ plan ⟨env,names,maxTake⟩ table chain = .ok so := by
  constructor
  · exact plan_alike takes_folded.2 folds.flip
  · exact plan_alike takes_folded.1 folds

-- The branch behind the constant decides nothing: its text is too short for
-- what is called on it.
def adults (least text count : Expr) : Chain :=
  .call (.call (.root "people") .filter [.predicate (.logical .and (.compare (.field "Age") .ge least)
    (.logical .or (.constant (.boolean true))
      (.compare (.call text (.substring 7 none)) .eq (.constant (.string "x")))))]) .take [count]

def adultsCaptured : Chain := adults (.captured "least" (.variable "least")) (.captured "text" (.variable "text"))
  (.captured "count" (.variable "count"))

def adultsFolded : Chain := adults (.constant (.int32 18)) (.constant (.string "abc")) (.constant (.int64 5))

def captures : Environment := fun name =>
  if name = "least" then .int32 18 else if name = "count" then .int64 5 else .string "abc"

def noCaptures : Environment := fun _ => .boolean false

-- The variables have changed, but none is left in the chain.
theorem plan_folded_changed : adultsCaptured.Folds captures noCaptures adultsFolded ∧
    plan ⟨noCaptures,∅,none⟩ "people" adultsFolded = .ok ⟨some "Age ge 18 and true",some 5,none⟩ := by
  have folds : adultsCaptured.Folds captures noCaptures adultsFolded := by
    refine .call .take (.call .filter (.root "people") (.cons ?_ .nil)) (.cons (.value rfl) .nil)
    refine .lambda "p" (.logical .and (.compare .ge (.member "Age" (.parameter "p")) (.value rfl)) ?_)
    exact .logical .or (.constant _) (.compare .eq (.call _ (.value rfl)) (.constant _))
  have planned : plan ⟨captures,∅,none⟩ "people" adultsCaptured =
      .ok ⟨some "Age ge 18 and true",some 5,none⟩ := by
    have counts : RowCount ⟨captures,∅,none⟩ (.captured "count" (.variable "count")) 5 :=
      ⟨⟨.int64 5,rfl,.int64 rfl⟩,by decide,nofun⟩
    exact plan_walk.mpr (limited_walk (.some rfl) (.some counts) rfl rfl)
  exact ⟨folds,(plan_folded folds ∅ none "people" _).mpr planned⟩

end Planner
end TypedTable
