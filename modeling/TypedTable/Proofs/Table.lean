import Mathlib
import TypedTable.Proofs.Expr.Translation
import TypedTable.Proofs.Memory
import TypedTable.Proofs.Query.Chain
import TypedTable.Table

namespace TypedTable
namespace Cardinality

variable {α : Type}

-- What a cardinality method answers on a sequence, said by its length.
def answer (c : Cardinality) (items : List α) : Except Error (Option α) :=
  match c with
  | .first => if items.length = 0 then .error (.invalidOperation .noElements) else .ok items.head?
  | .firstOrDefault => .ok items.head?
  | .single =>
    if items.length = 0 then .error (.invalidOperation .noElements)
    else if items.length = 1 then .ok items.head?
    else .error (.invalidOperation .manyElements)
  | .singleOrDefault =>
    if items.length ≤ 1 then .ok items.head? else .error (.invalidOperation .manyElements)

end Cardinality

theorem Planner.Planned.reads {t : Planner} {chain : Chain} {so : Plan} (planned : Planned t chain {} so)
    (exact : ∀ e ∈ chain.predicates, e.IsExact t.env t.names) :
    ∃ filter, Reads so.filter filter ∧
      ∀ row, filter.all (·.accepts row) = chain.accepts t.env t.names row := by
  obtain ⟨texts,written,filter⟩ := planned.filter
  have only : so.filter.toList = texts := filter.trans (List.append_nil texts)
  subst only
  unfold Chain.accepts
  cases given : so.filter with
  | none =>
    rw [given] at written
    rw [mapM_nil_parts written]
    exact ⟨none,.none,fun row => rfl⟩
  | some text =>
    rw [given] at written
    obtain ⟨e,rest,predicates,translated,more⟩ := mapM_cons_parts written
    cases mapM_nil_parts more
    rw [predicates] at exact ⊢
    obtain ⟨f,spells,means⟩ := Expr.filterText_spells (exact e List.mem_cons_self) translated
    refine ⟨some f,.some spells.ofText?,fun row => ?_⟩
    rw [List.all_cons,List.all_nil,Bool.and_true,← means row]
    rfl

namespace Table

variable {ρ : Type} {t : Table ρ Memory} {clock : Clock} {env : Environment} {chain : Chain} {so : Plan}
  {m : Memory} {s : Storage} {records : List ρ}

theorem ran_ask {α : Type} {asked : StoreM Memory α} {result : Except Failure α} {m' : Memory}
    (ran : Ran asked m result m') : Ran (ask asked) m (result.mapError .storage) m' := by
  unfold Ran at *
  change (Except.mapError Error.storage <$> asked.run).run m = _
  rw [StateT.run_map,ran]
  rfl

-- The rows that the filter accepts are decoded, or as many as are asked for.
theorem ran_fetch_rows {filter : Option Filter} (store : t.backend = Memory.backend clock)
    (paged : 1 ≤ t.config.pageSize) (found : m.tables[t.name]? = some s) (reads : Reads so.filter filter) :
    Ran (t.fetch so) m
      ((limited (request so).take (Storage.matching filter s.rows)).mapM t.type.toRecord) m := by
  have reads' : Reads (request so).filter filter := reads
  have queried : Ran ((Memory.backend clock).query t.name (request so) t.config.pageSize) m _ m :=
    Memory.ran_query found reads' paged
  refine Ran.bind (ran_ask (store ▸ queried)) ?_
  generalize List.mapM t.type.toRecord _ = decoded
  cases decoded with
  | error => rfl
  | ok => rfl

def ticks : Clock := fun n => ⟨.epoch,Numeral.ofNat n⟩

def country (continent name : String) (population : Int32) : Bag :=
  ((({} : Bag).insert Column.partitionKey (.string continent)).insert Column.rowKey
    (.string name)).insert "Population" (.int32 population)

def aboveLeast : Expr :=
  .predicate (.compare (.captured "least" (.variable "least")) .lt (.field "Population"))

-- Where(p => least < p.Population).Take(2).Single()
def large : Chain :=
  (((Chain.root "countries").call .filter [aboveLeast]).call .take [.constant (.int64 2)]).call
    (.cardinality .single) []

end Table
end TypedTable
