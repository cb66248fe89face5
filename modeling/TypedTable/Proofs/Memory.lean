import TypedTable.Memory
import TypedTable.Proofs.Except
import TypedTable.Proofs.Storage.Rows

namespace TypedTable

def limited {α : Type} (limit : Option Nat) (items : List α) : List α :=
  match limit with
  | some n => items.take n
  | none => items

inductive Reads : Option String → Option Filter → Prop where
  | none : Reads none none
  | some {text : String} {f : Filter} (read : Filter.ofText? text = .ok f) : Reads (some text) (some f)

namespace Memory

variable {clock : Clock} {m : Memory} {name : String} {s : Storage} {request : Request}
  {filter : Option Filter}

theorem table_of_found (found : m.tables[name]? = some s) : m.table name = .ok s := by
  rw [table,found]

-- A write is refused and changes nothing, or the table has it done and draws
-- the next stamp.
inductive Writes (clock : Clock) (m : Memory) (name : String) (kind : WriteKind) (row : Bag) :
    Except Refusal Bag × Memory → Prop where
  | refused (refusal : Refusal) : Writes clock m name kind row (.error refusal,m)
  | done {s s' : Storage} {answer : Bag} (found : m.tables[name]? = some s)
      (wrote : s.write kind (clock m.issued) row = .ok (answer,s')) :
      Writes clock m name kind row (.ok answer,
        { tables := m.tables.insert name s',issued := m.issued + if usesStamp kind then 1 else 0 })

theorem write_writes (clock : Clock) (m : Memory) (name : String) (kind : WriteKind) (row : Bag) :
    Writes clock m name kind row (m.write clock name kind row) := by
  unfold write table
  cases found : m.tables[name]? with
  | none => exact .refused _
  | some s =>
    dsimp only
    cases wrote : s.write kind (clock m.issued) row with
    | error refusal => exact .refused refusal
    | ok result => exact .done found wrote

theorem write_done {kind : WriteKind} {row answer : Bag} {s' : Storage} (found : m.tables[name]? = some s)
    (wrote : s.write kind (clock m.issued) row = .ok (answer,s')) :
    m.write clock name kind row = (.ok answer,
      { tables := m.tables.insert name s',issued := m.issued + if usesStamp kind then 1 else 0 }) := by
  unfold write
  rw [table_of_found found]
  dsimp only
  rw [wrote]

theorem segment_scan (found : m.tables[name]? = some s) (reads : Reads request.filter filter)
    (limit : Nat) (start : Option Position) :
    m.segment name request limit start = .ok (s.scan filter limit start) := by
  rw [segment,table_of_found found]
  generalize request.filter = text at reads
  cases reads with
  | none => rfl
  | some read => dsimp only; rw [read]

theorem ran_segment (found : m.tables[name]? = some s) (reads : Reads request.filter filter)
    (limit : Nat) (start : Option Position) :
    Ran ((backend clock).segment name request limit start) m (.ok (s.scan filter limit start)) m := by
  refine Ran.bind (Ran.get m) ?_
  rw [segment_scan found reads]
  exact Ran.pure _ m

theorem collect_limited {pageSize patience : Nat} {collected : List Bag} {start : Option Position}
    (found : m.tables[name]? = some s) (reads : Reads request.filter filter) (paged : 1 ≤ pageSize)
    (patient : (s.matchesFrom filter start).length < patience) :
    ∃ rows, Ran ((backend clock).collect name request pageSize patience collected start) m (.ok rows) m ∧
      limited request.take rows = limited request.take (collected ++ s.matchesFrom filter start) := by
  induction patience generalizing collected start with
  | zero => omega
  | succ patience ih =>
    rw [Backend.collect]
    by_cases enough : Backend.remaining request pageSize collected = 0
    · rw [if_pos enough]
      refine ⟨collected,Ran.pure _ m,?_⟩
      unfold Backend.remaining at enough
      split at enough
      · rename_i n bounded
        rw [bounded]
        exact (List.take_append_of_le_length (by omega)).symm
      · omega
    · rw [if_neg enough]
      obtain ⟨limit,asked,least⟩ : ∃ limit,
          limit = min (Backend.remaining request pageSize collected) pageSize ∧ 1 ≤ limit :=
        ⟨_,rfl,by omega⟩
      dsimp only
      rw [← asked]
      have ran : Ran ((backend clock).segment name request limit start) m _ m :=
        ran_segment found reads limit start
      rcases s.scan_advances filter limit start with ⟨last,rest⟩ | ⟨x,next,full,rest⟩
      · refine ⟨collected ++ s.matchesFrom filter start,Ran.bind ran ?_,rfl⟩
        rw [last,rest]
        exact Ran.pure _ m
      · -- A full segment has at least one row, so fewer are left.
        have smaller : (s.matchesFrom filter (some x)).length < patience := by
          rw [rest,List.length_append] at patient
          omega
        obtain ⟨rows,collects,equal⟩ := @ih (collected ++ (s.scan filter limit start).rows) (some x) smaller
        refine ⟨rows,Ran.bind ran ?_,?_⟩
        · rw [next]
          exact collects
        · rw [equal,rest,List.append_assoc]

-- A query has the matching rows in the order of their keys, as many as it asks
-- for, and changes nothing.
theorem ran_query {pageSize : Nat} (found : m.tables[name]? = some s) (reads : Reads request.filter filter)
    (paged : 1 ≤ pageSize) : Ran ((backend clock).query name request pageSize) m
      (.ok (limited request.take (Storage.matching filter s.rows))) m := by
  have patient : (s.matchesFrom filter none).length < (backend clock).patience m name := by
    have bound := s.length_matchesFrom filter none
    change _ < patience m name
    rw [patience,table_of_found found]
    exact Nat.lt_succ_of_le bound
  obtain ⟨rows,collects,equal⟩ :=
    @collect_limited clock m name s request filter pageSize _ [] none found reads paged patient
  have all : s.matchesFrom filter none = Storage.matching filter s.rows := by
    rw [Storage.matchesFrom,Storage.rowsFrom_none]
  rw [List.nil_append,all] at equal
  rw [← equal]
  refine Ran.bind (Ran.get m) (Ran.bind collects ?_)
  cases request.take with
  | none => exact Ran.pure _ m
  | some n => exact Ran.pure _ m

end Memory
end TypedTable
