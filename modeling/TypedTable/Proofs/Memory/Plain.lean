import Std.Data.ExtHashMap
import TypedTable.Proofs.Memory

namespace TypedTable
namespace Memory

-- What a client asks of the tables.
inductive Action where
  | create (table : String)
  | drop (table : String)
  | write (table : String) (kind : WriteKind) (row : Bag)
  | get (table partition row : String)

def Action.table : Action → String
  | .create table => table
  | .drop table => table
  | .write table _ _ => table
  | .get table _ _ => table

inductive Answer where
  | created (isNew : Bool)
  | dropped (existed : Bool)
  | row (row : Bag)
  | found (row : Option Bag)
  | refused (refusal : Refusal)

def act (m : Memory) (clock : Clock) : Action → Answer × Memory
  | .create table => (.created (m.create table).1,(m.create table).2)
  | .drop table => (.dropped (m.drop table).1,(m.drop table).2)
  | .write table kind row =>
    match m.write clock table kind row with
    | (.ok stored,m') => (.row stored,m')
    | (.error refusal,m') => (.refused refusal,m')
  | .get table partition row =>
    match m.table table with
    | .ok s => (.found (s.get? partition row),m)
    | .error refusal => (.refused refusal,m)

def answers (m : Memory) (clock : Clock) : List Action → List Answer
  | [] => []
  | action :: rest => (m.act clock action).1 :: (m.act clock action).2.answers clock rest

end Memory

namespace Plain

-- The rows of one table, by partition key and row key. There are no partitions.
abbrev Rows := Std.ExtHashMap (String × String) Bag

-- The keys of a row. The partition key is missed first.
def keys (row : Bag) : Except Refusal (String × String) :=
  match row[Column.partitionKey]?,row[Column.rowKey]? with
  | some (.string partition),some (.string row) => .ok (partition,row)
  | some (.string _),_ => .error (.missingKey Column.rowKey)
  | _,_ => .error (.missingKey Column.partitionKey)

-- The ETag of a request that stands against a stored row: a string that is
-- neither * nor the ETag of the row.
def opposing? (request stored : Bag) : Option String :=
  match request[Column.etag]? with
  | some (.string etag) =>
    if etag = "*" ∨ stored[Column.etag]? = some (.string etag) then none else some etag
  | _ => none

-- The stored row that a request may replace or delete.
def Rows.allowed (rows : Rows) (request : Bag) (key : String × String) : Except Refusal Bag :=
  match rows[key]? with
  | none => .error (.notFound key.1 key.2)
  | some stored =>
    match opposing? request stored with
    | none => .ok stored
    | some etag => .error (.preconditionFailed key.1 key.2 etag)

-- What a request does on one table. A row is stored with the time and the ETag
-- of its stamp, whatever the request has in these columns.
def Rows.write (rows : Rows) (kind : WriteKind) (stamp : Stamp) (row : Bag) :
    Except Refusal (Bag × Rows) :=
  match keys row with
  | .error refusal => .error refusal
  | .ok key =>
    let stored := (row.insert Column.timestamp (.dateTime stamp.time)).insert Column.etag (.string stamp.etag)
    match kind with
    | .insert =>
      if rows.contains key then .error (.conflict key.1 key.2) else .ok (stored,rows.insert key stored)
    | .replace => (rows.allowed row key).map fun _ => (stored,rows.insert key stored)
    | .insertOrReplace => .ok (stored,rows.insert key stored)
    | .delete => (rows.allowed row key).map fun old => (old,rows.erase key)

-- Named tables, and how many stamps have been drawn. Only what stores a row
-- draws a stamp.
structure Tables where
  tables : Std.ExtTreeMap String Rows := ∅
  drawn : Nat := 0

def Tables.act (w : Tables) (clock : Clock) : Memory.Action → Memory.Answer × Tables
  | .create table =>
    match w.tables[table]? with
    | some _ => (.created false,w)
    | none => (.created true,{ w with tables := w.tables.insert table ∅ })
  | .drop table => (.dropped w.tables[table]?.isSome,{ w with tables := w.tables.erase table })
  | .write table kind row =>
    match w.tables[table]? with
    | none => (.refused (.tableNotFound table),w)
    | some rows =>
      match rows.write kind (clock w.drawn) row with
      | .error refusal => (.refused refusal,w)
      | .ok (answer,rows') =>
        (.row answer,
          { tables := w.tables.insert table rows',drawn := if kind = .delete then w.drawn else w.drawn + 1 })
  | .get table partition row =>
    match w.tables[table]? with
    | none => (.refused (.tableNotFound table),w)
    | some rows => (.found rows[(partition,row)]?,w)

def Tables.answers (w : Tables) (clock : Clock) : List Memory.Action → List Memory.Answer
  | [] => []
  | action :: rest => (w.act clock action).1 :: (w.act clock action).2.answers clock rest

end Plain

namespace Storage

variable {s : Storage} {rows : Plain.Rows} {stamp : Stamp} {row : Bag}

-- A storage holds the rows of a plain table, wherever its partitions put them.
def Holds (s : Storage) (rows : Plain.Rows) : Prop := ∀ p r, s.get? p r = rows[(p,r)]?

theorem holds_empty : Holds {} ∅ := by
  intro p r
  rw [Std.ExtHashMap.getElem?_empty]
  rfl

theorem Holds.put (holds : s.Holds rows) (p r : String) (bag : Bag) :
    (s.put p r bag).Holds (rows.insert (p,r) bag) := by
  intro p' r'
  rw [get?_put,Std.ExtHashMap.getElem?_insert,holds p' r']
  simp only [beq_iff_eq,Prod.mk.injEq]

theorem Holds.remove (holds : s.Holds rows) (p r : String) :
    (s.remove p r).Holds (rows.erase (p,r)) := by
  intro p' r'
  rw [get?_remove,Std.ExtHashMap.getElem?_erase,holds p' r']
  simp only [beq_iff_eq,Prod.mk.injEq]

theorem keys_plain (row : Bag) : keys row = Plain.keys row := by
  unfold keys key Plain.keys Bag.string?
  cases row[Column.partitionKey]? with
  | none => rfl
  | some partition =>
    cases partition with
    | string p =>
      cases row[Column.rowKey]? with
      | none => rfl
      | some value => cases value <;> rfl
    | _ => rfl

theorem Holds.current (holds : s.Holds rows) (request : Bag) (p r : String) :
    s.current request p r = rows.allowed request (p,r) := by
  unfold Storage.current Plain.Rows.allowed Plain.opposing? etagAllows Bag.string?
  rw [holds p r]
  cases rows[(p,r)]? with
  | none => rfl
  | some stored =>
    cases request[Column.etag]? with
    | none => rfl
    | some value =>
      cases value with
      | string sent =>
        have same : stored[Column.etag]?.bind Value.string? = some sent ↔
            stored[Column.etag]? = some (.string sent) := by
          cases stored[Column.etag]? with
          | none => simp
          | some value => cases value <;> simp [Value.string?]
        by_cases allowed : sent = "*" ∨ stored[Column.etag]? = some (.string sent)
        · simp [Value.string?,anyEtag,same,allowed]
        · simp [Value.string?,anyEtag,same,allowed]
      | _ => rfl

theorem write_unkeyed {kind : WriteKind} {refusal : Refusal} (unkeyed : keys row = .error refusal) :
    s.write kind stamp row = .error refusal := by
  cases kind with
  | insert => rw [write,insert,unkeyed]; rfl
  | replace => rw [write,replace,unkeyed]; rfl
  | insertOrReplace => rw [write,upsert,unkeyed]; rfl
  | delete => rw [write,delete,unkeyed]; rfl

-- Both refuse with the same refusal, or both answer with the same row and hold
-- the same rows afterwards.
inductive Agrees : Except Refusal (Bag × Storage) → Except Refusal (Bag × Plain.Rows) → Prop where
  | refused (refusal : Refusal) : Agrees (.error refusal) (.error refusal)
  | done {s : Storage} {rows : Plain.Rows} (answer : Bag) (holds : s.Holds rows) :
      Agrees (.ok (answer,s)) (.ok (answer,rows))

theorem Holds.write (holds : s.Holds rows) (kind : WriteKind) (stamp : Stamp) (row : Bag) :
    Agrees (s.write kind stamp row) (rows.write kind stamp row) := by
  unfold Plain.Rows.write
  cases keyed : keys row with
  | error refusal =>
    rw [write_unkeyed keyed,← keys_plain,keyed]
    exact .refused refusal
  | ok key =>
    obtain ⟨p,r⟩ := key
    rw [← keys_plain,keyed]
    dsimp only
    cases kind with
    | insert =>
      rw [Storage.write,Std.ExtHashMap.contains_eq_isSome_getElem?,← holds p r]
      cases found : s.get? p r with
      | none => rw [insert_free keyed found]; exact .done _ (holds.put p r _)
      | some old => rw [insert_taken keyed found]; exact .refused _
    | replace =>
      rw [Storage.write,replace,keyed]
      change Agrees (s.current row p r >>= _) _
      rw [holds.current]
      cases rows.allowed row (p,r) with
      | error refusal => exact .refused refusal
      | ok old => exact .done _ (holds.put p r _)
    | insertOrReplace =>
      rw [Storage.write,upsert,keyed]
      exact .done _ (holds.put p r _)
    | delete =>
      rw [Storage.write,delete,keyed]
      change Agrees (s.current row p r >>= _) _
      rw [holds.current]
      cases rows.allowed row (p,r) with
      | error refusal => exact .refused refusal
      | ok old => exact .done old (holds.remove p r)

end Storage

namespace Memory

variable {clock : Clock} {m : Memory} {w : Plain.Tables}

-- The same tables exist, each with the same rows, and as many stamps have been
-- drawn.
structure Simulates (m : Memory) (w : Plain.Tables) : Prop where
  drawn : m.issued = w.drawn
  tables : ∀ name : String, Option.Rel Storage.Holds m.tables[name]? w.tables[name]?

theorem simulates_empty : Simulates {} {} := by
  refine ⟨rfl,fun name => ?_⟩
  simp only [Std.ExtTreeMap.getElem?_empty]
  exact .none

theorem Simulates.insert {s : Storage} {rows : Plain.Rows} (same : m.Simulates w) (table : String)
    (holds : s.Holds rows) (name : String) :
    Option.Rel Storage.Holds (m.tables.insert table s)[name]? (w.tables.insert table rows)[name]? := by
  rw [Std.ExtTreeMap.getElem?_insert,Std.ExtTreeMap.getElem?_insert]
  split
  · exact .some holds
  · exact same.tables name

theorem Simulates.erase (same : m.Simulates w) (table name : String) :
    Option.Rel Storage.Holds (m.tables.erase table)[name]? (w.tables.erase table)[name]? := by
  rw [Std.ExtTreeMap.getElem?_erase,Std.ExtTreeMap.getElem?_erase]
  split
  · exact .none
  · exact same.tables name

theorem Simulates.act (same : m.Simulates w) (clock : Clock) (action : Action) :
    (m.act clock action).1 = (w.act clock action).1 ∧
      (m.act clock action).2.Simulates (w.act clock action).2 := by
  cases action with
  | create table =>
    have here := same.tables table
    unfold Memory.act Plain.Tables.act create
    dsimp only
    rw [Std.ExtTreeMap.contains_eq_isSome_getElem?]
    generalize m.tables[table]? = old,w.tables[table]? = old' at here
    cases here with
    | none => exact ⟨rfl,same.drawn,same.insert table Storage.holds_empty⟩
    | some => exact ⟨rfl,same⟩
  | drop table =>
    have here := same.tables table
    unfold Memory.act Plain.Tables.act drop
    dsimp only
    rw [Std.ExtTreeMap.contains_eq_isSome_getElem?]
    refine ⟨?_,same.drawn,same.erase table⟩
    generalize m.tables[table]? = old,w.tables[table]? = old' at here
    cases here <;> rfl
  | write table kind row =>
    have here := same.tables table
    unfold Memory.act Plain.Tables.act Memory.write Memory.table
    dsimp only
    generalize m.tables[table]? = old,w.tables[table]? = old' at here
    cases here with
    | none => exact ⟨rfl,same⟩
    | some holds =>
      have agrees := holds.write kind (clock w.drawn) row
      dsimp only
      rw [same.drawn]
      generalize Storage.write _ kind _ row = done,Plain.Rows.write _ kind _ row = done' at agrees
      cases agrees with
      | refused refusal => exact ⟨rfl,same⟩
      | done answer holds =>
        refine ⟨rfl,?_,same.insert table holds⟩
        cases kind <;> rfl
  | get table p r =>
    have here := same.tables table
    unfold Memory.act Plain.Tables.act Memory.table
    dsimp only
    generalize m.tables[table]? = old,w.tables[table]? = old' at here
    cases here with
    | none => exact ⟨rfl,same⟩
    | some holds => exact ⟨congrArg Answer.found (holds p r),same⟩

theorem Simulates.answers (same : m.Simulates w) (clock : Clock) (actions : List Action) :
    m.answers clock actions = w.answers clock actions := by
  induction actions generalizing m w with
  | nil => rfl
  | cons action rest ih =>
    obtain ⟨equal,next⟩ := same.act clock action
    rw [Memory.answers,Plain.Tables.answers,equal,ih next]

theorem act_refused {action : Action} {refusal : Refusal}
    (refused : (m.act clock action).1 = .refused refusal) : (m.act clock action).2 = m := by
  cases action with
  | create table => cases refused
  | drop table => cases refused
  | write table kind row =>
    have writes := write_writes clock m table kind row
    simp only [act] at refused ⊢
    generalize m.write clock table kind row = result at writes refused ⊢
    cases writes with
    | refused reason => rfl
    | done found wrote => cases refused
  | get table p r =>
    simp only [act]
    cases m.table table <;> rfl

theorem tables_insert_other {table name : String} (other : name ≠ table) (s : Storage) :
    (m.tables.insert table s)[name]? = m.tables[name]? := by
  simp [Std.ExtTreeMap.getElem?_insert,Ne.symm other]

theorem act_other {action : Action} {name : String} (other : name ≠ action.table) :
    (m.act clock action).2.tables[name]? = m.tables[name]? := by
  cases action with
  | create table =>
    simp only [act,create]
    split
    · rfl
    · exact tables_insert_other other {}
  | drop table =>
    have distinct : table ≠ name := Ne.symm other
    simp [act,drop,Std.ExtTreeMap.getElem?_erase,distinct]
  | write table kind row =>
    have writes := write_writes clock m table kind row
    simp only [act]
    generalize m.write clock table kind row = result at writes ⊢
    cases writes with
    | refused reason => rfl
    | done found wrote => exact tables_insert_other other _
  | get table p r =>
    simp only [act]
    cases m.table table <;> rfl

-- Tables in partitions answer as plain maps do, whatever has been asked of them
-- before. What is refused changes nothing, and what is asked of one table
-- changes no other table.
theorem refines_plain (clock : Clock) (actions : List Action) :
    answers {} clock actions = Plain.Tables.answers {} clock actions ∧
    ∀ (m : Memory) (action : Action),
      (∀ refusal, (m.act clock action).1 = .refused refusal → (m.act clock action).2 = m) ∧
      ∀ name, name ≠ action.table → (m.act clock action).2.tables[name]? = m.tables[name]? :=
  ⟨simulates_empty.answers clock actions,fun _ _ => ⟨fun _ => act_refused,fun _ => act_other⟩⟩

end Memory
end TypedTable
