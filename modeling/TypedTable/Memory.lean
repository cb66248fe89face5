import TypedTable.Backend
import TypedTable.Filter.Grammar
import TypedTable.Storage.Scan

namespace TypedTable

-- Named tables, and how many stamps their writes have used.
structure Memory where
  tables : Std.ExtTreeMap String Storage := ∅
  issued : Nat := 0

-- The stamps in the order in which they are used.
abbrev Clock := Nat → Stamp

namespace Memory

-- Whether the table is new. An existing table is left as it is.
def create (m : Memory) (table : String) : Bool × Memory :=
  if m.tables.contains table then (false, m)
  else (true, { m with tables := m.tables.insert table {} })

-- Whether there was a table to drop.
def drop (m : Memory) (table : String) : Bool × Memory :=
  (m.tables.contains table, { m with tables := m.tables.erase table })

def table (m : Memory) (name : String) : Except Refusal Storage :=
  match m.tables[name]? with
  | some s => .ok s
  | none => .error (.tableNotFound name)

-- Deletions are not stamped.
def usesStamp : WriteKind → Bool
  | .delete => false
  | _ => true

def write (clock : Clock) (m : Memory) (name : String) (kind : WriteKind) (row : Bag) :
    Except Refusal Bag × Memory :=
  match m.table name with
  | .error e => (.error e, m)
  | .ok s =>
    match s.write kind (clock m.issued) row with
    | .error e => (.error e, m)
    | .ok (answer, s') =>
      (.ok answer,
        { tables := m.tables.insert name s', issued := m.issued + if usesStamp kind then 1 else 0 })

-- The table must exist before its filter is read.
def segment (m : Memory) (name : String) (request : Request) (limit : Nat)
    (start : Option Position) : Except Failure Segment :=
  match m.table name with
  | .error e => .error (.storage e)
  | .ok s =>
    match request.filter with
    | none => .ok (s.scan none limit start)
    | some text =>
      match Filter.ofText? text with
      | .error e => .error (.filter e)
      | .ok f => .ok (s.scan (some f) limit start)

-- Every segment but the last has a row, so a scan takes one segment more than
-- there are rows at most.
def patience (m : Memory) (name : String) : Nat :=
  match m.table name with
  | .error _ => 1
  | .ok s => s.rows.length + 1

def backend (clock : Clock) : Backend Memory where
  segment name request limit start := do
    match (← get).segment name request limit start with
    | .ok segment => return segment
    | .error e => throw e
  write name kind row := do
    let (answer, m) := (← get).write clock name kind row
    set m
    match answer with
    | .ok row => return row
    | .error e => throw (.storage e)
  patience := patience

end Memory
end TypedTable
