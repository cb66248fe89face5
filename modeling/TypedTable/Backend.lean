import TypedTable.Error
import TypedTable.Segment

namespace TypedTable

-- A request to a store: it may fail, and the store goes on in either case.
abbrev StoreM (σ : Type) := ExceptT Failure (StateM σ)

-- Anything that scans tables in segments and writes single rows.
structure Backend (σ : Type) where
  segment : (table : String) → Request → (limit : Nat) → Option Position → StoreM σ Segment
  write : (table : String) → WriteKind → Bag → StoreM σ Bag
  -- More segments than this no scan of the table takes from this state on.
  patience : σ → (table : String) → Nat

namespace Backend

variable {σ : Type}

-- How many more rows a query may ask for.
def remaining (request : Request) (pageSize : Nat) (collected : List Bag) : Nat :=
  match request.take with
  | some limit => limit - collected.length
  | none => pageSize

-- Asks for segments, each from where the one before it ended, until enough
-- rows are collected or a segment says that it is the last one.
def collect (b : Backend σ) (table : String) (request : Request) (pageSize : Nat) :
    (patience : Nat) → (collected : List Bag) → Option Position → StoreM σ (List Bag)
  | patience, collected, start =>
    if remaining request pageSize collected = 0 then pure collected
    else
      match patience with
      | 0 => throw .unfinished
      | patience + 1 => do
        let limit := min (remaining request pageSize collected) pageSize
        let segment ← b.segment table request limit start
        match segment.next with
        | some position =>
          b.collect table request pageSize patience (collected ++ segment.rows) (some position)
        | none => pure (collected ++ segment.rows)

-- All rows of a query; a store that answers with too many is cut short.
def query (b : Backend σ) (table : String) (request : Request) (pageSize : Nat) :
    StoreM σ (List Bag) := do
  let rows ← b.collect table request pageSize (b.patience (← get) table) [] none
  match request.take with
  | some limit => return rows.take limit
  | none => return rows

end Backend
end TypedTable
