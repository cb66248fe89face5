import TypedTable.Backend
import TypedTable.Config
import TypedTable.Query.Planner
import TypedTable.Record.Codec

namespace TypedTable

-- A table of records of one type behind a store.
structure Table (ρ σ : Type) where
  name : String
  type : RecordType ρ
  backend : Backend σ
  config : Config
  mapping : Mapping

abbrev TableM (σ : Type) := ExceptT Error (StateM σ)

namespace Table

variable {ρ σ : Type}

def make (name : String) (type : RecordType ρ) (backend : Backend σ) (config : Config) :
    Except Error (Table ρ σ) := do
  if config.pageSize = 0 then throw (.outOfRange .emptyPage)
  return ⟨name, type, backend, config, ← type.mapping⟩

def root (t : Table ρ σ) : Chain := .root t.name

def plan (t : Table ρ σ) (env : Environment) (chain : Chain) :
    Except Error Plan :=
  Planner.plan ⟨env, t.mapping.names, t.config.maxTake⟩ t.name chain

-- Only so many rows are asked for as the cardinality method needs to decide.
def request (so : Plan) : Request where
  filter := so.filter
  take :=
    match so.take, so.cardinality.map Cardinality.needed with
    | some take, some needed => some (min take needed)
    | take, needed => take <|> needed

-- A failure of the store is an error of the table.
def ask {α : Type} (asked : StoreM σ α) : TableM σ α := asked.adapt .storage

def fetch (t : Table ρ σ) (so : Plan) : TableM σ (List ρ) := do
  let rows ← ask (t.backend.query t.name (request so) t.config.pageSize)
  MonadExcept.ofExcept (rows.mapM t.type.toRecord)

-- A chain with a cardinality method leaves at most one record.
def execute (t : Table ρ σ) (env : Environment) (chain : Chain) : TableM σ (List ρ) := do
  let so ← t.plan env chain
  let records ← t.fetch so
  match so.cardinality with
  | some c => return (← c.apply records).toList
  | none => return records

def executeOne (t : Table ρ σ) (env : Environment) (chain : Chain) : TableM σ (Option ρ) := do
  let so ← t.plan env chain
  match so.cardinality with
  | some c => c.apply (← t.fetch so)
  | none => throw (.invalidOperation .noCardinality)

-- For methods that answer with a record or fail.
def required (t : Table ρ σ) (env : Environment) (chain : Chain) : TableM σ ρ := do
  match ← t.executeOne env chain with
  | some record => return record
  | none => throw (.invalidOperation .noElements)

def toList (t : Table ρ σ) (env : Environment) : TableM σ (List ρ) := t.execute env t.root

def toListWhere (t : Table ρ σ) (env : Environment) (predicate : Expr) : TableM σ (List ρ) :=
  t.execute env (t.root.call .filter [predicate])

def take (t : Table ρ σ) (env : Environment) (count : Nat) : TableM σ (List ρ) :=
  t.execute env (t.root.call .take [.constant (.int64 (.ofNat count))])

def cardinalityCall (t : Table ρ σ) (c : Cardinality) (predicate : Option Expr) : Chain :=
  t.root.call (.cardinality c) predicate.toList

def first (t : Table ρ σ) (env : Environment) (predicate : Option Expr) : TableM σ ρ :=
  t.required env (t.cardinalityCall .first predicate)

def firstOrDefault (t : Table ρ σ) (env : Environment) (predicate : Option Expr) :
    TableM σ (Option ρ) :=
  t.executeOne env (t.cardinalityCall .firstOrDefault predicate)

def single (t : Table ρ σ) (env : Environment) (predicate : Option Expr) : TableM σ ρ :=
  t.required env (t.cardinalityCall .single predicate)

def singleOrDefault (t : Table ρ σ) (env : Environment) (predicate : Option Expr) :
    TableM σ (Option ρ) :=
  t.executeOne env (t.cardinalityCall .singleOrDefault predicate)

-- Writes the row of a record. The answer is the record with what the store
-- wrote into the row; a deletion answers with the record as it was.
def write (t : Table ρ σ) (kind : WriteKind) (record : ρ) : TableM σ ρ := do
  let stored ← ask (t.backend.write t.name kind (← t.type.toBag record))
  if kind = .delete then return record
  t.type.overlay record stored

def writeOne (t : Table ρ σ) (kind : WriteKind) (record : Option ρ) : TableM σ ρ :=
  match record with
  | some record => t.write kind record
  | none => throw (.nullArgument "entity")

-- One after the other; the first write that fails ends it, and the writes
-- before it stay.
def writeMany (t : Table ρ σ) (kind : WriteKind) (records : Option (List ρ)) :
    TableM σ (List ρ) :=
  match records with
  | some records => records.mapM (t.write kind)
  | none => throw (.nullArgument "entities")

def add (t : Table ρ σ) (record : Option ρ) : TableM σ ρ := t.writeOne .insert record

def update (t : Table ρ σ) (record : Option ρ) : TableM σ ρ := t.writeOne .replace record

def remove (t : Table ρ σ) (record : Option ρ) : TableM σ Unit :=
  discard (t.writeOne .delete record)

def addMany (t : Table ρ σ) (records : Option (List ρ)) : TableM σ (List ρ) :=
  t.writeMany .insert records

def updateMany (t : Table ρ σ) (records : Option (List ρ)) : TableM σ (List ρ) :=
  t.writeMany .replace records

def removeMany (t : Table ρ σ) (records : Option (List ρ)) : TableM σ Unit :=
  discard (t.writeMany .delete records)

end Table
end TypedTable
