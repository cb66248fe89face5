import TypedTable.Proofs.Query.Accepted
import TypedTable.Proofs.Record.Range
import TypedTable.Proofs.Table.Writes

namespace TypedTable

-- The rows with this value in the column, in the order of their keys.
def Storage.holding (s : Storage) (column : String) (v : Value) : List Bag :=
  (s.rows.map Prod.snd).filter fun row => (row[column]?.bind (·.compare? v)) == some .eq

theorem Storage.mem_holding {s : Storage} {p q column : String} {row : Bag} {v : Value}
    (stored : s.get? p q = some row) (held : row[column]? = some v) (equal : v.compare? v = some .eq) :
    row ∈ s.holding column v := by
  have listed : row ∈ s.rows.map Prod.snd := List.mem_map.mpr ⟨(⟨p,q⟩,row),mem_rows.mpr stored,rfl⟩
  refine List.mem_filter.mpr ⟨listed,?_⟩
  rw [held,Option.bind_some,equal]
  rfl

theorem Filter.holds_eq (row : Bag) (column : String) (v : Value) :
    Filter.holds row column .eq v = ((row[column]?.bind (·.compare? v)) == some .eq) := by
  unfold Filter.holds
  cases row[column]?.bind (·.compare? v) with
  | none => rfl
  | some order => rfl

namespace Expr

variable {v : Value}

-- Whether a member of the parameter has this value.
def equals (name : String) (v : Value) : Expr := .predicate (.compare (.field name) .eq (.constant v))

theorem equals_text (env : Environment) (names : NameTable) (name : String)
    (finite : ∀ x, v = .double x → x.isFinite = true) :
    filterText env names (equals name v) = .ok (names.resolve name ++ " " ++ Comparison.eq.token ++ " " ++ v.literal) := by
  have condition : filterText env names (equals name v) =
      literal v >>= fun text => .ok (names.resolve name ++ " " ++ Comparison.eq.token ++ " " ++ text) := rfl
  rw [condition,literal_finite finite]
  rfl

-- What is compared in the end is what the literal says.
theorem equals_read {column : String} (named : IsName column) (spelled : v.IsSpelled) :
    Filter.ofText? (column ++ " " ++ Comparison.eq.token ++ " " ++ v.literal) =
      .ok (.compare column .eq v.readBack) := by
  have lexes := (Lexer.lexes_column named).join
    ((Lexer.lexes_comparison .eq).join (Lexer.lexes_readBack spelled))
  refine Spells.ofText? ⟨_,?_,(Grammar.Derives.columnFirst column .eq v.readBack).whole⟩
  simpa using lexes

end Expr

namespace Table

variable {ρ : Type} {t : Table ρ Memory} {clock : Clock} {m m' : Memory} {s s' : Storage} {r : ρ} {row bag : Bag}
  {p q : String}

-- What a table is like that could be made.
theorem make_parts {name : String} {type : RecordType ρ} {backend : Backend Memory} {config : Config}
    (made : make name type backend config = .ok t) :
    t.backend = backend ∧ 1 ≤ t.config.pageSize ∧ t.type.mapping = .ok t.mapping := by
  unfold make at made
  split at made
  · cases made
  · rename_i some_row
    obtain ⟨mapping,built,whole⟩ := bind_parts made
    cases whole
    exact ⟨rfl,Nat.pos_of_ne_zero some_row,built⟩

-- An addition of the record has stored this row under these keys.
def Stores (t : Table ρ Memory) (r : ρ) (p q : String) (row : Bag) : Prop :=
  ∃ m result m' s', Ran (t.add (some r)) m result m' ∧
    (∀ s, m.tables[t.name]? = some s → s.get? p q = none) ∧
    m'.tables[t.name]? = some s' ∧ s'.get? p q = some row

theorem Stores.stamped (store : t.backend = Memory.backend clock) (stores : t.Stores r p q row) :
    ∃ bag n, t.type.toBag r = .ok bag ∧ row = Storage.stamped (clock n) bag := by
  obtain ⟨m,result,m',s',ran,before,found,stored⟩ := stores
  obtain ⟨result',m'',ran',wrote⟩ := ran_write store .insert r m
  obtain ⟨rfl,rfl⟩ := Ran.unique ran ran'
  cases wrote with
  | unencoded | refused =>
    rw [before s' found] at stored
    cases stored
  | @done bag _ _ encoded written =>
    have writes := Memory.write_writes clock m t.name .insert bag
    rw [written] at writes
    cases writes with
    | @done s _ _ there wrote =>
      obtain ⟨p',q',_,does⟩ := Storage.write_exact.mp wrote
      rw [Std.ExtTreeMap.getElem?_insert_self] at found
      cases found
      cases does with
      | insert free =>
        rw [Storage.get?_put] at stored
        split at stored
        · cases stored
          exact ⟨bag,m.issued,encoded,rfl⟩
        · rw [before s there] at stored
          cases stored

theorem Stores.finite (store : t.backend = Memory.backend clock) (built : t.type.mapping = .ok t.mapping)
    (range : t.type.InRange) (stores : t.Stores r p q row) {column : String} {x : Double}
    (held : row[column]? = some (.double x)) : x.isFinite = true := by
  obtain ⟨bag,n,encoded,rfl⟩ := stores.stamped store
  rw [Storage.stamped,Std.ExtTreeMap.getElem?_insert,Std.ExtTreeMap.getElem?_insert] at held
  split at held
  · cases held
  split at held
  · cases held
  · exact RecordType.toBag_finite range built encoded held

-- A query with one predicate decodes all rows that its filter accepts.
theorem ran_toListWhere {env : Environment} {predicate : Expr} {text : String} {filter : Filter}
    (store : t.backend = Memory.backend clock) (paged : 1 ≤ t.config.pageSize)
    (found : m.tables[t.name]? = some s) (written : predicate.filterText env t.mapping.names = .ok text)
    (read : Filter.ofText? text = .ok filter) :
    Ran (t.toListWhere env predicate) m ((Storage.matching (some filter) s.rows).mapM t.type.toRecord) m := by
  have planned : t.plan env (t.root.call .filter [predicate]) = .ok { filter := some text } :=
    Planner.plan_walk.mpr (Planner.filtered_walk (.some written) rfl)
  have reads : Reads ({ filter := some text } : Plan).filter (some filter) := .some read
  have fetched := ran_fetch_rows store paged found reads
  exact Ran.bind_lift planned fetched.bind_pure

theorem ran_toListWhere_equals {f : Field} {v : Value} (store : t.backend = Memory.backend clock)
    (paged : 1 ≤ t.config.pageSize) (built : t.type.mapping = .ok t.mapping) (member : f ∈ t.mapping.stored)
    (named : IsName f.column) (spelled : v.IsSpelled) (env : Environment) (found : m.tables[t.name]? = some s) :
    Ran (t.toListWhere env (.equals f.name v)) m ((s.holding f.column v.readBack).mapM t.type.toRecord) m := by
  have finite : ∀ x, v = .double x → x.isFinite = true := by
    rintro x rfl
    exact spelled
  have written := Expr.equals_text env t.mapping.names f.name finite
  rw [(Mapping.build_sound built).resolve member] at written
  have holding : Storage.matching (some (.compare f.column .eq v.readBack)) s.rows =
      s.holding f.column v.readBack := by
    rw [Storage.matching,Storage.holding,List.filter_map]
    congr 1
    refine List.filter_congr fun entry _ => ?_
    exact Filter.holds_eq entry.2 f.column v.readBack
  rw [← holding]
  exact ran_toListWhere store paged found written (Expr.equals_read named spelled)

-- A record is found by each of its values: a query for the value decodes the
-- rows that hold it, one of which is the row of the record, for as long as that
-- is stored. The literal of an instant has to say all of it.
theorem toListWhere_finds_added {name : String} {type : RecordType ρ} {config : Config}
    (made : make name type (Memory.backend clock) config = .ok t)
    (named : ∀ f ∈ t.mapping.stored, IsName f.column) (range : t.type.InRange) (stores : t.Stores r p q row)
    {f : Field} (member : f ∈ t.mapping.stored) {v : Value} (held : row[f.column]? = some v)
    (fixed : ∀ time, v = .dateTime time → time.IsFixed) (env : Environment)
    (found : m.tables[t.name]? = some s) (kept : s.get? p q = some row) :
    row ∈ s.holding f.column v ∧
    Ran (t.toListWhere env (.equals f.name v)) m ((s.holding f.column v).mapM t.type.toRecord) m ∧
    ∀ records, (s.holding f.column v).mapM t.type.toRecord = .ok records →
      ∃ record ∈ records, t.type.toRecord row = .ok record := by
  obtain ⟨store,paged,built⟩ := make_parts made
  have finite : ∀ x, v = .double x → x.isFinite = true := by
    rintro x rfl
    exact stores.finite store built range held
  have number : ∀ x, v = .double x → x.isNaN = false := fun x same =>
    Double.isNaN_of_finite (finite x same)
  have spelled := Value.isSpelled_of finite fun time same => (fixed time same).spelled
  have inside : row ∈ s.holding f.column v := Storage.mem_holding kept held (Value.compare?_self number)
  have ran := ran_toListWhere_equals store paged built member (named f member) spelled env found
  rw [Value.readBack_fixed fixed] at ran
  exact ⟨inside,ran,fun records decoded => mem_of_mapM decoded inside⟩

def sensors : Table Shape.sensor.fields.Record Memory :=
  ⟨"sensors",Shape.sensorType,Memory.backend ticks,{},Shape.sensorMapping⟩

def calibrated (t : Instant) : Shape.sensor.fields.Record :=
  ((some t : Option Instant),none,(⟨0x4035800000000000⟩ : Double),(12 : Int32),"S-001","Oslo",())

-- The store after the sensor is added to these rows.
def withSensor (s : Storage) (t : Instant) : Memory :=
  ((sensors.add (some (calibrated t))).run.run ⟨(∅ : Std.ExtTreeMap String Storage).insert "sensors" s,0⟩).2

-- What the row of the sensor has in a column.
def sensorColumn? (m : Memory) (column : String) : Option Value :=
  m.tables["sensors"]?.bind fun s => (s.get? "Oslo" "S-001").bind fun row => row[column]?

theorem stores_sensor {t : Instant} {column : String} {v : Value} (free : s.get? "Oslo" "S-001" = none)
    (held : sensorColumn? (withSensor s t) column = some v) : ∃ row s', sensors.Stores (calibrated t) "Oslo" "S-001" row ∧
      row[column]? = some v ∧ (withSensor s t).tables[sensors.name]? = some s' ∧ s'.get? "Oslo" "S-001" = some row := by
  obtain ⟨s',found,rest⟩ := Option.bind_eq_some_iff.mp held
  obtain ⟨row,stored,held⟩ := Option.bind_eq_some_iff.mp rest
  refine ⟨row,s',⟨_,_,withSensor s t,s',Ran.self _ _,?_,found,stored⟩,held,found,stored⟩
  intro s'' there
  cases Std.ExtTreeMap.getElem?_insert_self.symm.trans there
  exact free

def noVariables : Environment := fun _ => .boolean false

-- A time that the fixed form says all of, and one that it cuts.
def tick : Instant := ⟨0,100,by decide,by decide⟩

def offTick : Instant := ⟨0,1,by decide,by decide⟩

theorem sensors_named : ∀ f ∈ sensors.mapping.stored, IsName f.column := by decide +kernel

theorem toListWhere_finds_added_tick : ∃ (row : Bag) (s : Storage),
    sensors.Stores (calibrated tick) "Oslo" "S-001" row ∧ row["Calibrated"]? = some (.dateTime tick) ∧
    row ∈ s.holding "Calibrated" (.dateTime tick) ∧
    Ran (sensors.toListWhere noVariables (.equals "Calibrated" (.dateTime tick))) (withSensor {} tick)
      ((s.holding "Calibrated" (.dateTime tick)).mapM sensors.type.toRecord) (withSensor {} tick) := by
  have held : sensorColumn? (withSensor {} tick) "Calibrated" = some (.dateTime tick) := by decide +kernel
  obtain ⟨row,s,stores,held,found,kept⟩ := stores_sensor rfl held
  have made : make "sensors" sensors.type (Memory.backend ticks) {} = .ok sensors := by rfl
  have member : ⟨"Calibrated","Calibrated",some .dateTime,none,false⟩ ∈ sensors.mapping.stored := by decide
  have fixed : ∀ time, Value.dateTime tick = .dateTime time → time.IsFixed := by
    rintro _ ⟨⟩
    exact ⟨rfl,rfl,by decide,by decide⟩
  obtain ⟨inside,ran,_⟩ := toListWhere_finds_added made sensors_named Shape.inRange stores member held fixed
    noVariables found kept
  exact ⟨row,s,stores,held,inside,ran⟩

-- A row of the same table whose reading is no number.
def unreadable : Storage := ({} : Storage).put "Oslo" "S-002"
  (((((∅ : Bag).insert Column.partitionKey (.string "Oslo")).insert Column.rowKey (.string "S-002")).insert
    "SampleCount" (.int32 12)).insert "Reading" (.string "none"))

-- A time between two ticks is looked for as the tick before it. A row that is
-- no record stands in the way of the others.
theorem added_not_found :
    (sensorColumn? (withSensor {} offTick) "Calibrated" = some (.dateTime offTick) ∧
      Ran (sensors.toListWhere noVariables (.equals "Calibrated" (.dateTime offTick))) (withSensor {} offTick)
        (.ok []) (withSensor {} offTick)) ∧
    sensorColumn? (withSensor unreadable tick) "SampleCount" = some (.int32 12) ∧
    ∃ e, Ran (sensors.toListWhere noVariables (.equals "Samples" (.int32 12))) (withSensor unreadable tick)
      (.error e) (withSensor unreadable tick) := by
  have held : sensorColumn? (withSensor {} offTick) "Calibrated" = some (.dateTime offTick) := by decide +kernel
  have held' : sensorColumn? (withSensor unreadable tick) "SampleCount" = some (.int32 12) := by decide +kernel
  have built : sensors.type.mapping = .ok sensors.mapping := Shape.sensor_built
  refine ⟨⟨held,?_⟩,held',?_⟩
  · obtain ⟨row,s,_,_,found,_⟩ := stores_sensor rfl held
    have member : ⟨"Calibrated","Calibrated",some .dateTime,none,false⟩ ∈ sensors.mapping.stored := by decide
    have spelled : offTick.IsSpelled := ⟨by decide,by decide⟩
    have ran := ran_toListWhere_equals (v := .dateTime offTick) rfl (by decide) built member
      (sensors_named _ member) spelled noVariables found
    have nothing : (withSensor {} offTick).tables[sensors.name]?.map (fun s =>
        s.holding "Calibrated" (Value.dateTime offTick).readBack) = some [] := by
      decide +kernel
    rw [found] at nothing
    have empty : s.holding "Calibrated" (Value.dateTime offTick).readBack = [] := Option.some.inj nothing
    rw [empty] at ran
    exact ran
  · obtain ⟨row,s,_,_,found,_⟩ := stores_sensor (by decide +kernel) held'
    have member : ⟨"Samples","SampleCount",some .int32,none,false⟩ ∈ sensors.mapping.stored := by decide
    have ran := ran_toListWhere_equals (v := .int32 12) rfl (by decide) built member
      (sensors_named _ member) trivial noVariables found
    have fails : (withSensor unreadable tick).tables[sensors.name]?.map (fun s =>
        ((s.holding "SampleCount" (.int32 12)).mapM sensors.type.toRecord).isOk) = some false := by
      decide +kernel
    rw [found] at fails
    have failed : ((s.holding "SampleCount" (.int32 12)).mapM sensors.type.toRecord).isOk = false :=
      Option.some.inj fails
    change Ran _ _ ((s.holding "SampleCount" (.int32 12)).mapM sensors.type.toRecord) _ at ran
    cases decoded : (s.holding "SampleCount" (.int32 12)).mapM sensors.type.toRecord with
    | ok records =>
      rw [decoded] at failed
      cases failed
    | error e =>
      rw [decoded] at ran
      exact ⟨e,ran⟩

end Table
end TypedTable
